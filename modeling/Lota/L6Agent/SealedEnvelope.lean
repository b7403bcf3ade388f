import Lota.L6Agent.SealFormat

/-!
# Sealed envelopes (`src/agent/tpm.c`, `src/agent/seal_envelope.c`)

An envelope's payload is encrypted with AES-256-GCM under a fresh key. The
key is sealed by the TPM to the state of selected PCRs, and the sealed key
travels in the envelope. The additional data is everything before the
ciphertext, with zeros for the tag: the sealer lays it out before there is a
tag, the opener blanks the tag's bytes of the blob it got.

The TPM and the cipher are parameters. `Tpm.Correct` says that a TPM gives
back what was sealed in the state it was sealed in, and never gives anything
else for the same object. `Evp.Ideal` says that the cipher opens exactly what
it was asked to seal. `Fresh` says that `RAND_bytes` does not repeat itself.

* `tpmUnsealSecret_seal`: the sealed key is given back.
* `unseal_eq`: everything an unsealing does.
* `sealed_envelope`: what was sealed is unsealed, only what was sealed is
  unsealed, and one changed byte is enough to be refused.
-/
namespace Lota.L6.SealedEnvelope
open Lota.Core Lota.L4.Token Lota.L6.SealFormat

/-! ## The TPM -/

/-- What the agent asks of the TPM and of its marshalling library. `S` is the
state that sealing depends on: the PCR values and the storage hierarchy. -/
structure Tpm (S : Type) where
  /-- The context is open. -/
  initialized : S → Bool
  /-- `seal_acquire_primary`. -/
  acquirePrimary : S → Except Errno Unit
  /-- `seal_compute_policy_digest`, for a PCR selection. -/
  policyDigest : S → Bytes → Except Errno Bytes
  /-- `Esys_Create` with the TPM's random draw, a policy and a secret, then the
  two halves of the object marshalled. -/
  create : S → Nat → Bytes → Bytes → Except Errno (Bytes × Bytes)
  /-- `tpm_read_pcr`, of the SHA-256 bank. -/
  readPcr : S → Nat → Except Errno (Blob 32)
  /-- `Tss2_MU_TPM2B_PUBLIC_Unmarshal`: how many bytes it consumes. -/
  publicSize : Bytes → Option Nat
  /-- `Tss2_MU_TPM2B_PRIVATE_Unmarshal`, likewise. -/
  privateSize : Bytes → Option Nat
  /-- `Esys_Load` of the two halves, a session with `Esys_PolicyPCR` over the
  selection, and `Esys_Unseal`. -/
  loadUnseal : S → Bytes → Bytes → Bytes → Except Errno Bytes

section
variable {S : Type} (T : Tpm S)

/-- The TPM gives back what was sealed. -/
structure Tpm.Correct : Prop where
  /-- What was marshalled is unmarshalled, whatever follows. -/
  publicSize : ∀ {st draw policy secret pub priv}, T.create st draw policy secret = .ok (pub, priv) →
    ∀ rest, T.publicSize (pub ++ rest) = some pub.length
  privateSize : ∀ {st draw policy secret pub priv}, T.create st draw policy secret = .ok (pub, priv) →
    T.privateSize priv = some priv.length
  /-- In the state and with the selection its policy was computed for, an
  object is unsealed to its secret. -/
  unseals : ∀ {st draw sel policy secret pub priv}, T.policyDigest st sel = .ok policy →
    T.create st draw policy secret = .ok (pub, priv) → T.loadUnseal st sel pub priv = .ok secret
  /-- In no state is it unsealed to something else. -/
  only : ∀ {st draw policy secret pub priv st' sel s}, T.create st draw policy secret =
    .ok (pub, priv) → T.loadUnseal st' sel pub priv = .ok s → s = secret

/-- `pcr_mask & (1U << i)`. -/
def selected (pcrMask : UInt32) (i : Nat) : Bool := pcrMask &&& (1 : UInt32) <<< UInt32.ofNat i ≠ 0

def pcrCount : Nat := 24

/-- mirrors src/agent/tpm.c:4227-4238 -/
def sealMaskToSelection (pcrMask : UInt32) : Bytes :=
  (List.range pcrCount).foldl (fun sel i =>
    if selected pcrMask i then sel.modify (i / 8) (· ||| (1 : UInt8) <<< UInt8.ofNat (i % 8))
      else sel) [0, 0, 0]

/-- mirrors src/agent/tpm.c:4356-4389 -/
def sealComputePcrDigest (st : S) (pcrMask : UInt32) : Except Errno (Blob 32) := do
  let values ← ((List.range pcrCount).filter (selected pcrMask)).mapM (T.readPcr st)
  .ok (sha256 (values.flatMap (·.toList)))

/-- `if (pcr_mask == 0) pcr_mask = LOTA_SEAL_DEFAULT_PCR_MASK`. -/
def orDefaultMask (pcrMask : UInt32) : UInt32 := if pcrMask = 0 then sealDefaultPcrMask else pcrMask

/-- mirrors src/agent/tpm.c:4391-4524 -/
def tpmSealSecret (st : S) (draw : Nat) (secret : Bytes) (pcrMask : UInt32) (outCap : Nat) :
    Except Errno Bytes :=
  if T.initialized st = false then .error .einval
  else if secret.length = 0 ∨ secret.length > sealMaxSecret then .error .einval
  else if sealValidatePcrMask (orDefaultMask pcrMask) ≠ .ok () then .error .einval
  else do
    let pcrMask := orDefaultMask pcrMask
    T.acquirePrimary st
    let policy ← T.policyDigest st (sealMaskToSelection pcrMask)
    let (pub, priv) ← T.create st draw policy secret
    -- each half is marshalled into a buffer of its own
    if pub.length = 0 ∨ pub.length > sealMaxPub then .error .eio
    else if priv.length = 0 ∨ priv.length > sealMaxPriv then .error .eio
    else
      let pcrDigest ← sealComputePcrDigest T st pcrMask
      if sealHeaderSize + pub.length + priv.length > outCap then .error .enospc
      else
        let header ← sealSerializeHeader
          { pcrMask, pcrAlg := sealPcrAlgSha256, pcrDigest, pubLen := UInt16.ofNat pub.length,
            privLen := UInt16.ofNat priv.length }
        .ok (header ++ (pub ++ priv))

/-- mirrors src/agent/tpm.c:4526-4647 -/
def tpmUnsealSecret (st : S) (blob : Bytes) (outCap : Nat) : Except Errno Bytes :=
  if T.initialized st = false then .error .einval
  else do
    let m ← sealParseHeader blob
    let body := blob.drop sealHeaderSize
    if T.publicSize body ≠ some m.pubLen.toNat then .error .einval
    else if T.privateSize (body.drop m.pubLen.toNat) ≠ some m.privLen.toNat then .error .einval
    else
      T.acquirePrimary st
      let data ← T.loadUnseal st (sealMaskToSelection m.pcrMask) (body.take m.pubLen.toNat)
          (body.drop m.pubLen.toNat)
      if data.length > outCap then .error .enospc else .ok data

/-! ## The sealed key -/

variable {T} {st st' : S} {draw outCap cap : Nat} {secret b : Bytes} {pcrMask : UInt32}

/-- What a sealing puts together. -/
theorem tpmSealSecret_ok (h : tpmSealSecret T st draw secret pcrMask outCap = .ok b) :
    T.initialized st = true ∧ T.acquirePrimary st = .ok () ∧ ∃ policy pub priv m,
      T.policyDigest st (sealMaskToSelection m.pcrMask) = .ok policy ∧
      T.create st draw policy secret = .ok (pub, priv) ∧
      m.pubLen.toNat = pub.length ∧ m.privLen.toNat = priv.length ∧
      sealSerializeHeader m = .ok m.headerBytes ∧ b = m.headerBytes ++ (pub ++ priv) := by
  unfold tpmSealSecret at h
  simp only [except_guard_ok, except_bind_ok, Prod.exists] at h
  obtain ⟨hinit, -, -, _, hprim, policy, hpol, pub, priv, hcreate, hpub, hpriv, digest, -, -,
      header, hser, hb⟩ := h
  obtain ⟨hv, rfl⟩ := sealSerializeHeader_ok.mp hser
  unfold sealMaxPub at hpub
  unfold sealMaxPriv at hpriv
  refine ⟨by simpa using hinit, hprim, policy, pub, priv,
    { pcrMask := orDefaultMask pcrMask, pcrAlg := sealPcrAlgSha256, pcrDigest := digest,
      pubLen := UInt16.ofNat pub.length, privLen := UInt16.ofNat priv.length },
    hpol, hcreate, ?_, ?_, hser, (Except.ok.inj hb).symm⟩
  · exact toNat_length16 (by omega)
  · exact toNat_length16 (by omega)

/-- What an unsealing makes of a sealed blob. -/
theorem tpmUnsealSecret_sealed (hT : T.Correct) {policy pub priv : Bytes} {m : SealMeta}
    (hcreate : T.create st draw policy secret = .ok (pub, priv)) (hpub : m.pubLen.toNat = pub.length)
    (hpriv : m.privLen.toNat = priv.length) (hser : sealSerializeHeader m = .ok m.headerBytes) :
    tpmUnsealSecret T st' (m.headerBytes ++ (pub ++ priv)) cap =
      if T.initialized st' = false then .error .einval
      else (do
        T.acquirePrimary st'
        let data ← T.loadUnseal st' (sealMaskToSelection m.pcrMask) pub priv
        if data.length > cap then .error .enospc else .ok data) := by
  have hparse : sealParseHeader (m.headerBytes ++ (pub ++ priv)) = .ok m := by
    rw [sealParseHeader_iff, List.take_left' m.headerBytes_length]
    refine ⟨hser, ?_⟩
    rw [List.length_append, List.length_append, m.headerBytes_length]
    omega
  have hbody : (m.headerBytes ++ (pub ++ priv)).drop sealHeaderSize = pub ++ priv :=
    List.drop_left' m.headerBytes_length
  have hdrop : (pub ++ priv).drop m.pubLen.toNat = priv := List.drop_left' hpub.symm
  have htake : (pub ++ priv).take m.pubLen.toNat = pub := List.take_left' hpub.symm
  have hpsize : T.publicSize (pub ++ priv) = some m.pubLen.toNat := by
    rw [hpub]; exact hT.publicSize hcreate priv
  have hqsize : T.privateSize priv = some m.privLen.toNat := by rw [hpriv]; exact hT.privateSize hcreate
  unfold tpmUnsealSecret
  simp only [hparse, hbody, hdrop, htake, hpsize, hqsize, bind, Except.bind, ne_eq,
    not_true_eq_false, if_false]

/-- **Sealed key, round trip.** -/
theorem tpmUnsealSecret_seal (hT : T.Correct)
    (h : tpmSealSecret T st draw secret pcrMask outCap = .ok b)
    (hcap : secret.length ≤ cap) : tpmUnsealSecret T st b cap = .ok secret := by
  obtain ⟨hinit, hprim, policy, pub, priv, m, hpol, hcreate, hpub, hpriv, hser, rfl⟩ :=
    tpmSealSecret_ok h
  rw [tpmUnsealSecret_sealed hT hcreate hpub hpriv hser, hprim, hT.unseals hpol hcreate]
  simp [hinit, bind, Except.bind, hcap]

theorem orDefaultMask_idem (pcrMask : UInt32) :
    orDefaultMask (orDefaultMask pcrMask) = orDefaultMask pcrMask := by
  unfold orDefaultMask
  by_cases h : pcrMask = 0
  · rw [if_pos h, if_neg (by decide)]
  · rw [if_neg h, if_neg h]

/-- A secret is sealed into a blob of bounded length when the mask is valid and
the TPM answers. -/
theorem tpmSealSecret_seals (hinit : T.initialized st = true) (hpos : 1 ≤ secret.length)
    (hmax : secret.length ≤ sealMaxSecret)
    (hmask : sealValidatePcrMask (orDefaultMask pcrMask) = .ok ())
    (hprim : T.acquirePrimary st = .ok ())
    (hobject : ∃ policy pub priv, T.policyDigest st (sealMaskToSelection (orDefaultMask pcrMask)) =
      .ok policy ∧
      T.create st draw policy secret = .ok (pub, priv) ∧ 1 ≤ pub.length ∧ pub.length ≤ sealMaxPub ∧
      1 ≤ priv.length ∧ priv.length ≤ sealMaxPriv)
    (hpcrs : ∃ digest, sealComputePcrDigest T st (orDefaultMask pcrMask) = .ok digest) :
    ∃ b, tpmSealSecret T st draw secret pcrMask sealMaxBlob = .ok b ∧ 1 ≤ b.length ∧
    b.length ≤ sealMaxBlob := by
  obtain ⟨policy, pub, priv, hpol, hcreate, hpub, hpubMax, hpriv, hprivMax⟩ := hobject
  obtain ⟨digest, hdigest⟩ := hpcrs
  unfold sealMaxPub at hpubMax
  unfold sealMaxPriv at hprivMax
  let m : SealMeta :=
    { pcrMask := orDefaultMask pcrMask, pcrAlg := sealPcrAlgSha256, pcrDigest := digest,
      pubLen := UInt16.ofNat pub.length, privLen := UInt16.ofNat priv.length }
  have hpl : m.pubLen.toNat = pub.length := toNat_length16 (by omega)
  have hql : m.privLen.toNat = priv.length := toNat_length16 (by omega)
  have hlen : (m.headerBytes ++ (pub ++ priv)).length = 52 + pub.length + priv.length := by
    rw [List.length_append, List.length_append, m.headerBytes_length]
    unfold sealHeaderSize
    omega
  have hser : sealSerializeHeader m = .ok m.headerBytes := by
    refine sealSerializeHeader_ok.mpr ⟨⟨hmask, rfl, ?_, ?_⟩, rfl⟩
    · exact length16_passes hpl hpub hpubMax
    · exact length16_passes hql hpriv hprivMax
  refine ⟨m.headerBytes ++ (pub ++ priv), ?_, ?_, ?_⟩
  · unfold tpmSealSecret
    simp only [except_guard_ok, except_bind_ok, Prod.exists]
    refine ⟨by simp [hinit],
      by omega, by simp [hmask], (), hprim, policy, hpol, pub, priv, hcreate, ?_, ?_, digest,
      hdigest, ?_, m.headerBytes, hser, rfl⟩
    · unfold sealMaxPub
      omega
    · unfold sealMaxPriv
      omega
    · unfold sealHeaderSize
      rw [sealMaxBlob_eq]
      omega
  · omega
  · rw [sealMaxBlob_eq]
    omega

/-- In no state does a sealed blob give another secret. -/
theorem tpmUnsealSecret_only (hT : T.Correct)
    (h : tpmSealSecret T st draw secret pcrMask outCap = .ok b) {s : Bytes}
    (hs : tpmUnsealSecret T st' b cap = .ok s) : s = secret := by
  obtain ⟨-, -, policy, pub, priv, m, -, hcreate, hpub, hpriv, hser, rfl⟩ := tpmSealSecret_ok h
  rw [tpmUnsealSecret_sealed hT hcreate hpub hpriv hser] at hs
  simp only [except_guard_ok, except_bind_ok, Except.ok.injEq] at hs
  obtain ⟨-, _, -, data, hload, -, rfl⟩ := hs
  exact hT.only hcreate hload

end

/-! ## The cipher -/

/-- AES-256-GCM: key, nonce, additional data and text. -/
structure Evp where
  encrypt : Blob 32 → Blob 12 → Bytes → Bytes → Except Errno (Bytes × Blob 16)
  decrypt : Blob 32 → Blob 12 → Bytes → Bytes → Blob 16 → Except Errno Bytes

/-- The cipher over the sealings `Issued`: it adds no padding, opens what was
sealed, and opens nothing else. -/
structure Evp.Ideal (E : Evp) (Issued : Blob 32 → Blob 12 → Bytes → Bytes → Prop) : Prop where
  length : ∀ {k n aad pt ct tag}, E.encrypt k n aad pt = .ok (ct, tag) → ct.length = pt.length
  correct : ∀ {k n aad pt ct tag}, Issued k n aad pt → E.encrypt k n aad pt = .ok (ct, tag) →
    E.decrypt k n aad ct tag = .ok pt
  authentic : ∀ {k n aad ct tag pt}, E.decrypt k n aad ct tag = .ok pt →
    Issued k n aad pt ∧ E.encrypt k n aad pt = .ok (ct, tag)

def intMax : Nat := 2 ^ 31 - 1

section
variable (E : Evp)

/-- mirrors src/agent/seal_envelope.c:22-68 -/
def envelopeAeadSeal (kek : Blob 32) (nonce : Blob 12) (aad pt : Bytes) :
    Except Errno (Bytes × Blob 16) :=
  if pt.length = 0 ∨ pt.length > envelopeMaxPayload then .error .einval
  else if aad.length > intMax then .error .einval
  else E.encrypt kek nonce aad pt

/-- A tag that does not verify is `EBADMSG`, a failure of `decrypt`.
mirrors src/agent/seal_envelope.c:70-127 -/
def envelopeAeadOpen (kek : Blob 32) (nonce : Blob 12) (aad ct : Bytes) (tag : Blob 16) :
    Except Errno Bytes :=
  if ct.length = 0 ∨ ct.length > envelopeMaxPayload then .error .einval
  else if aad.length > intMax then .error .einval
  else E.decrypt kek nonce aad ct tag

end

/-! ## Sealing an envelope -/

/-- One call of `tpm_seal_secret_envelope`: its arguments, the state of the
TPM and what the random sources answer. -/
structure SealCall (S : Type) where
  state : S
  payload : Bytes
  pcrMask : UInt32
  outCap : Nat
  /-- `RAND_bytes` fails, for the key or for the nonce. -/
  randFails : Bool
  kek : Blob 32
  nonce : Blob 12
  /-- The TPM's own draw. -/
  draw : Nat

section
variable {S : Type} (T : Tpm S) (E : Evp)

/-- The header of a call, with no tag yet. -/
def SealCall.header (c : SealCall S) (kekBlob : Bytes) : EnvelopeMeta where
  kekBlobLen := UInt16.ofNat kekBlob.length
  payloadLen := UInt32.ofNat c.payload.length
  nonce := c.nonce
  tag := Blob.zero 16

/-- The header with a zero tag, then the sealed key: the additional data.
mirrors src/agent/tpm.c:4649-4702 -/
def sealLayout (c : SealCall S) : Except Errno Bytes :=
  if T.initialized c.state = false then .error .einval
  else if c.payload.length = 0 ∨ c.payload.length > envelopeMaxPayload then .error .einval
  else if sealValidatePcrMask (orDefaultMask c.pcrMask) ≠ .ok () then .error .einval
  else if c.randFails = true then .error .eio
  else do
    let kekBlob ← tpmSealSecret T c.state c.draw c.kek.toList (orDefaultMask c.pcrMask) sealMaxBlob
    if kekBlob.length = 0 ∨ kekBlob.length > sealMaxBlob then .error .eio
    else if envelopeHeaderSize + kekBlob.length + c.payload.length > c.outCap then .error .enospc
    else
      let header ← envelopeSerializeHeader (c.header kekBlob)
      .ok (header ++ kekBlob)

/-- `memcpy(out + 28, tag, 16)`. -/
def patchTag (out : Bytes) (tag : Blob 16) : Bytes := out.take 28 ++ (tag.toList ++ out.drop 44)

/-- mirrors src/agent/tpm.c:4649-4722 -/
def tpmSealSecretEnvelope (c : SealCall S) : Except Errno Bytes := do
  let aad ← sealLayout T c
  let (ct, tag) ← envelopeAeadSeal E c.kek c.nonce aad c.payload
  .ok (patchTag (aad ++ ct) tag)

/-- mirrors src/agent/tpm.c:4724-4779 -/
def tpmUnsealSecretEnvelope (st : S) (blob : Bytes) (outCap : Nat) : Except Errno Bytes :=
  if T.initialized st = false then .error .einval
  else do
    let m ← envelopeParseHeader blob
    if m.payloadLen.toNat > outCap then .error .enospc
    else
      let kekBlob := (blob.drop envelopeHeaderSize).take m.kekBlobLen.toNat
      let ct := (blob.drop (envelopeHeaderSize + m.kekBlobLen.toNat)).take m.payloadLen.toNat
      let kek ← tpmUnsealSecret T st kekBlob envelopeKekSize
      if kek.length ≠ envelopeKekSize then .error .einval
      else
        -- the additional data as it was sealed: the tag's bytes are zero
        let aad := patchTag (blob.take (envelopeHeaderSize + m.kekBlobLen.toNat)) (Blob.zero 16)
        envelopeAeadOpen E (toBlob 32 kek) m.nonce aad ct m.tag

/-- The sealings the calls of `H` asked of the cipher. -/
def Issued (H : List (SealCall S)) (k : Blob 32) (n : Blob 12) (aad pt : Bytes) : Prop :=
  ∃ c ∈ H, sealLayout T c = .ok aad ∧ c.kek = k ∧ c.nonce = n ∧ c.payload = pt

/-- `RAND_bytes` draws no key and no nonce twice. -/
def Fresh (H : List (SealCall S)) : Prop := H.Pairwise fun c d => c.kek ≠ d.kek ∧ c.nonce ≠ d.nonce

theorem Fresh.distinct {H : List (SealCall S)} (hF : Fresh H) {c d : SealCall S} (hc : c ∈ H)
    (hd : d ∈ H) (hne : c ≠ d) : c.kek ≠ d.kek ∧ c.nonce ≠ d.nonce := by
  have : Std.Symm fun c d : SealCall S => c.kek ≠ d.kek ∧ c.nonce ≠ d.nonce :=
    ⟨fun _ _ h => ⟨h.1.symm, h.2.symm⟩⟩
  exact List.Pairwise.forall hF hc hd hne

/-! ## The bytes of an envelope -/

/-- The 28 bytes before the tag. -/
def beforeTag (m : EnvelopeMeta) : Bytes :=
  toLE 4 envelopeMagic.toNat ++
    (toLE 2 envelopeVersion.toNat ++ (toLE 2 0 ++ (toLE 2 m.kekBlobLen.toNat ++
  (toLE 2 0 ++ (toLE 4 m.payloadLen.toNat ++ m.nonce.toList)))))

theorem beforeTag_length (m : EnvelopeMeta) : (beforeTag m).length = 28 := by
  simp [beforeTag]

theorem headerBytes_eq (m : EnvelopeMeta) :
    m.headerBytes = beforeTag m ++ (m.tag.toList ++ [0, 0, 0, 0]) := by
  simp only [EnvelopeMeta.headerBytes, beforeTag, List.append_assoc]

/-- Patching the tag into a header is serialising it with that tag. -/
theorem patchTag_header (m : EnvelopeMeta) (tag : Blob 16) (rest : Bytes) :
    patchTag (m.headerBytes ++ rest) tag = EnvelopeMeta.headerBytes { m with tag } ++ rest := by
  have hlen := beforeTag_length m
  have htake : (m.headerBytes ++ rest).take 28 = beforeTag m := by
    rw [headerBytes_eq, List.append_assoc]
    exact List.take_left' hlen
  have hdrop : (m.headerBytes ++ rest).drop 44 = [0, 0, 0, 0] ++ rest := by
    rw [headerBytes_eq, List.append_assoc, List.append_assoc, drop_field _ (by omega), hlen]
    exact List.drop_left' m.tag.toList_length
  unfold patchTag
  rw [htake, hdrop, headerBytes_eq]
  simp only [beforeTag, List.append_assoc]

variable {T E} {st : S} {blob p : Bytes} {cap : Nat} {c : SealCall S}

/-- An envelope cut into its parts. -/
structure Parts (blob : Bytes) (m : EnvelopeMeta) (kekBlob ct : Bytes) : Prop where
  bytes : blob = m.headerBytes ++ (kekBlob ++ ct)
  valid : m.Valid
  kekLen : kekBlob.length = m.kekBlobLen.toNat
  ctLen : ct.length = m.payloadLen.toNat

theorem Parts.parse {m : EnvelopeMeta} {kekBlob ct : Bytes} (h : Parts blob m kekBlob ct) :
    envelopeParseHeader blob = .ok m := by
  rw [envelopeParseHeader_iff, h.bytes, List.take_left' m.headerBytes_length,
    envelopeSerializeHeader_ok]
  refine ⟨⟨h.valid, rfl⟩, ?_⟩
  rw [List.length_append, List.length_append, m.headerBytes_length, h.kekLen, h.ctLen]
  omega

/-- The slices of the source are the parts. -/
theorem Parts.slices {m : EnvelopeMeta} {kekBlob ct : Bytes} (h : Parts blob m kekBlob ct) :
    (blob.drop envelopeHeaderSize).take m.kekBlobLen.toNat = kekBlob ∧
      (blob.drop (envelopeHeaderSize + m.kekBlobLen.toNat)).take m.payloadLen.toNat = ct ∧
      blob.take (envelopeHeaderSize + m.kekBlobLen.toNat) = m.headerBytes ++ kekBlob := by
  have hbody : blob.drop envelopeHeaderSize = kekBlob ++ ct := by
    rw [h.bytes]
    exact List.drop_left' m.headerBytes_length
  refine ⟨?_, ?_, ?_⟩
  · rw [hbody]
    exact List.take_left' h.kekLen
  · rw [← List.drop_drop, hbody, List.drop_left' h.kekLen, ← h.ctLen]
    exact List.take_length
  · rw [h.bytes, ← List.append_assoc]
    apply List.take_left'
    rw [List.length_append, m.headerBytes_length, h.kekLen]

/-- A blob that parses has parts. -/
theorem parts_of_parse {m : EnvelopeMeta} (h : envelopeParseHeader blob = .ok m) :
    ∃ kekBlob ct, Parts blob m kekBlob ct := by
  obtain ⟨hser, hlen⟩ := envelopeParseHeader_iff.mp h
  obtain ⟨hv, hbytes⟩ := envelopeSerializeHeader_ok.mp hser
  refine ⟨(blob.drop envelopeHeaderSize).take m.kekBlobLen.toNat,
    (blob.drop envelopeHeaderSize).drop m.kekBlobLen.toNat, ?_, hv, ?_, ?_⟩
  · rw [List.take_append_drop, hbytes, List.take_append_drop]
  · rw [List.length_take, List.length_drop]
    omega
  · rw [List.length_drop, List.length_drop]
    omega

/-- The additional data is short enough for the cipher. -/
theorem aad_bounded {m : EnvelopeMeta} {kekBlob : Bytes} (hv : m.Valid)
    (hlen : kekBlob.length = m.kekBlobLen.toNat) :
    ¬ (m.headerBytes ++ kekBlob).length > intMax := by
  have hkek := hv.kek
  rw [not_or, sealMaxBlob_eq] at hkek
  rw [List.length_append, m.headerBytes_length]
  unfold intMax envelopeHeaderSize
  omega

/-- **Everything an unsealing does.** It opens the ciphertext of an envelope
under the unsealed key, with the header as it was before the tag. -/
theorem unseal_eq : tpmUnsealSecretEnvelope T E st blob cap = .ok p ↔ T.initialized st = true ∧
    ∃ m kekBlob ct, ∃ k : Blob 32, Parts blob m kekBlob ct ∧ ct.length ≤ cap ∧
      tpmUnsealSecret T st kekBlob envelopeKekSize = .ok k.toList ∧
      E.decrypt k m.nonce (EnvelopeMeta.headerBytes { m with tag := Blob.zero 16 } ++ kekBlob) ct
      m.tag = .ok p := by
  unfold tpmUnsealSecretEnvelope envelopeAeadOpen
  simp only [except_guard_ok, except_bind_ok, not_not, Bool.not_eq_false]
  constructor
  · rintro ⟨hinit, m, hparse, hcap, k, hk, hklen, -, -, hopen⟩
    obtain ⟨kekBlob, ct, hparts⟩ := parts_of_parse hparse
    obtain ⟨hkb, hct, haad⟩ := hparts.slices
    rw [hkb] at hk
    rw [hct, haad, patchTag_header] at hopen
    have hkl : (toBlob 32 k).toList = k := List.take_left' hklen
    have := hparts.ctLen
    exact ⟨hinit, m, kekBlob, ct, toBlob 32 k, hparts, by omega, by rw [hkl]; exact hk, hopen⟩
  · rintro ⟨hinit, m, kekBlob, ct, k, hparts, hcap, hk, hopen⟩
    obtain ⟨hkb, hct, haad⟩ := hparts.slices
    have hctl := hparts.ctLen
    have hpv := hparts.valid.payload
    rw [not_or] at hpv
    have hpos : m.payloadLen.toNat ≠ 0 := fun h => hpv.1 (UInt32.toNat_inj.mp h)
    refine ⟨hinit, m, hparts.parse,
      by omega, k.toList, by rw [hkb]; exact hk, k.toList_length, ?_, ?_, ?_⟩
    · rw [hct]
      omega
    · rw [haad, patchTag_header]
      exact aad_bounded ⟨hparts.valid.kek, hparts.valid.payload⟩ hparts.kekLen
    · rw [hct, haad, patchTag_header, toBlob_toList]
      exact hopen

/-! ## What a sealing writes -/

theorem sealLayout_ok {aad : Bytes} (h : sealLayout T c = .ok aad) :
    ∃ kekBlob, tpmSealSecret T c.state c.draw c.kek.toList
    (orDefaultMask c.pcrMask) sealMaxBlob = .ok kekBlob ∧
      aad = (c.header kekBlob).headerBytes ++ kekBlob ∧ (c.header kekBlob).Valid ∧
      kekBlob.length = (c.header kekBlob).kekBlobLen.toNat ∧
      c.payload.length = (c.header kekBlob).payloadLen.toNat := by
  unfold sealLayout at h
  simp only [except_guard_ok, except_bind_ok] at h
  obtain ⟨-, hpayload, -, -, kekBlob, hkek, hlen, -, header, hser, haad⟩ := h
  obtain ⟨hv, rfl⟩ := envelopeSerializeHeader_ok.mp hser
  unfold envelopeMaxPayload at hpayload
  rw [sealMaxBlob_eq] at hlen
  refine ⟨kekBlob, hkek, (Except.ok.inj haad).symm, hv, ?_, ?_⟩
  · exact (toNat_length16 (by omega)).symm
  · exact (UInt32.toNat_ofNat_of_lt' (by unfold UInt32.size; omega)).symm

/-- A sealing succeeds when the layout and the cipher do. -/
theorem seal_eq : tpmSealSecretEnvelope T E c = .ok blob ↔ ∃ aad ct tag, sealLayout T c = .ok aad ∧
    E.encrypt c.kek c.nonce aad c.payload = .ok (ct, tag) ∧ patchTag (aad ++ ct) tag = blob := by
  unfold tpmSealSecretEnvelope envelopeAeadSeal
  simp only [except_bind_ok, except_guard_ok, Except.ok.injEq, Prod.exists]
  constructor
  · rintro ⟨aad, haad, ct, tag, ⟨-, -, henc⟩, hb⟩
    exact ⟨aad, ct, tag, haad, henc, hb⟩
  · rintro ⟨aad, ct, tag, haad, henc, hb⟩
    refine ⟨aad, haad, ct, tag, ⟨?_, ?_, henc⟩, hb⟩
    · unfold sealLayout at haad
      exact (except_guard_ok.mp (except_guard_ok.mp haad).2).1
    · obtain ⟨kekBlob, -, rfl, hv, hkl, -⟩ := sealLayout_ok haad
      exact aad_bounded hv hkl

/-- The nonce and the sealed key, read where the header says. -/
theorem Parts.reads {m : EnvelopeMeta} {kekBlob ct : Bytes} (h : Parts blob m kekBlob ct) :
    blobAt 12 blob 16 = m.nonce ∧
      (blob.drop envelopeHeaderSize).take (UInt16.ofNat (leAt blob 8 2)).toNat = kekBlob := by
  have hslice := h.slices.1
  obtain ⟨-, -, -, hkek, -, -, hnonce, -⟩ := envelope_read_fields m (kekBlob ++ ct)
  rw [← h.bytes] at hkek hnonce
  rw [hkek]
  exact ⟨hnonce, hslice⟩

section
variable {H : List (SealCall S)} (hT : T.Correct) (hE : E.Ideal (Issued T H))
include hE

/-- The parts of a sealed envelope. -/
theorem sealed_parts (h : tpmSealSecretEnvelope T E c = .ok blob) : ∃ kekBlob ct tag,
    tpmSealSecret T c.state c.draw c.kek.toList (orDefaultMask c.pcrMask) sealMaxBlob = .ok kekBlob ∧
      sealLayout T c = .ok ((c.header kekBlob).headerBytes ++ kekBlob) ∧
      E.encrypt c.kek c.nonce ((c.header kekBlob).headerBytes ++ kekBlob) c.payload = .ok (ct, tag) ∧
      Parts blob { c.header kekBlob with tag } kekBlob ct := by
  obtain ⟨aad, ct, tag, haad, henc, rfl⟩ := seal_eq.mp h
  obtain ⟨kekBlob, hkek, rfl, hv, hkl, hpl⟩ := sealLayout_ok haad
  refine ⟨kekBlob, ct, tag, hkek, haad, henc, ?_, ⟨hv.kek, hv.payload⟩, hkl, ?_⟩
  · rw [List.append_assoc, patchTag_header]
  · exact (hE.length henc).trans hpl

include hT in
/-- **Round trip.** -/
theorem unseal_seal (hc : c ∈ H) (h : tpmSealSecretEnvelope T E c = .ok blob)
    (hcap : c.payload.length ≤ cap) :
    tpmUnsealSecretEnvelope T E c.state blob cap = .ok c.payload := by
  obtain ⟨kekBlob, ct, tag, hkek, haad, henc, hparts⟩ := sealed_parts hE h
  have hkl : c.kek.toList.length ≤ envelopeKekSize := by simp [envelopeKekSize]
  have hopen := hE.correct ⟨c, hc, haad, rfl, rfl, rfl⟩ henc
  have hlen := hE.length henc
  rw [unseal_eq]
  exact ⟨(tpmSealSecret_ok hkek).1, _, kekBlob, ct, c.kek, hparts,
    by omega, tpmUnsealSecret_seal hT hkek hkl, hopen⟩

/-- **Integrity.** What is unsealed is an envelope that was sealed, to the last
byte, under the key that was sealed in it. -/
theorem sealed_of_unseal (h : tpmUnsealSecretEnvelope T E st blob cap = .ok p) :
    ∃ c ∈ H, c.payload = p ∧ tpmSealSecretEnvelope T E c = .ok blob := by
  obtain ⟨-, m, kekBlob, ct, k, hparts, -, -, hopen⟩ := unseal_eq.mp h
  obtain ⟨⟨c, hc, haad, rfl, hn, rfl⟩, henc⟩ := hE.authentic hopen
  refine ⟨c, hc, rfl, seal_eq.mpr ⟨_, ct, m.tag, haad, by rw [hn]; exact henc, ?_⟩⟩
  rw [List.append_assoc, patchTag_header]
  exact hparts.bytes.symm

include hT in
/-- Two envelopes of fresh calls differ in the nonce and in the sealed key, so
in more than one byte. -/
theorem changed_not_sealed (hF : Fresh H) {d : SealCall S} (hc : c ∈ H) (hd : d ∈ H)
    (h : tpmSealSecretEnvelope T E c = .ok blob) {i : Nat} {v : UInt8} (hv : blob[i]? ≠ some v)
    (hi : i < blob.length) : tpmSealSecretEnvelope T E d ≠ .ok (blob.set i v) := by
  intro hset
  have hne : c ≠ d := by
    rintro rfl
    have heq : blob = blob.set i v := Except.ok.inj (h.symm.trans hset)
    apply hv
    rw [heq, List.getElem?_set_self hi]
  obtain ⟨hkek, hnonce⟩ := hF.distinct hc hd hne
  obtain ⟨kekBlob, _, _, hseal, -, -, hparts⟩ := sealed_parts hE h
  obtain ⟨kekBlob', _, _, hseal', -, -, hparts'⟩ := sealed_parts hE hset
  obtain ⟨hn, hk⟩ := hparts.reads
  obtain ⟨hn', hk'⟩ := hparts'.reads
  by_cases hin : i < 16 ∨ 28 ≤ i
  · -- outside the nonce: both calls drew the same one
    apply hnonce
    unfold blobAt at hn hn'
    rw [chunk_set v hin] at hn'
    exact hn.symm.trans hn'
  · -- inside the nonce: both envelopes hold the same sealed key
    have hword : leAt (blob.set i v) 8 2 = leAt blob 8 2 := by
      unfold leAt
      rw [chunk_set v (by omega)]
    have hsame : kekBlob' = kekBlob := by
      rw [← hk, ← hk', hword]
      exact chunk_set v (by unfold envelopeHeaderSize; omega)
    subst hsame
    have hkl : d.kek.toList.length ≤ envelopeKekSize := by simp [envelopeKekSize]
    have hopen := tpmUnsealSecret_seal hT hseal' hkl
    have heq := tpmUnsealSecret_only hT hseal hopen
    exact hkek (Subtype.ext heq.symm)

end

variable (T E) in
/-- Nothing a call depends on fails: the mask is valid, the random sources,
the TPM and the cipher answer, and the caller's buffer has room. -/
structure SealCall.Works (c : SealCall S) : Prop where
  initialized : T.initialized c.state = true
  mask : sealValidatePcrMask (orDefaultMask c.pcrMask) = .ok ()
  rand : c.randFails = false
  primary : T.acquirePrimary c.state = .ok ()
  object : ∃ policy pub priv,
    T.policyDigest c.state (sealMaskToSelection (orDefaultMask c.pcrMask)) = .ok policy ∧
    T.create c.state c.draw policy c.kek.toList = .ok (pub, priv) ∧ 1 ≤ pub.length ∧
    pub.length ≤ sealMaxPub ∧ 1 ≤ priv.length ∧ priv.length ≤ sealMaxPriv
  pcrs : ∃ digest, sealComputePcrDigest T c.state (orDefaultMask c.pcrMask) = .ok digest
  cipher : ∀ {aad}, sealLayout T c = .ok aad →
    ∃ ct tag, E.encrypt c.kek c.nonce aad c.payload = .ok (ct, tag)
  room : envelopeHeaderSize + sealMaxBlob + c.payload.length ≤ c.outCap

/-- The key is sealed into a blob of bounded length. -/
theorem SealCall.Works.sealsKey (hw : c.Works T E) : ∃ kekBlob,
    tpmSealSecret T c.state c.draw c.kek.toList (orDefaultMask c.pcrMask) sealMaxBlob = .ok kekBlob ∧
      1 ≤ kekBlob.length ∧ kekBlob.length ≤ sealMaxBlob := by
  have hlen : c.kek.toList.length = 32 := List.Vector.toList_length _
  refine tpmSealSecret_seals hw.initialized (by omega) (by rw [hlen]; decide) ?_ hw.primary ?_ ?_
  · rw [orDefaultMask_idem]
    exact hw.mask
  · rw [orDefaultMask_idem]
    exact hw.object
  · rw [orDefaultMask_idem]
    exact hw.pcrs

/-- Every payload within the limit is sealed. -/
theorem SealCall.Works.seals (hw : c.Works T E) (hpos : 1 ≤ c.payload.length)
    (hmax : c.payload.length ≤ envelopeMaxPayload) :
    ∃ blob, tpmSealSecretEnvelope T E c = .ok blob := by
  obtain ⟨kekBlob, hkek, hkpos, hkmax⟩ := hw.sealsKey
  have hroom := hw.room
  have hser : envelopeSerializeHeader (c.header kekBlob) = .ok (c.header kekBlob).headerBytes := by
    refine envelopeSerializeHeader_ok.mpr ⟨⟨?_, ?_⟩, rfl⟩
    · have hkl : (c.header kekBlob).kekBlobLen.toNat = kekBlob.length := by
        rw [sealMaxBlob_eq] at hkmax
        exact toNat_length16 (by omega)
      exact length16_passes hkl hkpos hkmax
    · have hpl : (c.header kekBlob).payloadLen.toNat = c.payload.length := by
        unfold envelopeMaxPayload at hmax
        exact UInt32.toNat_ofNat_of_lt' (by unfold UInt32.size; omega)
      rw [← UInt32.toNat_inj, hpl, UInt32.toNat_zero]
      omega
  have haad : sealLayout T c = .ok ((c.header kekBlob).headerBytes ++ kekBlob) := by
    unfold sealLayout
    simp only [except_guard_ok, except_bind_ok]
    exact ⟨by simp [hw.initialized],
      by omega, by simp [hw.mask], by simp [hw.rand], kekBlob, hkek, by omega, by omega,
      _, hser, rfl⟩
  obtain ⟨ct, tag, henc⟩ := hw.cipher haad
  exact ⟨_, seal_eq.mpr ⟨_, ct, tag, haad, henc, rfl⟩⟩

/-- **Sealed envelopes.** With a TPM that is correct, a cipher that opens
exactly what was sealed, and random draws that do not repeat:

* every payload within the limit is sealed, and unsealed in the same state of
  the TPM;
* whatever is unsealed, in any state, is byte for byte an envelope that was
  sealed;
* one changed byte anywhere in an envelope is refused in every state;
* each header parser accepts exactly what its serialiser writes, followed by
  bodies of the declared lengths. -/
theorem sealed_envelope (hT : T.Correct) {H : List (SealCall S)} (hE : E.Ideal (Issued T H))
    (hF : Fresh H) :
    (∀ c ∈ H, c.Works T E → 1 ≤ c.payload.length → c.payload.length ≤ envelopeMaxPayload →
      ∃ blob, tpmSealSecretEnvelope T E c = .ok blob) ∧
    (∀ c ∈ H, ∀ blob, tpmSealSecretEnvelope T E c = .ok blob → ∀ cap, c.payload.length ≤ cap →
      tpmUnsealSecretEnvelope T E c.state blob cap = .ok c.payload) ∧
    (∀ st blob cap p, tpmUnsealSecretEnvelope T E st blob cap = .ok p →
      ∃ c ∈ H, c.payload = p ∧ tpmSealSecretEnvelope T E c = .ok blob) ∧
    (∀ c ∈ H, ∀ blob, tpmSealSecretEnvelope T E c = .ok blob → ∀ i < blob.length, ∀ v,
      blob[i]? ≠ some v →
      ∀ st cap, ∃ e, tpmUnsealSecretEnvelope T E st (blob.set i v) cap = .error e) ∧
    (∀ buf m, sealParseHeader buf = .ok m ↔ sealSerializeHeader m = .ok (buf.take sealHeaderSize) ∧
      buf.length = sealHeaderSize + m.pubLen.toNat + m.privLen.toNat) ∧
    (∀ buf m, envelopeParseHeader buf = .ok m ↔
      envelopeSerializeHeader m = .ok (buf.take envelopeHeaderSize) ∧
      buf.length = envelopeHeaderSize + m.kekBlobLen.toNat + m.payloadLen.toNat) := by
  refine ⟨fun c _ hw hpos hmax => hw.seals hpos hmax,
    fun c hc blob h cap hcap => unseal_seal hT hE hc h hcap,
    fun st blob cap p h => sealed_of_unseal hE h, ?_, fun _ _ => sealParseHeader_iff, fun _ _ =>
    envelopeParseHeader_iff⟩
  intro c hc blob h i hi v hv st cap
  cases hres : tpmUnsealSecretEnvelope T E st (blob.set i v) cap with
  | error e => exact ⟨e, rfl⟩
  | ok p =>
    obtain ⟨d, hd, -, hseal⟩ := sealed_of_unseal hE hres
    exact absurd hseal (changed_not_sealed hT hE hF hc hd h hv hi)

end

/-! One envelope, sealed on a machine whose PCRs are still zero. -/

def sampleKek : Blob 32 :=
  ⟨[0xb7, 0x94, 0x38, 0x5f, 0x2d, 0x1e, 0xf7, 0xab, 0x4d, 0x92, 0x73, 0xd1, 0x90, 0x63, 0x81,
    0xb4, 0x4f, 0x2f,
     0x6f, 0x25, 0x88, 0xa3, 0xef, 0xb9, 0x6a, 0x49, 0x18, 0x83, 0x31, 0x98, 0x47, 0x53], rfl⟩

def sampleNonce : Blob 12 :=
  ⟨[0x78, 0x37, 0x7b, 0x52, 0x57, 0x57, 0xb4, 0x94, 0x42, 0x7f, 0x89, 0x01], rfl⟩

/-- `PolicyPCR` over PCRs 0 to 7 and 14, all zero. -/
def samplePolicy : Bytes :=
  [0x2e, 0x28, 0xff, 0xb9, 0x3d, 0x75, 0xd6, 0xf1, 0x18, 0xd5, 0xc1, 0xbe, 0xe6, 0xc3, 0x8c,
    0xcd, 0x0e, 0x37,
   0xeb, 0xb2, 0x8f, 0xa5, 0x91, 0x04, 0x61, 0xf9, 0x4c, 0xc5, 0x5b, 0xd8, 0x16, 0xa8]

def samplePublic : Bytes :=
  [0x00, 0x4e, 0x00, 0x08, 0x00, 0x0b, 0x00, 0x00, 0x00, 0x12, 0x00, 0x20, 0x2e, 0x28, 0xff,
    0xb9, 0x3d, 0x75,
   0xd6, 0xf1, 0x18, 0xd5, 0xc1, 0xbe, 0xe6, 0xc3, 0x8c, 0xcd, 0x0e, 0x37, 0xeb, 0xb2, 0x8f,
   0xa5, 0x91, 0x04,
   0x61, 0xf9, 0x4c, 0xc5, 0x5b, 0xd8, 0x16, 0xa8, 0x00, 0x10, 0x00, 0x20, 0xc2, 0x72, 0x04,
   0x45, 0xa4, 0x52,
   0x67, 0x81, 0x36, 0x88, 0xff, 0x73, 0xfa, 0x18, 0x8a, 0xa0, 0x60, 0xc1, 0xb6, 0x61, 0xae,
   0xfa, 0xf1, 0x65, 0x0d, 0x42, 0xf6, 0x90, 0x69, 0x7b, 0x5a, 0xb3]

def samplePrivate : Bytes :=
  [0x00, 0x7e, 0x00, 0x20, 0x78, 0x58, 0x7c, 0x41, 0xed, 0x99, 0xa3, 0x37, 0x50, 0x22, 0xdc,
    0x28, 0xbe, 0x88,
   0x2f, 0x72, 0xb1, 0xa6, 0x08, 0xa0, 0xda, 0xc7, 0xaa, 0x90, 0x0c, 0x61, 0xf4, 0x8b, 0x2b,
   0xb3, 0x7b, 0xe6,
   0x00, 0x10, 0x0a, 0xb3, 0x06, 0x82, 0x30, 0x35, 0x66, 0x1b, 0xb8, 0xdb, 0xa2, 0x1c, 0xc2,
   0x53, 0x52, 0x31,
   0xc2, 0xb3, 0xd5, 0xb0, 0x2d, 0x62, 0x14, 0x2b, 0x07, 0x57, 0x9c, 0x69, 0x87, 0x84, 0x19,
   0xc5, 0x45, 0xa6,
   0xf9, 0x93, 0x56, 0x28, 0x65, 0x9a, 0xb4, 0x86, 0xf2, 0xa7, 0xdf, 0xe1, 0xd5, 0x30, 0x1f,
   0x67, 0xf7, 0xeb,
   0x69, 0xb8, 0xc7, 0xba, 0x9d, 0x99, 0xc6, 0x38, 0x55, 0xe5, 0xa7, 0x46, 0x3d, 0xd9, 0xd8,
   0x25, 0x72, 0xc5,
   0x80, 0xf4, 0xd6, 0x32, 0x2a, 0x4d, 0x86, 0x4f, 0x47, 0xf6, 0x6a, 0x01, 0x77, 0x6a, 0xf2,
   0x45, 0xaf, 0x82, 0xfe, 0x4d]

def sampleCiphertext : Bytes := [0xeb, 0x66, 0x70, 0x4b, 0x14, 0x95, 0xfa, 0x7c, 0x19, 0xf9, 0x89]

def sampleTag : Blob 16 :=
  ⟨[0x11, 0x40, 0xbf, 0x7c, 0x11, 0x83, 0x63, 0x14, 0xc8, 0x78, 0x5a, 0xd3, 0xef, 0x6a, 0x3c, 0x37],
    rfl⟩

/-- A `TPM2B`: a big-endian size and as many bytes. -/
def tpm2bSize : Bytes → Option Nat
  | hi :: lo :: rest =>
    if hi.toNat * 256 + lo.toNat ≤ rest.length then some (2 + (hi.toNat * 256 + lo.toNat)) else none
  | _ => none

/-- A TPM that has sealed one key; its PCRs are still zero in the state `true`. -/
def sampleTpm : Tpm Bool where
  initialized _ := true
  acquirePrimary _ := .ok ()
  policyDigest st sel :=
    if st = true ∧ sel = [0xff, 0x40, 0x00] then .ok samplePolicy else .error (.sys 1)
  create _ _ policy secret :=
    if policy = samplePolicy ∧ secret = sampleKek.toList then .ok (samplePublic, samplePrivate)
      else .error (.sys 1)
  readPcr st _ := .ok (if st = true then Blob.zero 32 else sha256 [])
  publicSize := tpm2bSize
  privateSize := tpm2bSize
  loadUnseal st sel pub priv :=
    if st = true ∧ sel = [0xff, 0x40, 0x00] ∧ pub = samplePublic ∧ priv = samplePrivate
      then .ok sampleKek.toList
    else .error (.sys 1)

def sampleCall : SealCall Bool where
  state := true
  payload := ascii "save file 7"
  pcrMask := 0
  outCap := envelopeMaxBlob
  randFails := false
  kek := sampleKek
  nonce := sampleNonce
  draw := 0

def sampleKekBlob : Bytes :=
  SealMeta.headerBytes
    { pcrMask := 0x40ff, pcrAlg := 0, pubLen := 80, privLen := 128,
      pcrDigest :=
        ⟨[0x2d, 0x55, 0x65, 0xfb, 0x48, 0x3d, 0x8e, 0xa4, 0x52, 0x5a, 0x7a, 0x92, 0x29, 0x67,
          0x7d, 0x10, 0x38,
           0xad, 0x34, 0xb6, 0xe2, 0x2c, 0x8d, 0x51, 0x52, 0xe1, 0xd7, 0xf7, 0xb9, 0x81, 0x75,
           0x97], rfl⟩ } ++
    (samplePublic ++ samplePrivate)

def sampleAad : Bytes := (sampleCall.header sampleKekBlob).headerBytes ++ sampleKekBlob

/-- The cipher on the one text it was given. -/
def sampleEvp : Evp where
  encrypt k n aad pt :=
    if k = sampleKek ∧ n = sampleNonce ∧ aad = sampleAad ∧ pt = ascii "save file 7" then
      .ok (sampleCiphertext, sampleTag)
    else .error .eio
  decrypt k n aad ct tag :=
    if k = sampleKek ∧ n = sampleNonce ∧ aad = sampleAad ∧ ct = sampleCiphertext ∧ tag = sampleTag then
      .ok (ascii "save file 7")
    else .error .ebadmsg

theorem sampleLayout : sealLayout sampleTpm sampleCall = .ok sampleAad := by decide +kernel

theorem sampleTpm_create {st : Bool} {draw : Nat} {policy secret pub priv : Bytes}
    (h : sampleTpm.create st draw policy secret = .ok (pub, priv)) :
    policy = samplePolicy ∧ secret = sampleKek.toList ∧ pub = samplePublic ∧ priv = samplePrivate := by
  simp only [sampleTpm] at h
  split at h
  · rename_i hin
    cases h
    exact ⟨hin.1, hin.2, rfl, rfl⟩
  · cases h

theorem sampleTpm_correct : sampleTpm.Correct where
  publicSize := by
    intro st draw policy secret pub priv h rest
    obtain ⟨-, -, rfl, -⟩ := sampleTpm_create h
    simp [sampleTpm, samplePublic, tpm2bSize]
  privateSize := by
    intro st draw policy secret pub priv h
    obtain ⟨-, -, -, rfl⟩ := sampleTpm_create h
    decide +kernel
  unseals := by
    intro st draw sel policy secret pub priv hpol h
    obtain ⟨-, rfl, rfl, rfl⟩ := sampleTpm_create h
    simp only [sampleTpm] at hpol ⊢
    split at hpol
    · rename_i hin
      rw [if_pos ⟨hin.1, hin.2, trivial, trivial⟩]
    · cases hpol
  only := by
    intro st draw policy secret pub priv st' sel s h hs
    obtain ⟨-, rfl, -, -⟩ := sampleTpm_create h
    simp only [sampleTpm] at hs
    split at hs
    · cases hs; rfl
    · cases hs

theorem sampleEvp_ideal : sampleEvp.Ideal (Issued sampleTpm [sampleCall]) where
  length := by
    intro k n aad pt ct tag h
    simp only [sampleEvp] at h
    split at h
    · rename_i hin
      obtain ⟨-, -, -, rfl⟩ := hin
      cases h
      rfl
    · cases h
  correct := by
    intro k n aad pt ct tag _ h
    simp only [sampleEvp] at h ⊢
    split at h
    · rename_i hin
      obtain ⟨rfl, rfl, rfl, rfl⟩ := hin
      cases h
      rw [if_pos ⟨rfl, rfl, rfl, rfl, rfl⟩]
    · cases h
  authentic := by
    intro k n aad ct tag pt h
    simp only [sampleEvp] at h ⊢
    split at h
    · rename_i hin
      obtain ⟨rfl, rfl, rfl, rfl, rfl⟩ := hin
      cases h
      exact ⟨⟨sampleCall, List.mem_singleton_self _, sampleLayout, rfl, rfl, rfl⟩,
        if_pos ⟨rfl, rfl, rfl, rfl⟩⟩
    · cases h

theorem sampleCall_works : sampleCall.Works sampleTpm sampleEvp where
  initialized := rfl
  mask := by decide
  rand := rfl
  primary := rfl
  object := ⟨samplePolicy, samplePublic, samplePrivate, by decide +kernel⟩
  pcrs := by
    have hread : ∀ is : List Nat, ∃ values, is.mapM (sampleTpm.readPcr true) = .ok values := by
      intro is
      induction is with
      | nil => exact ⟨[], rfl⟩
      | cons i is ih =>
        obtain ⟨values, h⟩ := ih
        exact ⟨Blob.zero 32 :: values, by rw [List.mapM_cons, h]; rfl⟩
    obtain ⟨values, h⟩ := hread ((List.range pcrCount).filter (selected (orDefaultMask 0)))
    exact ⟨_, except_bind_ok.mpr ⟨values, h, rfl⟩⟩
  cipher := by
    intro aad h
    have haad : aad = sampleAad := Except.ok.inj (h.symm.trans sampleLayout)
    refine ⟨sampleCiphertext, sampleTag, ?_⟩
    simp only [sampleEvp]
    rw [if_pos ⟨rfl, rfl, haad, rfl⟩]
  room := by decide

/-- The save file comes back, and no envelope one byte off does. -/
theorem sealed_envelope_save : ∃ blob, tpmSealSecretEnvelope sampleTpm sampleEvp sampleCall = .ok blob ∧
    tpmUnsealSecretEnvelope sampleTpm sampleEvp true blob envelopeMaxPayload =
    .ok (ascii "save file 7") ∧ ∀ i < blob.length, ∀ v, blob[i]? ≠ some v →
      ∃ e, tpmUnsealSecretEnvelope sampleTpm sampleEvp true (blob.set i v) envelopeMaxPayload =
      .error e := by
  have hfresh : Fresh [sampleCall] := List.pairwise_singleton _ _
  obtain ⟨hseals, hopens, -, hrefused, -, -⟩ := sealed_envelope sampleTpm_correct sampleEvp_ideal hfresh
  have hmem : sampleCall ∈ [sampleCall] := List.mem_singleton_self _
  obtain ⟨blob, hblob⟩ := hseals sampleCall hmem sampleCall_works (by decide) (by decide)
  exact ⟨blob, hblob, hopens sampleCall hmem blob hblob envelopeMaxPayload (by decide),
    fun i hi v hv => hrefused sampleCall hmem blob hblob i hi v hv true envelopeMaxPayload⟩

end Lota.L6.SealedEnvelope

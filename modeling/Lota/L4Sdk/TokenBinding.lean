import Lota.L1Wire.Attest
import Lota.L4Sdk.Gaming
import Lota.L4Sdk.ServerGo

/-!
# What the AIK signature binds in a token

The signature covers the attest data alone. The attest data holds a hash of
the header fields, and one of these fields is a hash of the PIDs and images;
so with SHA-256 free of collisions the signed bytes fix the whole token,
apart from the sizes, the algorithm identifiers and the two spellings of
version 1.

* `Signed`: a token whose parts belong together; `Signed.checked`: once it
  is written, it passes every check of `VerifyToken` before the clock.
* `LotaToken.sealed`: such tokens exist, for every choice of the fields.
* `claims_bound`: tokens with the same attest data have the same claims.
-/
namespace Lota.L4.Binding
open Lota.Core Lota.L1.Report Lota.L3.Signature Lota.L4.Token Lota.L4.Go Lota.L4.Gaming
open Lota.L1.Attest (TPMSAttest QuoteInfo wireAttest wireAttestCommon wireQuoteInfo wireSelections
  wireSelection)

/-! ## Tokens that pass -/

/-- The parts of a token belong together. -/
structure Signed (K : Crypto) (key : RSAPublicKey) (t : LotaToken) (attest : AttestParts) : Prop where
  attestData : t.attestData ≠ []
  signature : t.signature ≠ []
  protectVersion : t.runtimeProtectVersion ≤ runtimeProtectV2
  pids : canonicalPIDs t.protectedPIDs = true
  digest : sha256 (protectMessage (decide (t.runtimeProtectVersion = runtimeProtectV2))
    t.protectedPIDs t.imageBytes) = t.runtimeProtectDigest
  signed : verifyRSASignature K t.attestData t.signature t.sigAlg t.hashAlg key = .ok ()
  parsed : parseTPMSAttest t.attestData = .ok attest
  pcrMask : attest.pcrMask = t.pcrMask
  extraData : attest.extraData = (sha256 t.wire.nonceMessage).toList

theorem UInt16.ne_zero_of_toNat {x : UInt16} {n : Nat} (h : x.toNat = n) (hn : 0 < n) : x ≠ 0 := by
  intro hx
  rw [hx] at h
  have : (0 : UInt16).toNat = 0 := rfl
  omega

theorem headerOK_of_written {t : LotaToken} {bs : Bytes} (h : Written t bs)
    (hv : t.runtimeProtectVersion ≤ runtimeProtectV2) : HeaderOK bs t.wire := by
  have hlen := h.length
  have hsize := h.size
  have himgs : t.wire.imageListSize = t.imagesSize := by
    unfold TokenWire.imageListSize LotaToken.imagesSize
    rw [h.count]
    rfl
  have hcount : t.protectedPIDs.length ≤ 1024 := h.pidCount
  refine ⟨h.decode,
    by omega, rfl, rfl, ⟨by rw [h.totalSize, h.length], by rw [h.totalSize]; omega⟩, hv, ?_, ?_, ?_,
    by rw [h.attestSize]; exact h.attestMax, by rw [h.sigSize]; exact h.sigMax⟩
  · rw [h.count]
    exact h.pidCount
  · apply UInt16.toNat_inj.mp
    rw [h.pidListSize, UInt32.toNat_toUInt16, UInt32.toNat_mul, h.count]
    show _ = t.protectedPIDs.length * 4 % 2 ^ 32 % 2 ^ 16
    omega
  · rw [h.pidListSize, h.attestSize, h.sigSize, h.totalSize, himgs]
    omega

/-- **Written tokens pass.** -/
theorem Signed.checked {K : Crypto} {key : RSAPublicKey} {t : LotaToken} {attest : AttestParts}
    (h : Signed K key t attest) {buflen : Nat} {bs : Bytes} (hs : t.serialize buflen = .ok bs) :
    Checked K bs key t.nonce.toList t.wire attest := by
  have w := serialize_parts hs
  refine ⟨headerOK_of_written w h.protectVersion, ?_, ?_, ?_, ?_, ?_, ?_, h.pcrMask, h.extraData, rfl⟩
  · exact UInt16.ne_zero_of_toNat w.attestSize (List.length_pos_iff.mpr h.attestData)
  · exact UInt16.ne_zero_of_toNat w.sigSize (List.length_pos_iff.mpr h.signature)
  · rw [w.pids]
    exact h.pids
  · unfold TokenWire.protectMessage
    rw [w.pids, w.images]
    exact h.digest
  · rw [w.attestData, w.signature]
    exact h.signed
  · rw [w.attestData]
    exact h.parsed

/-! ## Tokens exist -/

theorem needLen_append {what : String} {n : Nat} {xs : Bytes} (h : xs.length = n) (rest : Bytes) :
    (needLen what n).run (xs ++ rest) = .ok (xs, rest) := by
  subst h
  simp [needLen]

/-- Selections of SHA-256 PCRs: their bytes go into one mask. -/
theorem readSelections_wire {selects : List Bytes} (hsize : ∀ sel ∈ selects, sel.length < 256)
    {mask m : UInt32}
    (hm : selects.foldlM (selectMask 0) mask = some m) (rest : Bytes) :
    (readSelections selects.length mask).run
    (selects.flatMap (wireSelection tpmAlgSHA256) ++ rest) = .ok (m, rest) := by
  induction selects generalizing mask with
  | nil =>
    rw [List.foldlM_nil] at hm
    cases hm
    rfl
  | cons sel selects ih =>
    have hsel : sel.length < 256 := hsize sel (List.mem_cons_self ..)
    have hn : (UInt8.ofNat sel.length).toNat = sel.length := by
      rw [UInt8.toNat_ofNat']
      exact Nat.mod_eq_of_lt hsel
    rw [List.foldlM_cons] at hm
    obtain ⟨mask', hmask, hrest⟩ := Option.bind_eq_some_iff.mp hm
    rw [List.length_cons, List.flatMap_cons]
    unfold readSelections wireSelection
    simp only [List.append_assoc]
    rw [Reader.bind_run (Reader.wrap_run (readU16BE_append _ _)), if_neg (not_not.mpr rfl),
      Reader.bind_run (Reader.wrap_run (Lota.L1.Attest.readU8_length hsel _)),
      Reader.bind_run (needLen_append hn.symm _), hmask]
    exact ih (fun sel hmem => hsize sel (List.mem_cons_of_mem _ hmem)) hrest

theorem readQuote_wire {q : QuoteInfo} {selects : List Bytes} {m : UInt32} (hq : q.Encodes selects)
    (halg : q.pcrHashAlg = tpmAlgSHA256) (hm : selects.foldlM (selectMask 0) 0 = some m)
    (rest : Bytes) : readQuote.run (wireQuoteInfo q ++ rest) = .ok ((m, q.pcrDigest), rest) := by
  have hcount : (UInt32.ofNat selects.length).toNat = selects.length := by
    rw [UInt32.toNat_ofNat']
    exact Nat.mod_eq_of_lt (Nat.lt_of_le_of_lt hq.count (by decide))
  have hd : (UInt16.ofNat q.pcrDigest.length).toNat = q.pcrDigest.length := by
    rw [UInt16.toNat_ofNat']
    exact Nat.mod_eq_of_lt hq.digest
  have hfew : ¬ UInt32.ofNat selects.length > 16 := by
    rw [gt_iff_lt, UInt32.lt_iff_toNat_lt, hcount]
    exact Nat.not_lt.mpr hq.count
  have hn : toBE 4 selects.length = toBE 4 (UInt32.ofNat selects.length).toNat := by rw [hcount]
  unfold readQuote wireQuoteInfo
  rw [hq.pcrSelect, wireSelections, halg, hn]
  simp only [List.append_assoc]
  rw [Reader.bind_run (Reader.wrap_run (readU32BE_append _ _)), if_neg hfew, hcount,
    Reader.bind_run (readSelections_wire hq.size hm _),
    Reader.bind_run (Reader.wrap_run (Lota.L1.Attest.readU16BE_length hq.digest _)),
    Reader.bind_run (needLen_append hd.symm _), Reader.pure_run]

/-- `parseTPMSAttest` reads a quote the TPM encodes. -/
theorem parseTPMSAttest_quote {a : TPMSAttest} (w : a.WellFormed) {q : QuoteInfo}
    (hquote : a.quoteInfo = some q)
    {selects : List Bytes} {m : UInt32} (hq : q.Encodes selects) (halg : q.pcrHashAlg = tpmAlgSHA256)
    (hm : selects.foldlM (selectMask 0) 0 = some m) :
    parseTPMSAttest (wireAttest a) =
    .ok { extraData := a.extraData, pcrMask := m, pcrDigest := some q.pcrDigest } := by
  have htype : a.type = 0x8018 := by
    have := w.quote.mpr (by rw [hquote]; rfl)
    exact this
  have hmagic : a.magic = 0xff544347 := w.magic
  have hs : (UInt16.ofNat a.qualifiedSigner.length).toNat = a.qualifiedSigner.length := by
    rw [UInt16.toNat_ofNat']
    exact Nat.mod_eq_of_lt w.signer
  have he : (UInt16.ofNat a.extraData.length).toNat = a.extraData.length := by
    rw [UInt16.toNat_ofNat']
    exact Nat.mod_eq_of_lt w.extraData
  have hlen : ¬ (wireAttest a).length < 10 := by
    simp only [wireAttest, wireAttestCommon, List.length_append, toBE_length]
    omega
  have hclock : (toBE 8 a.clockInfo.clock.toNat ++ (toBE 4 a.clockInfo.resetCount.toNat ++
      (toBE 4 a.clockInfo.restartCount.toNat ++ toLE 1 a.clockInfo.safe.toNat))).length = 17 := by simp
  have hrun : readAttest.run (wireAttest a) =
      .ok ({ extraData := a.extraData, pcrMask := m, pcrDigest := some q.pcrDigest }, []) := by
    have hquoteRun := readQuote_wire hq halg hm []
    rw [List.append_nil] at hquoteRun
    unfold readAttest wireAttest wireAttestCommon
    rw [hquote, hmagic, htype, Option.map_some, Option.getD_some]
    simp only [List.append_assoc]
    rw [Reader.bind_run (Reader.wrap_run (readU32BE_append 0xff544347 _)), if_neg (not_not.mpr rfl),
      Reader.bind_run (Reader.wrap_run (readU16BE_append 0x8018 _)),
      Reader.bind_run (Reader.wrap_run (Lota.L1.Attest.readU16BE_length w.signer _)),
      Reader.bind_run (needLen_append hs.symm _),
      Reader.bind_run (Reader.wrap_run (Lota.L1.Attest.readU16BE_length w.extraData _)),
      Reader.bind_run (needLen_append he.symm _)]
    rw [← List.append_assoc (toBE 4 a.clockInfo.restartCount.toNat), ← List.append_assoc (toBE 4 _),
      ← List.append_assoc (toBE 8 _), Reader.bind_run (Reader.wrap_run (readFull_append hclock _)),
      Reader.bind_run (Reader.wrap_run (readFull_append (toBE_length 8 _) _)), if_pos rfl,
      Reader.bind_run hquoteRun, Reader.pure_run]
  unfold parseTPMSAttest
  rw [if_neg hlen, hrun]
  rfl

/-- The quote of PCR 1 with a nonce in it. -/
def quoteFor (extraData : Bytes) : TPMSAttest :=
  { Lota.L1.Attest.quotePCR1 with extraData := extraData }

theorem quoteFor_wellFormed {extraData : Bytes} (h : extraData.length < 2 ^ 16) :
    (quoteFor extraData).WellFormed where
  magic := rfl
  signer := Lota.L1.Attest.quotePCR1_wellFormed.signer
  extraData := h
  quote := Lota.L1.Attest.quotePCR1_wellFormed.quote
  quoteInfo := by
    intro q hq
    cases hq
    exact ⟨_, Lota.L1.Attest.quotePCR1_encodes⟩

theorem quoteFor_length (extraData : Bytes) :
    (wireAttest (quoteFor extraData)).length = extraData.length + 79 := by
  simp [wireAttest, wireAttestCommon, wireQuoteInfo, wireSelections, wireSelection, quoteFor,
    Lota.L1.Attest.quotePCR1, Lota.L1.Attest.quoteInfoPCR1]
  omega

/-- What `parseTPMSAttest` finds in `quoteFor extraData`. -/
def quotedParts (extraData : Bytes) : AttestParts where
  extraData := extraData
  pcrMask := 2
  pcrDigest := some (sha256 (Blob.zero 32).toList).toList

theorem parseTPMSAttest_quoteFor {extraData : Bytes} (h : extraData.length < 2 ^ 16) :
    parseTPMSAttest (wireAttest (quoteFor extraData)) = .ok (quotedParts extraData) :=
  parseTPMSAttest_quote (quoteFor_wellFormed h) rfl Lota.L1.Attest.quotePCR1_encodes rfl (by decide)

/-- The token with the digest of its PIDs, ready to be quoted. -/
def bound (t : LotaToken) : LotaToken :=
  { t with
    sigAlg := tpmAlgRSASSA
    hashAlg := tpmAlgSHA256
    pcrMask := 2
    runtimeProtectDigest :=
      sha256 (protectMessage (decide (t.runtimeProtectVersion = runtimeProtectV2)) t.protectedPIDs
        t.imageBytes) }

def quoteOf (t : LotaToken) : Bytes := wireAttest (quoteFor (sha256 (bound t).wire.nonceMessage).toList)

/-- The token as an agent issues it: quoted and signed with the sample key. -/
def sealed (t : LotaToken) : LotaToken :=
  { bound t with attestData := quoteOf t, signature := sampleSignature (sha256 (quoteOf t)).toList }

/-- The AIK of a sealed token. -/
def sealKey (t : LotaToken) : RSAPublicKey := sampleKey (sha256 (quoteOf t)).toList

theorem verifyRSASignature_rsassa {K : Crypto} {attestData signature : Bytes} {key : RSAPublicKey}
    (h : K.verifyPKCS1v15 key .sha256 (sha256 attestData).toList signature = .ok ()) :
    verifyRSASignature K attestData signature tpmAlgRSASSA tpmAlgSHA256 key = .ok () := by
  unfold verifyRSASignature tpmHashAlgToCryptoHash
  rw [if_pos rfl]
  simp only
  rw [if_neg (by decide), if_pos trivial]
  exact h

theorem sealed_nonceMessage (t : LotaToken) :
    (sealed t).wire.nonceMessage = (bound t).wire.nonceMessage := by
  simp only [TokenWire.nonceMessage, LotaToken.wire, sealed]

theorem sealed_signed {t : LotaToken} (hv : t.runtimeProtectVersion ≤ runtimeProtectV2)
    (hp : canonicalPIDs t.protectedPIDs = true) :
    Signed rsaCrypto (sealKey t) (sealed t)
    (quotedParts (sha256 (bound t).wire.nonceMessage).toList) := by
  have hd : (sha256 (quoteOf t)).toList.length = 32 := List.Vector.toList_length _
  have hx : (sha256 (bound t).wire.nonceMessage).toList.length < 2 ^ 16 := by
    rw [List.Vector.toList_length]
    decide
  have hattest : (sealed t).attestData = quoteOf t := rfl
  have hsig : (sealed t).signature = sampleSignature (sha256 (quoteOf t)).toList := rfl
  have hlen := quoteFor_length (sha256 (bound t).wire.nonceMessage).toList
  refine ⟨?_, ?_, hv, hp, rfl, ?_, ?_, rfl, ?_⟩
  · intro h
    rw [hattest, quoteOf] at h
    rw [h] at hlen
    cases hlen
  · intro h
    have := sampleSignature_length (sha256 (quoteOf t)).toList
    rw [← hsig, h] at this
    cases this
  · rw [hattest, hsig]
    exact verifyRSASignature_rsassa (rsaCrypto_verifyPKCS1v15 (verifyPKCS1v15_sample hd))
  · rw [hattest]
    exact parseTPMSAttest_quoteFor hx
  · rw [sealed_nonceMessage]
    rfl

/-- A token without protected PIDs. -/
def plainToken (version : UInt16) (validUntil : UInt64) (flags : UInt32) (nonce : Hash) :
    LotaToken where
  validUntil := validUntil
  flags := flags
  nonce := nonce
  sigAlg := 0
  hashAlg := 0
  pcrMask := 0
  policyDigest := Blob.zero 32
  runtimeProtectDigest := Blob.zero 32
  runtimeProtectEpoch := 0
  runtimeProtectVersion := version
  protectedPIDs := []
  protectedImageDigests := []
  attestData := []
  signature := []
  images_length := fun _ => rfl

theorem quoteOf_length (t : LotaToken) : (quoteOf t).length = 111 := by
  unfold quoteOf
  rw [quoteFor_length, List.Vector.toList_length]

/-- What an agent seals: a version the servers know, and a canonical list that
is not too long. -/
structure Sealable (t : LotaToken) : Prop where
  version : t.runtimeProtectVersion ≤ runtimeProtectV2
  count : t.protectedPIDs.length ≤ maxProtectPIDs
  canonical : canonicalPIDs t.protectedPIDs = true

theorem Sealable.plain {t : LotaToken} (hv : t.runtimeProtectVersion ≤ runtimeProtectV2)
    (hp : t.protectedPIDs = []) : Sealable t := by
  refine ⟨hv, ?_, ?_⟩
  · rw [hp]
    decide
  · rw [hp]
    rfl

theorem sealed_size {t : LotaToken} (hcount : t.protectedPIDs.length ≤ maxProtectPIDs) :
    (sealed t).serializedSize = 511 + t.protectedPIDs.length * 4 + t.imagesSize := by
  have hattest : (sealed t).attestData.length = 111 := quoteOf_length t
  have hsig : (sealed t).signature.length = 256 := sampleSignature_length _
  have hpids : (sealed t).protectedPIDs = t.protectedPIDs := rfl
  have himgs : (sealed t).imagesSize = t.imagesSize := rfl
  have hbound : t.imagesSize ≤ t.protectedPIDs.length * 32 := by
    unfold LotaToken.imagesSize
    split
    · exact Nat.le_refl _
    · exact Nat.zero_le _
  have hfits : t.protectedPIDs.length ≤ 1024 := hcount
  have hheader : tokenHeaderSize = 144 := rfl
  unfold LotaToken.serializedSize
  simp only [hattest, hsig, hpids, himgs, hheader]
  rw [if_neg (by decide), if_neg (Nat.not_lt.mpr hcount), if_neg (by omega)]
  omega

theorem sealed_serializedSize {t : LotaToken} (hp : t.protectedPIDs = []) :
    (sealed t).serializedSize = 511 := by
  rw [sealed_size (by rw [hp]; decide)]
  unfold LotaToken.imagesSize
  rw [hp]
  split <;> rfl

/-- It is written into a buffer of its size. -/
theorem sealed_written {t : LotaToken} (hcount : t.protectedPIDs.length ≤ maxProtectPIDs) :
    (sealed t).serialize (sealed t).serializedSize = .ok (sealed t).bytes := by
  have hsize := sealed_size hcount
  unfold LotaToken.serialize
  rw [if_neg (by omega), if_neg (Nat.lt_irrefl _)]

theorem sealed_serialize {t : LotaToken} (hp : t.protectedPIDs = []) {buflen : Nat}
    (hb : 511 ≤ buflen) : (sealed t).serialize buflen = .ok (sealed t).bytes := by
  have hsize := sealed_serializedSize hp
  unfold LotaToken.serialize
  rw [hsize, if_neg (by decide), if_neg (Nat.not_lt.mpr hb)]

/-- A sealed token passes. -/
theorem sealed_checked {t : LotaToken} (h : Sealable t) :
    Checked rsaCrypto (sealed t).bytes (sealKey t) t.nonce.toList (sealed t).wire
      (quotedParts (sha256 (bound t).wire.nonceMessage).toList) :=
  (sealed_signed h.version h.canonical).checked (sealed_written h.count)

theorem sealed_verifyToken {t : LotaToken} (h : Sealable t) (now : Int64)
    (hnow : t.validUntil = 0 ∨ now ≤ t.validUntil.toInt64) :
    verifyToken rsaCrypto (sealed t).bytes (sealKey t) t.nonce.toList now =
      .ok (claimsOf (sealed t).wire (quotedParts (sha256 (bound t).wire.nonceMessage).toList)) := by
  have hc := sealed_checked h
  refine verifyToken_ok.mpr ⟨⟨_, _, hc, rfl⟩, ?_⟩
  rw [hc.header.decode]
  exact hnow

/-! ## Equal attest data, equal tokens -/

/-- The claims two accepted tokens share. -/
structure ClaimsAgree (c c' : Claims) : Prop where
  expiresAt : c.expiresAt = c'.expiresAt
  flags : c.flags = c'.flags
  nonce : c.nonce = c'.nonce
  pcrMask : c.pcrMask = c'.pcrMask
  policyDigest : c.policyDigest = c'.policyDigest
  runtimeProtectDigest : c.runtimeProtectDigest = c'.runtimeProtectDigest
  protectPIDCount : c.protectPIDCount = c'.protectPIDCount
  runtimeProtectEpoch : c.runtimeProtectEpoch = c'.runtimeProtectEpoch
  pcrDigest : c.pcrDigest = c'.pcrDigest

/-- What two tokens carry behind their headers. -/
structure ContentsAgree (data data' : Bytes) : Prop where
  pids : (TokenWire.decode data).pids data = (TokenWire.decode data').pids data'
  version : (TokenWire.decode data).runtimeProtectVersion = runtimeProtectV2 ↔
    (TokenWire.decode data').runtimeProtectVersion = runtimeProtectV2
  images : (TokenWire.decode data).runtimeProtectVersion = runtimeProtectV2 →
    (TokenWire.decode data).imageListData data = (TokenWire.decode data').imageListData data'

section
variable {K : Crypto} {key : RSAPublicKey} {data data' nonce nonce' : Bytes} {hdr hdr' : TokenWire}
  {attest attest' : AttestParts}

/-- The signed attest data fixes the fields behind the quote nonce. -/
theorem checked_sameBound (h : Checked K data key nonce hdr attest)
    (h' : Checked K data' key nonce' hdr' attest')
    (hattest : hdr.attestData data = hdr'.attestData data')
    (hn : NoCollision hdr.nonceMessage hdr'.nonceMessage) :
    SameBound hdr hdr' ∧ attest = attest' := by
  have hparts : attest = attest' := by
    have hp := h.parsed
    rw [hattest, h'.parsed] at hp
    exact (Except.ok.inj hp).symm
  have hsum : sha256 hdr.nonceMessage = sha256 hdr'.nonceMessage := by
    apply List.Vector.toList_injective
    rw [← h.extraData, ← h'.extraData, hparts]
  exact ⟨nonceMessage_inj (hn hsum), hparts⟩

/-- The runtime protect digest fixes the PIDs, the version class and the
images. -/
theorem checked_contents (h : Checked K data key nonce hdr attest)
    (h' : Checked K data' key nonce' hdr' attest')
    (hd : hdr.runtimeProtectDigest = hdr'.runtimeProtectDigest)
    (hp : NoCollision (hdr.protectMessage data) (hdr'.protectMessage data')) :
    ContentsAgree data data' := by
  have hlen : ∀ {data : Bytes} {hdr : TokenWire}, HeaderOK data hdr → (hdr.pids data).length < 2 ^ 32 ∧
      (decide (hdr.runtimeProtectVersion = runtimeProtectV2) = true →
        (hdr.imageListData data).length = 32 * (hdr.pids data).length) := by
    intro data hdr hh
    have hpids : (hdr.pids data).length = hdr.protectPIDCount.toNat := readPIDs_length _ _
    refine ⟨by rw [hpids]; exact hdr.protectPIDCount.toNat_lt, fun hv => ?_⟩
    rw [hh.imageListData_length, hpids, TokenWire.imageListSize, if_pos (of_decide_eq_true hv),
      Nat.mul_comm]
    rfl
  have hmsg : hdr.protectMessage data = hdr'.protectMessage data' := by
    apply hp
    rw [h.digest, h'.digest, hd]
  obtain ⟨h1, h2⟩ := hlen h.header
  obtain ⟨h1', h2'⟩ := hlen h'.header
  obtain ⟨hv, hpids, himgs⟩ := protectMessage_inj h1 h1' h2 h2' hmsg
  rw [← h.header.decode, ← h'.header.decode] at *
  exact ⟨hpids, decide_eq_decide.mp hv, fun hv2 => himgs (decide_eq_true hv2)⟩

/-- **Claims are bound.** Two tokens that `VerifyToken` accepts under one key,
whatever nonce each was asked for and whatever the clock showed, and that
carry the same attest data, have the same claims and the same contents, if
SHA-256 does not confuse their nonce messages nor their protect messages. -/
theorem claims_bound {now now' : Int64} {c c' : Claims} (h : verifyToken K data key nonce now = .ok c)
    (h' : verifyToken K data' key nonce' now' = .ok c')
    (hattest : (TokenWire.decode data).attestData data = (TokenWire.decode data').attestData data')
    (hn : NoCollision (TokenWire.decode data).nonceMessage (TokenWire.decode data').nonceMessage)
    (hp : NoCollision ((TokenWire.decode data).protectMessage data)
      ((TokenWire.decode data').protectMessage data')) :
    ClaimsAgree c c' ∧ ContentsAgree data data' := by
  obtain ⟨⟨hdr, attest, hc, rfl⟩, -⟩ := verifyToken_ok.mp h
  obtain ⟨⟨hdr', attest', hc', rfl⟩, -⟩ := verifyToken_ok.mp h'
  have hdec := hc.header.decode
  have hdec' := hc'.header.decode
  rw [hdec, hdec'] at hattest hn hp
  obtain ⟨hb, rfl⟩ := checked_sameBound hc hc' hattest hn
  have hcont := checked_contents hc hc' hb.runtimeProtectDigest hp
  have hcount : hdr.protectPIDCount = hdr'.protectPIDCount := by
    have hpids := congrArg List.length hcont.pids
    rw [hdec, hdec'] at hpids
    unfold TokenWire.pids at hpids
    rw [readPIDs_length, readPIDs_length] at hpids
    exact UInt32.toNat_inj.mp hpids
  exact ⟨⟨congrArg UInt64.toInt64 hb.validUntil, hb.flags, hb.nonce, hb.pcrMask, hb.policy,
    hb.runtimeProtectDigest, hcount, hb.runtimeProtectEpoch, rfl⟩, hcont⟩

end

/-- A token for the PIDs 3 and 8, of a version without images. -/
def pidToken (version : UInt16) (hv : version ≠ runtimeProtectV2) : LotaToken :=
  { plainToken version 0 7 (Blob.zero 32) with protectedPIDs := [3, 8],
                                               images_length := fun h => absurd h hv }

section
variable {v v' : UInt16} (hv : v ≠ runtimeProtectV2) (hv' : v' ≠ runtimeProtectV2)

/-- Every version below 2 is bound to the same nonce message. -/
theorem bound_pidToken :
    (bound (pidToken v hv)).wire.nonceMessage = (bound (pidToken v' hv')).wire.nonceMessage := by
  simp only [TokenWire.nonceMessage, LotaToken.wire, bound, pidToken, plainToken,
    LotaToken.imageBytes, hv, hv', decide_false, if_false]

theorem pidToken_sealable (hle : v ≤ runtimeProtectV2) : Sealable (pidToken v hv) :=
  ⟨hle, by simp [pidToken, maxProtectPIDs], by simp only [pidToken]; decide⟩

theorem protectMessage_pidToken (hle : v ≤ runtimeProtectV2) :
    (TokenWire.decode (sealed (pidToken v hv)).bytes).protectMessage (sealed (pidToken v hv)).bytes =
      protectMessageV1 [3, 8] := by
  have hw := serialize_parts (sealed_written (pidToken_sealable hv hle).count)
  rw [hw.decode]
  unfold TokenWire.protectMessage protectMessage
  rw [hw.pids]
  have hdec : decide ((sealed (pidToken v hv)).wire.runtimeProtectVersion = runtimeProtectV2) =
      false := decide_eq_false hv
  rw [hdec, if_neg Bool.false_ne_true]
  rfl

end

/-- Versions 0 and 1 of one token differ as bytes and agree as claims. -/
theorem claims_bound_versions :
    let t := pidToken 0 (by decide)
    let t' := pidToken 1 (by decide)
    (sealed t).bytes ≠ (sealed t').bytes ∧
      (TokenWire.decode (sealed t).bytes).pids (sealed t).bytes = [3, 8] ∧
      ∃ c c', verifyToken rsaCrypto (sealed t).bytes (sealKey t) (Blob.zero 32).toList 0 = .ok c ∧
        verifyToken rsaCrypto (sealed t').bytes (sealKey t) (Blob.zero 32).toList 0 = .ok c' ∧
        ClaimsAgree c c' ∧ ContentsAgree (sealed t).bytes (sealed t').bytes := by
  have hmsg :=
    bound_pidToken (by decide : (0 : UInt16) ≠ runtimeProtectV2)
      (by decide : (1 : UInt16) ≠ runtimeProtectV2)
  have hs := pidToken_sealable (by decide : (0 : UInt16) ≠ runtimeProtectV2) (by decide)
  have hs' := pidToken_sealable (by decide : (1 : UInt16) ≠ runtimeProtectV2) (by decide)
  have hpm := protectMessage_pidToken (by decide : (0 : UInt16) ≠ runtimeProtectV2) (by decide)
  have hpm' := protectMessage_pidToken (by decide : (1 : UInt16) ≠ runtimeProtectV2) (by decide)
  generalize ht : pidToken 0 (by decide) = t at *
  generalize ht' : pidToken 1 (by decide) = t' at *
  simp only
  have hw := serialize_parts (sealed_written hs.count)
  have hw' := serialize_parts (sealed_written hs'.count)
  have hquote : quoteOf t = quoteOf t' := by
    unfold quoteOf
    rw [hmsg]
  have hkey : sealKey t = sealKey t' := by
    unfold sealKey
    rw [hquote]
  have hn : t.nonce = Blob.zero 32 := by rw [← ht]; rfl
  have hn' : t'.nonce = Blob.zero 32 := by rw [← ht']; rfl
  have h := sealed_verifyToken hs 0 (.inl (by rw [← ht]; rfl))
  have h' := sealed_verifyToken hs' 0 (.inl (by rw [← ht']; rfl))
  rw [hn] at h
  rw [hn', ← hkey] at h'
  refine ⟨?_, ?_, _, _, h, h', claims_bound h h' ?_ ?_ ?_⟩
  · intro heq
    have hv := congrArg TokenWire.runtimeProtectVersion
      (hw.decode.symm.trans ((congrArg TokenWire.decode heq).trans hw'.decode))
    have h0 : (sealed t).wire.runtimeProtectVersion = 0 := by rw [← ht]; rfl
    have h1 : (sealed t').wire.runtimeProtectVersion = 1 := by rw [← ht']; rfl
    rw [h0, h1] at hv
    exact absurd hv (by decide)
  · rw [hw.decode, hw.pids, ← ht]
    rfl
  · rw [hw.decode, hw'.decode, hw.attestData, hw'.attestData]
    exact hquote
  · rw [hw.decode, hw'.decode, sealed_nonceMessage, sealed_nonceMessage, hmsg]
    exact fun _ => rfl
  · rw [hpm, hpm']
    exact fun _ => rfl

end Lota.L4.Binding

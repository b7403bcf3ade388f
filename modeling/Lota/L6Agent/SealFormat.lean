import Lota.L4Sdk.TokenWire

/-!
# The sealed formats (`include/lota_seal.h`, `include/lota_envelope.h`)

A sealed blob is a 52-byte header and the two halves of a TPM object. A
sealed envelope is a 48-byte header, a sealed blob that holds the key, and
the ciphertext. Both headers are little-endian with reserved bytes that must
be zero, and both parsers are given the length of the whole blob.

Results:
* `sealParseHeader_iff`, `envelopeParseHeader_iff`: a blob parses to a header
  exactly when it starts with what the serialiser writes for it and its
  length is the sum of the parts. So each parser inverts its serialiser, and
  accepts no other spelling.
-/
namespace Lota.L6.SealFormat
open Lota.Core Lota.L4.Token

/-- The negative `errno` results. -/
inductive Errno where
  | einval | emsgsize | enospc | eio | ebadmsg | enomem
  /-- Any other, from the TPM. -/
  | sys (errno : Nat)
  deriving DecidableEq, Repr

/-! ## Bytes at offsets -/

/-- `buf[i]`. -/
def byteAt (buf : Bytes) (i : Nat) : UInt8 := buf.getD i 0

section
variable {buf : Bytes} {off : Nat}

theorem byteAt_field {xs : Bytes} (ys : Bytes) {i : Nat} (h : xs.length ≤ i) :
    byteAt (xs ++ ys) i = byteAt ys (i - xs.length) := by
  unfold byteAt
  exact List.getD_append_right xs ys 0 i h

@[simp] theorem byteAt_zero (b : UInt8) (ys : Bytes) : byteAt (b :: ys) 0 = b := rfl
@[simp] theorem byteAt_succ (b : UInt8) (ys : Bytes) (i : Nat) :
    byteAt (b :: ys) (i + 1) = byteAt ys i := rfl
@[simp] theorem leAt_cons (b : UInt8) (ys : Bytes) (i k : Nat) :
    leAt (b :: ys) (i + 1) k = leAt ys i k := rfl
@[simp] theorem blobAt_cons (n : Nat) (b : UInt8) (ys : Bytes) (i : Nat) :
    blobAt n (b :: ys) (i + 1) = blobAt n ys i := rfl

/-- A run of bytes in two parts. -/
theorem chunk_append (buf : Bytes) (off k n : Nat) :
    (buf.drop off).take k ++ (buf.drop (off + k)).take n = (buf.drop off).take (k + n) := by
  rw [List.take_add, List.drop_drop]

/-- A write outside a run of bytes leaves it alone. -/
theorem chunk_set {i k : Nat} (v : UInt8) (h : i < off ∨ off + k ≤ i) :
    ((buf.set i v).drop off).take k = (buf.drop off).take k := by
  rcases h with h | h
  · rw [List.drop_set_of_lt h]
  · rw [List.drop_set, if_neg (by omega), List.take_set_of_le (by omega)]

theorem word16_zero (ys : Bytes) : UInt16.ofNat (leAt (toLE 2 0 ++ ys) 0 2) = 0 := ofNat_leAt_16 0 ys

theorem leAt_lt (buf : Bytes) (off k : Nat) : leAt buf off k < 256 ^ k := by
  have hlt := ofLE_lt ((buf.drop off).take k)
  have hle : ((buf.drop off).take k).length ≤ k := List.length_take_le k _
  exact Nat.lt_of_lt_of_le hlt (Nat.pow_le_pow_right (by decide) hle)

/-- A little-endian field is written back as it was read. -/
theorem toLE_leAt {k : Nat} (h : off + k ≤ buf.length) :
    toLE k (leAt buf off k) = (buf.drop off).take k := by
  have hlen : ((buf.drop off).take k).length = k := by
    rw [List.length_take, List.length_drop]
    omega
  have hto := toLE_ofLE ((buf.drop off).take k)
  rw [hlen] at hto
  exact hto

theorem toLE_word16 (h : off + 2 ≤ buf.length) :
    toLE 2 (UInt16.ofNat (leAt buf off 2)).toNat = (buf.drop off).take 2 := by
  have hlt := leAt_lt buf off 2
  rw [UInt16.toNat_ofNat_of_lt' (by simpa [UInt16.size] using hlt), toLE_leAt h]

theorem toLE_word32 (h : off + 4 ≤ buf.length) :
    toLE 4 (UInt32.ofNat (leAt buf off 4)).toNat = (buf.drop off).take 4 := by
  have hlt := leAt_lt buf off 4
  rw [UInt32.toNat_ofNat_of_lt' (by simpa [UInt32.size] using hlt), toLE_leAt h]

theorem toNat_length16 {n : Nat} (h : n < 65536) : (UInt16.ofNat n).toNat = n :=
  UInt16.toNat_ofNat_of_lt' (by unfold UInt16.size; omega)

/-- A length in range passes the check of its field. -/
theorem length16_passes {x : UInt16} {n max : Nat} (hx : x.toNat = n) (hpos : 1 ≤ n) (hmax : n ≤ max) :
    ¬ (x = 0 ∨ x.toNat > max) := by
  rw [← UInt16.toNat_inj, hx, UInt16.toNat_zero]
  omega

theorem toList_blobAt {n : Nat} (h : off + n ≤ buf.length) :
    (blobAt n buf off).toList = (buf.drop off).take n := by
  have hlen : ((buf.drop off).take n).length = n := by
    rw [List.length_take, List.length_drop]
    omega
  exact List.take_left' hlen

theorem byteAt_chunk (h : off < buf.length) : [byteAt buf off] = (buf.drop off).take 1 := by
  unfold byteAt
  rw [List.drop_eq_getElem_cons h, List.take_succ_cons, List.take_zero, List.getD_eq_getElem _ _ h]

end

/-! ## The sealed blob -/

def sealMagic : UInt32 := 0x4C53454C
def sealVersion : UInt16 := 1
def sealMaxSecret : Nat := 128
def sealPcrAlgSha256 : UInt8 := 0
def sealPcrMaskAll : UInt32 := 0x00FFFFFF
def sealDefaultPcrMask : UInt32 := (0xFF : UInt32) ||| (1 : UInt32) <<< (14 : UInt32)
def sealHeaderSize : Nat := 52
def sealMaxPub : Nat := 1024
def sealMaxPriv : Nat := 1024
def sealMaxBlob : Nat := sealHeaderSize + sealMaxPub + sealMaxPriv

theorem sealMaxBlob_eq : sealMaxBlob = 2100 := rfl

/-- mirrors include/lota_seal.h:84-90 -/
structure SealMeta where
  pcrMask : UInt32
  pcrAlg : UInt8
  pcrDigest : Blob 32
  pubLen : UInt16
  privLen : UInt16
  deriving DecidableEq

/-- No PCR at all, or an index above 23, is refused.
mirrors include/lota_seal.h:122-129 -/
def sealValidatePcrMask (pcrMask : UInt32) : Except Errno Unit :=
  if pcrMask = 0 then .error .einval
  else if pcrMask &&& ~~~sealPcrMaskAll ≠ 0 then .error .einval
  else .ok ()

/-- The 52 bytes: zeroed, then the fields at their offsets. -/
def SealMeta.headerBytes (m : SealMeta) : Bytes :=
  toLE 4 sealMagic.toNat ++ (toLE 2 sealVersion.toNat ++ (toLE 2 0 ++ (toLE 4 m.pcrMask.toNat ++
  ([m.pcrAlg] ++ ([0] ++ ([0] ++ ([0] ++ (m.pcrDigest.toList ++
  (toLE 2 m.pubLen.toNat ++ toLE 2 m.privLen.toNat)))))))))

/-- mirrors include/lota_seal.h:136-162 -/
def sealSerializeHeader (m : SealMeta) : Except Errno Bytes :=
  if sealValidatePcrMask m.pcrMask ≠ .ok () then .error .einval
  else if m.pcrAlg ≠ sealPcrAlgSha256 then .error .einval
  else if m.pubLen = 0 ∨ m.pubLen.toNat > sealMaxPub then .error .einval
  else if m.privLen = 0 ∨ m.privLen.toNat > sealMaxPriv then .error .einval
  else .ok m.headerBytes

/-- mirrors include/lota_seal.h:174-218 -/
def sealParseHeader (buf : Bytes) : Except Errno SealMeta :=
  if buf.length < sealHeaderSize then .error .emsgsize
  else if UInt32.ofNat (leAt buf 0 4) ≠ sealMagic then .error .einval
  else if UInt16.ofNat (leAt buf 4 2) ≠ sealVersion then .error .einval
  else if UInt16.ofNat (leAt buf 6 2) ≠ 0 then .error .einval
  else
    let pcrMask := UInt32.ofNat (leAt buf 8 4)
    let pcrAlg := byteAt buf 12
    if byteAt buf 13 ≠ 0 ∨ byteAt buf 14 ≠ 0 ∨ byteAt buf 15 ≠ 0 then .error .einval
    else if sealValidatePcrMask pcrMask ≠ .ok () then .error .einval
    else if pcrAlg ≠ sealPcrAlgSha256 then .error .einval
    else
      let pubLen := UInt16.ofNat (leAt buf 48 2)
      let privLen := UInt16.ofNat (leAt buf 50 2)
      if pubLen = 0 ∨ pubLen.toNat > sealMaxPub then .error .einval
      else if privLen = 0 ∨ privLen.toNat > sealMaxPriv then .error .einval
      -- the bodies must fit exactly
      else if sealHeaderSize + pubLen.toNat + privLen.toNat ≠ buf.length then .error .emsgsize
      else .ok { pcrMask, pcrAlg, pcrDigest := blobAt 32 buf 16, pubLen, privLen }

/-- What both sides check of the fields. -/
structure SealMeta.Valid (m : SealMeta) : Prop where
  mask : sealValidatePcrMask m.pcrMask = .ok ()
  alg : m.pcrAlg = sealPcrAlgSha256
  pub : ¬ (m.pubLen = 0 ∨ m.pubLen.toNat > sealMaxPub)
  priv : ¬ (m.privLen = 0 ∨ m.privLen.toNat > sealMaxPriv)

theorem SealMeta.headerBytes_length (m : SealMeta) : m.headerBytes.length = sealHeaderSize := by
  simp [SealMeta.headerBytes, sealHeaderSize]

theorem sealSerializeHeader_ok {m : SealMeta} {b : Bytes} :
    sealSerializeHeader m = .ok b ↔ m.Valid ∧ m.headerBytes = b := by
  unfold sealSerializeHeader
  simp only [except_guard_ok, not_not, Except.ok.injEq]
  constructor
  · rintro ⟨hmask, halg, hpub, hpriv, hb⟩
    exact ⟨⟨hmask, halg, hpub, hpriv⟩, hb⟩
  · rintro ⟨hv, hb⟩
    exact ⟨hv.mask, hv.alg, hv.pub, hv.priv, hb⟩

/-- The header's bytes, field by field. -/
theorem seal_take_fields {buf : Bytes} (h : 52 ≤ buf.length) :
    toLE 4 (UInt32.ofNat (leAt buf 0 4)).toNat ++ (toLE 2 (UInt16.ofNat (leAt buf 4 2)).toNat ++
      (toLE 2 (UInt16.ofNat (leAt buf 6 2)).toNat ++ (toLE 4 (UInt32.ofNat (leAt buf 8 4)).toNat ++
      ([byteAt buf 12] ++
        ([byteAt buf 13] ++ ([byteAt buf 14] ++ ([byteAt buf 15] ++ ((blobAt 32 buf 16).toList ++
      (toLE 2 (UInt16.ofNat (leAt buf 48 2)).toNat ++
        toLE 2 (UInt16.ofNat (leAt buf 50 2)).toNat))))))))) =
      buf.take sealHeaderSize := by
  rw [toLE_word32 (by omega), toLE_word16 (by omega), toLE_word16 (by omega), toLE_word32 (by omega),
    byteAt_chunk (by omega), byteAt_chunk (by omega), byteAt_chunk (by omega), byteAt_chunk (by omega),
    toList_blobAt (by omega), toLE_word16 (by omega), toLE_word16 (by omega)]
  simp only [chunk_append buf 48 2 2, chunk_append buf 16 32 4, chunk_append buf 15 1 36,
    chunk_append buf 14 1 37,
    chunk_append buf 13 1 38, chunk_append buf 12 1 39, chunk_append buf 8 4 40,
    chunk_append buf 6 2 44, chunk_append buf 4 2 46, chunk_append buf 0 4 48]
  rfl

/-- The fields, read back from the header's bytes. -/
theorem seal_read_fields (m : SealMeta) (body : Bytes) :
    UInt32.ofNat (leAt (m.headerBytes ++ body) 0 4) = sealMagic ∧
      UInt16.ofNat (leAt (m.headerBytes ++ body) 4 2) = sealVersion ∧
      UInt16.ofNat (leAt (m.headerBytes ++ body) 6 2) = 0 ∧
      UInt32.ofNat (leAt (m.headerBytes ++ body) 8 4) = m.pcrMask ∧
      byteAt (m.headerBytes ++ body) 12 = m.pcrAlg ∧
      byteAt (m.headerBytes ++ body) 13 = 0 ∧ byteAt (m.headerBytes ++ body) 14 = 0 ∧
      byteAt (m.headerBytes ++ body) 15 = 0 ∧ blobAt 32 (m.headerBytes ++ body) 16 = m.pcrDigest ∧
      UInt16.ofNat (leAt (m.headerBytes ++ body) 48 2) = m.pubLen ∧
      UInt16.ofNat (leAt (m.headerBytes ++ body) 50 2) = m.privLen := by
  unfold SealMeta.headerBytes
  simp only [List.append_assoc]
  simp [leAt_field, byteAt_field, blobAt_field, ofNat_leAt_16, ofNat_leAt_32,
    blobAt_toList, word16_zero]

/-- **The sealed blob's header.** A blob parses to `m` exactly when it starts
with what is serialised for `m` and has the length `m` declares. -/
theorem sealParseHeader_iff {buf : Bytes} {m : SealMeta} : sealParseHeader buf = .ok m ↔
    sealSerializeHeader m = .ok (buf.take sealHeaderSize) ∧
      buf.length = sealHeaderSize + m.pubLen.toNat + m.privLen.toNat := by
  rw [sealSerializeHeader_ok]
  constructor
  · intro h
    unfold sealParseHeader at h
    simp only [except_guard_ok, not_not, not_lt, Except.ok.injEq] at h
    obtain ⟨hlen, hmagic, hver, hres, hpad, hmask, halg, hpub, hpriv, hneed, rfl⟩ := h
    simp only [not_or, not_not] at hpad
    obtain ⟨h13, h14, h15⟩ := hpad
    have hfields := seal_take_fields hlen
    rw [hmagic, hver, hres, h13, h14, h15] at hfields
    exact ⟨⟨⟨hmask, halg, hpub, hpriv⟩, hfields⟩, hneed.symm⟩
  · rintro ⟨⟨hv, hbytes⟩, hlen⟩
    -- the blob is the header of `m` and a body
    obtain ⟨body, rfl⟩ : ∃ body, buf = m.headerBytes ++ body := by
      refine ⟨buf.drop sealHeaderSize, ?_⟩
      rw [hbytes, List.take_append_drop]
    have hge : ¬ (m.headerBytes ++ body).length < sealHeaderSize := by omega
    obtain ⟨hmagic, hver, hres, hmask, halg, h13, h14, h15, hdigest, hpub, hpriv⟩ :=
      seal_read_fields m body
    unfold sealParseHeader
    simp only [hmagic, hver, hres, hmask, halg, h13, h14, h15, hdigest, hpub, hpriv, except_guard_ok]
    exact ⟨hge,
      by simp, by simp, by simp, by simp, by simp [hv.mask], by simp [hv.alg], hv.pub, hv.priv,
      by omega, trivial⟩

/-! ## The envelope -/

def envelopeMagic : UInt32 := 0x564E454C
def envelopeVersion : UInt16 := 1
def envelopeKekSize : Nat := 32
def envelopeHeaderSize : Nat := 48
def envelopeMaxPayload : Nat := 65536
def envelopeMaxBlob : Nat := envelopeHeaderSize + sealMaxBlob + envelopeMaxPayload

/-- mirrors include/lota_envelope.h:84-89 -/
structure EnvelopeMeta where
  kekBlobLen : UInt16
  payloadLen : UInt32
  nonce : Blob 12
  tag : Blob 16
  deriving DecidableEq

/-- The 48 bytes: zeroed, then the fields at their offsets. -/
def EnvelopeMeta.headerBytes (m : EnvelopeMeta) : Bytes :=
  toLE 4 envelopeMagic.toNat ++
    (toLE 2 envelopeVersion.toNat ++ (toLE 2 0 ++ (toLE 2 m.kekBlobLen.toNat ++
  (toLE 2 0 ++ (toLE 4 m.payloadLen.toNat ++ (m.nonce.toList ++ (m.tag.toList ++ [0, 0, 0, 0])))))))

/-- mirrors include/lota_envelope.h:96-117 -/
def envelopeSerializeHeader (m : EnvelopeMeta) : Except Errno Bytes :=
  if m.kekBlobLen = 0 ∨ m.kekBlobLen.toNat > sealMaxBlob then .error .einval
  else if m.payloadLen = 0 ∨ m.payloadLen.toNat > envelopeMaxPayload then .error .einval
  else .ok m.headerBytes

/-- mirrors include/lota_envelope.h:128-168 -/
def envelopeParseHeader (buf : Bytes) : Except Errno EnvelopeMeta :=
  if buf.length < envelopeHeaderSize then .error .emsgsize
  else if UInt32.ofNat (leAt buf 0 4) ≠ envelopeMagic then .error .einval
  else if UInt16.ofNat (leAt buf 4 2) ≠ envelopeVersion then .error .einval
  else if UInt16.ofNat (leAt buf 6 2) ≠ 0 then .error .einval
  else if UInt16.ofNat (leAt buf 10 2) ≠ 0 then .error .einval
  else if byteAt buf 44 ≠ 0 ∨ byteAt buf 45 ≠ 0 ∨ byteAt buf 46 ≠ 0 ∨ byteAt buf 47 ≠ 0
    then .error .einval
  else
    let kekBlobLen := UInt16.ofNat (leAt buf 8 2)
    let payloadLen := UInt32.ofNat (leAt buf 12 4)
    if kekBlobLen = 0 ∨ kekBlobLen.toNat > sealMaxBlob then .error .einval
    else if payloadLen = 0 ∨ payloadLen.toNat > envelopeMaxPayload then .error .einval
    -- the bodies must fit exactly
    else if envelopeHeaderSize + kekBlobLen.toNat + payloadLen.toNat ≠ buf.length then .error .emsgsize
    else .ok { kekBlobLen, payloadLen, nonce := blobAt 12 buf 16, tag := blobAt 16 buf 28 }

/-- What both sides check of the fields. -/
structure EnvelopeMeta.Valid (m : EnvelopeMeta) : Prop where
  kek : ¬ (m.kekBlobLen = 0 ∨ m.kekBlobLen.toNat > sealMaxBlob)
  payload : ¬ (m.payloadLen = 0 ∨ m.payloadLen.toNat > envelopeMaxPayload)

theorem EnvelopeMeta.headerBytes_length (m : EnvelopeMeta) :
    m.headerBytes.length = envelopeHeaderSize := by
  simp [EnvelopeMeta.headerBytes, envelopeHeaderSize]

theorem envelopeSerializeHeader_ok {m : EnvelopeMeta} {b : Bytes} :
    envelopeSerializeHeader m = .ok b ↔ m.Valid ∧ m.headerBytes = b := by
  unfold envelopeSerializeHeader
  simp only [except_guard_ok, Except.ok.injEq]
  constructor
  · rintro ⟨hkek, hpayload, hb⟩
    exact ⟨⟨hkek, hpayload⟩, hb⟩
  · rintro ⟨hv, hb⟩
    exact ⟨hv.kek, hv.payload, hb⟩

/-- The header's bytes, field by field. -/
theorem envelope_take_fields {buf : Bytes} (h : 48 ≤ buf.length) :
    toLE 4 (UInt32.ofNat (leAt buf 0 4)).toNat ++ (toLE 2 (UInt16.ofNat (leAt buf 4 2)).toNat ++
      (toLE 2 (UInt16.ofNat (leAt buf 6 2)).toNat ++ (toLE 2 (UInt16.ofNat (leAt buf 8 2)).toNat ++
      (toLE 2 (UInt16.ofNat (leAt buf 10 2)).toNat ++ (toLE 4 (UInt32.ofNat (leAt buf 12 4)).toNat ++
      ((blobAt 12 buf 16).toList ++ ((blobAt 16 buf 28).toList ++
      ([byteAt buf 44] ++ ([byteAt buf 45] ++ ([byteAt buf 46] ++ [byteAt buf 47])))))))))) =
      buf.take envelopeHeaderSize := by
  rw [toLE_word32 (by omega), toLE_word16 (by omega), toLE_word16 (by omega), toLE_word16 (by omega),
    toLE_word16 (by omega), toLE_word32 (by omega), toList_blobAt (by omega), toList_blobAt (by omega),
    byteAt_chunk (by omega), byteAt_chunk (by omega), byteAt_chunk (by omega), byteAt_chunk (by omega)]
  simp only [chunk_append buf 46 1 1, chunk_append buf 45 1 2, chunk_append buf 44 1 3,
    chunk_append buf 28 16 4,
    chunk_append buf 16 12 20, chunk_append buf 12 4 32, chunk_append buf 10 2 36,
    chunk_append buf 8 2 38,
    chunk_append buf 6 2 40, chunk_append buf 4 2 42, chunk_append buf 0 4 44]
  rfl

/-- The fields, read back from the header's bytes. -/
theorem envelope_read_fields (m : EnvelopeMeta) (body : Bytes) :
    UInt32.ofNat (leAt (m.headerBytes ++ body) 0 4) = envelopeMagic ∧
      UInt16.ofNat (leAt (m.headerBytes ++ body) 4 2) = envelopeVersion ∧
      UInt16.ofNat (leAt (m.headerBytes ++ body) 6 2) = 0 ∧
      UInt16.ofNat (leAt (m.headerBytes ++ body) 8 2) = m.kekBlobLen ∧
      UInt16.ofNat (leAt (m.headerBytes ++ body) 10 2) = 0 ∧
      UInt32.ofNat (leAt (m.headerBytes ++ body) 12 4) = m.payloadLen ∧
      blobAt 12 (m.headerBytes ++ body) 16 = m.nonce ∧ blobAt 16 (m.headerBytes ++ body) 28 = m.tag ∧
      byteAt (m.headerBytes ++ body) 44 = 0 ∧ byteAt (m.headerBytes ++ body) 45 = 0 ∧
      byteAt (m.headerBytes ++ body) 46 = 0 ∧ byteAt (m.headerBytes ++ body) 47 = 0 := by
  unfold EnvelopeMeta.headerBytes
  simp only [List.append_assoc]
  simp [leAt_field, byteAt_field, blobAt_field, ofNat_leAt_16, ofNat_leAt_32,
    blobAt_toList, word16_zero]

/-- **The envelope's header.** A blob parses to `m` exactly when it starts
with what is serialised for `m` and has the length `m` declares. -/
theorem envelopeParseHeader_iff {buf : Bytes} {m : EnvelopeMeta} : envelopeParseHeader buf = .ok m ↔
    envelopeSerializeHeader m = .ok (buf.take envelopeHeaderSize) ∧
      buf.length = envelopeHeaderSize + m.kekBlobLen.toNat + m.payloadLen.toNat := by
  rw [envelopeSerializeHeader_ok]
  constructor
  · intro h
    unfold envelopeParseHeader at h
    simp only [except_guard_ok, not_not, not_lt, Except.ok.injEq] at h
    obtain ⟨hlen, hmagic, hver, hres, hres', hpad, hkek, hpayload, hneed, rfl⟩ := h
    simp only [not_or, not_not] at hpad
    obtain ⟨h44, h45, h46, h47⟩ := hpad
    have hfields := envelope_take_fields hlen
    rw [hmagic, hver, hres, hres', h44, h45, h46, h47] at hfields
    exact ⟨⟨⟨hkek, hpayload⟩, hfields⟩, hneed.symm⟩
  · rintro ⟨⟨hv, hbytes⟩, hlen⟩
    -- the blob is the header of `m` and a body
    obtain ⟨body, rfl⟩ : ∃ body, buf = m.headerBytes ++ body := by
      refine ⟨buf.drop envelopeHeaderSize, ?_⟩
      rw [hbytes, List.take_append_drop]
    have hge : ¬ (m.headerBytes ++ body).length < envelopeHeaderSize := by omega
    obtain ⟨hmagic, hver, hres, hkek, hres', hpayload, hnonce, htag, h44, h45, h46, h47⟩ :=
      envelope_read_fields m body
    unfold envelopeParseHeader
    simp only [hmagic, hver, hres, hkek, hres', hpayload, hnonce, htag, h44, h45, h46, h47,
      except_guard_ok]
    exact ⟨hge, by simp, by simp, by simp, by simp, by simp, hv.kek, hv.payload, by omega, trivial⟩

end Lota.L6.SealFormat

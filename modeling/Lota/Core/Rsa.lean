import Mathlib.Data.Nat.Size
import Mathlib.Tactic.Ring
import Lota.Core.Bytes

/-!
# RSASSA-PKCS1-v1_5 (RFC 8017 §8.2, §9.2) and a key encoding

The verification of an RSA signature over a 32-byte digest, and the
`SubjectPublicKeyInfo` of a 2048-bit key with exponent 3.

* `verifyPKCS1v15_sample`: every SHA-256 digest has a 2048-bit key with an odd
  modulus and a signature that verifies. The modulus is a cube minus the
  encoded message, so no factorisation is involved.
* `parseSPKI_marshalSPKI`: the key encoding is read back.
-/
namespace Lota.Core

structure RSAPublicKey where
  n : Nat
  e : Nat
  deriving DecidableEq

def RSAPublicKey.bitLen (k : RSAPublicKey) : Nat := k.n.size

def RSAPublicKey.size (k : RSAPublicKey) : Nat := (k.bitLen + 7) / 8

/-- The DER header of a SHA-256 `DigestInfo`. -/
def digestInfoSHA256 : Bytes :=
  [0x30, 0x31, 0x30, 0x0d, 0x06, 0x09, 0x60, 0x86, 0x48, 0x01, 0x65, 0x03, 0x04, 0x02, 0x01, 0x05,
    0x00, 0x04, 0x20]

/-- `EMSA-PKCS1-v1_5-ENCODE` of a digest with its `DigestInfo` header. -/
def emsaPKCS1v15 (k : Nat) (info digest : Bytes) : Bytes :=
  [0x00, 0x01] ++ List.replicate (k - 3 - (info ++ digest).length) 0xff ++ [0x00] ++ (info ++ digest)

/-- `RSASSA-PKCS1-V1_5-VERIFY`. -/
def verifyPKCS1v15 (info : Bytes) (key : RSAPublicKey) (digest sig : Bytes) : Bool :=
  (info ++ digest).length + 11 ≤ key.size ∧ sig.length = key.size ∧ ofBE sig < key.n ∧
    toBE key.size (ofBE sig ^ key.e % key.n) = emsaPKCS1v15 key.size info digest

/-! ## A key for a given signature -/

theorem ofLE_append (xs ys : Bytes) : ofLE (xs ++ ys) = ofLE xs + 256 ^ xs.length * ofLE ys := by
  induction xs with
  | nil => simp [ofLE]
  | cons x xs ih =>
    simp only [List.cons_append, ofLE, ih, List.length_cons, Nat.pow_succ]
    ring

/-- Leading zero and one bytes bound a big-endian number. -/
theorem ofBE_zero_one_lt (bs : Bytes) : ofBE ([0, 1] ++ bs) < 2 * 256 ^ bs.length := by
  have hlt := ofLE_lt bs.reverse
  rw [List.length_reverse] at hlt
  have heq : ofBE ([0, 1] ++ bs) = ofLE bs.reverse + 256 ^ bs.length := by
    unfold ofBE
    rw [List.reverse_append, ofLE_append, List.length_reverse]
    have hone : ofLE ([0, 1] : Bytes).reverse = 1 := by decide
    rw [hone, Nat.mul_one]
  omega

theorem toBE_ofBE (bs : Bytes) : toBE bs.length (ofBE bs) = bs := by
  unfold toBE ofBE
  have := toLE_ofLE bs.reverse
  rw [List.length_reverse] at this
  rw [this, List.reverse_reverse]

def baseRoot : Nat := 3 * 2 ^ 681

/-- The number a 2048-bit key recovers from a valid signature of `digest`. -/
def encodedMessage (digest : Bytes) : Nat := ofBE (emsaPKCS1v15 256 digestInfoSHA256 digest)

/-- A root of other parity than the encoded message. -/
def sampleRoot (digest : Bytes) : Nat := baseRoot + (encodedMessage digest + 1) % 2

def sampleKey (digest : Bytes) : RSAPublicKey where
  n := sampleRoot digest ^ 3 - encodedMessage digest
  e := 3

def sampleSignature (digest : Bytes) : Bytes := toBE 256 (sampleRoot digest)

/-- The encoded message behind its first two bytes. -/
theorem emsaPKCS1v15_tail {digest : Bytes} (h : digest.length = 32) : ∃ bs : Bytes, bs.length = 254 ∧
    emsaPKCS1v15 256 digestInfoSHA256 digest = [0, 1] ++ bs := by
  have hinfo : (digestInfoSHA256 ++ digest).length = 51 := by
    rw [List.length_append, h]
    rfl
  refine ⟨List.replicate 202 0xff ++ ([0x00] ++ (digestInfoSHA256 ++ digest)), ?_, ?_⟩
  · rw [List.length_append, List.length_append, hinfo, List.length_replicate]
    rfl
  · unfold emsaPKCS1v15
    rw [hinfo, List.append_assoc, List.append_assoc]

theorem emsaPKCS1v15_length {digest : Bytes} (h : digest.length = 32) :
    (emsaPKCS1v15 256 digestInfoSHA256 digest).length = 256 := by
  obtain ⟨bs, hl, he⟩ := emsaPKCS1v15_tail h
  rw [he, List.length_append, hl]
  rfl

theorem encodedMessage_lt {digest : Bytes} (h : digest.length = 32) :
    encodedMessage digest < 2 ^ 2033 := by
  obtain ⟨bs, hl, he⟩ := emsaPKCS1v15_tail h
  unfold encodedMessage
  rw [he]
  refine Nat.lt_of_lt_of_le (ofBE_zero_one_lt bs) ?_
  rw [hl]
  decide +kernel

theorem sampleRoot_bounds (digest : Bytes) :
    baseRoot ≤ sampleRoot digest ∧ sampleRoot digest ≤ baseRoot + 1 := by
  unfold sampleRoot
  omega

/-- The modulus has exactly 2048 bits. -/
theorem sampleKey_bounds {digest : Bytes} (h : digest.length = 32) :
    2 ^ 2047 ≤ (sampleKey digest).n ∧ (sampleKey digest).n < 2 ^ 2048 ∧
      (sampleKey digest).n + encodedMessage digest = sampleRoot digest ^ 3 := by
  obtain ⟨h1, h2⟩ := sampleRoot_bounds digest
  have hem := encodedMessage_lt h
  have hlo : baseRoot ^ 3 ≤ sampleRoot digest ^ 3 := Nat.pow_le_pow_left h1 3
  have hhi : sampleRoot digest ^ 3 ≤ (baseRoot + 1) ^ 3 := Nat.pow_le_pow_left h2 3
  have hb1 : 2 ^ 2047 + 2 ^ 2033 ≤ baseRoot ^ 3 := by decide +kernel
  have hb2 : (baseRoot + 1) ^ 3 < 2 ^ 2048 := by decide +kernel
  have hn : (sampleKey digest).n = sampleRoot digest ^ 3 - encodedMessage digest := rfl
  rw [hn]
  generalize sampleRoot digest ^ 3 = c at *
  generalize (baseRoot + 1) ^ 3 = b at *
  generalize baseRoot ^ 3 = a at *
  generalize encodedMessage digest = m at *
  generalize 2 ^ 2047 = x at *
  generalize 2 ^ 2048 = y at *
  generalize 2 ^ 2033 = z at *
  omega

theorem sampleKey_bitLen {digest : Bytes} (h : digest.length = 32) :
    (sampleKey digest).bitLen = 2048 := by
  obtain ⟨h1, h2, -⟩ := sampleKey_bounds h
  unfold RSAPublicKey.bitLen
  have hle := Nat.size_le.mpr h2
  have hlt := Nat.lt_size.mpr h1
  omega

/-- **Signatures exist.** The sample key accepts the sample signature of its
digest. -/
theorem verifyPKCS1v15_sample {digest : Bytes} (h : digest.length = 32) :
    verifyPKCS1v15 digestInfoSHA256 (sampleKey digest) digest (sampleSignature digest) = true := by
  obtain ⟨h1, -, h3⟩ := sampleKey_bounds h
  have hsize : (sampleKey digest).size = 256 := by
    unfold RSAPublicKey.size
    rw [sampleKey_bitLen h]
  have hem : encodedMessage digest < (sampleKey digest).n := by
    refine Nat.lt_of_lt_of_le (encodedMessage_lt h) (Nat.le_trans ?_ h1)
    decide +kernel
  have hroot : sampleRoot digest < 2 ^ 2047 := by
    refine Nat.lt_of_le_of_lt (sampleRoot_bounds digest).2 ?_
    decide +kernel
  have hsig : ofBE (sampleSignature digest) = sampleRoot digest := by
    apply ofBE_toBE
    refine Nat.lt_trans hroot ?_
    decide +kernel
  have hmod : sampleRoot digest ^ 3 % (sampleKey digest).n = encodedMessage digest := by
    rw [← h3, Nat.add_mod_left]
    exact Nat.mod_eq_of_lt hem
  have hback : toBE 256 (encodedMessage digest) = emsaPKCS1v15 256 digestInfoSHA256 digest := by
    have := toBE_ofBE (emsaPKCS1v15 256 digestInfoSHA256 digest)
    rwa [emsaPKCS1v15_length h] at this
  unfold verifyPKCS1v15
  simp only [hsize, hsig, decide_eq_true_eq]
  refine ⟨?_, toBE_length 256 _, Nat.lt_of_lt_of_le hroot h1, ?_⟩
  · rw [List.length_append, h]
    decide
  · show toBE 256 (sampleRoot digest ^ 3 % (sampleKey digest).n) = _
    rw [hmod, hback]

/-! ## The encoding of a key -/

/-- `SubjectPublicKeyInfo` up to the modulus, for 2048 bits and exponent 3. -/
def spkiHeader : Bytes :=
  [0x30, 0x82, 0x01, 0x20, 0x30, 0x0d, 0x06, 0x09, 0x2a, 0x86, 0x48, 0x86, 0xf7, 0x0d, 0x01, 0x01,
    0x01, 0x05, 0x00,
   0x03, 0x82, 0x01, 0x0d, 0x00, 0x30, 0x82, 0x01, 0x08, 0x02, 0x82, 0x01, 0x01, 0x00]

/-- The exponent 3. -/
def spkiTrailer : Bytes := [0x02, 0x01, 0x03]

def marshalSPKI (n : Nat) : Bytes := spkiHeader ++ toBE 256 n ++ spkiTrailer

/-- Reads the encodings of `marshalSPKI`, of a modulus with its top bit set. -/
def parseSPKI (bs : Bytes) : Option RSAPublicKey :=
  let n := ofBE ((bs.drop 33).take 256)
  if bs = marshalSPKI n ∧ 2 ^ 2047 ≤ n then some ⟨n, 3⟩ else none

theorem parseSPKI_marshalSPKI {n : Nat} (h1 : 2 ^ 2047 ≤ n) (h2 : n < 2 ^ 2048) :
    parseSPKI (marshalSPKI n) = some ⟨n, 3⟩ := by
  have hlen : spkiHeader.length = 33 := rfl
  have hmid : ((marshalSPKI n).drop 33).take 256 = toBE 256 n := by
    unfold marshalSPKI
    rw [List.append_assoc, ← hlen, List.drop_left]
    exact List.take_left' (toBE_length 256 n)
  have hn : ofBE (toBE 256 n) = n := by
    apply ofBE_toBE
    refine Nat.lt_of_lt_of_le h2 ?_
    decide +kernel
  unfold parseSPKI
  simp only [hmid, hn]
  rw [if_pos ⟨trivial, h1⟩]

theorem parseSPKI_sampleKey {digest : Bytes} (h : digest.length = 32) :
    parseSPKI (marshalSPKI (sampleKey digest).n) = some (sampleKey digest) := by
  obtain ⟨h1, h2, -⟩ := sampleKey_bounds h
  exact parseSPKI_marshalSPKI h1 h2

theorem marshalSPKI_length (n : Nat) : (marshalSPKI n).length = 292 := by
  unfold marshalSPKI
  rw [List.length_append, List.length_append, toBE_length]
  rfl

theorem sampleSignature_length (digest : Bytes) : (sampleSignature digest).length = 256 :=
  toBE_length 256 _

-- closed terms of 2048 bits; no later proof computes with them
attribute [irreducible] verifyPKCS1v15 sampleKey sampleSignature parseSPKI marshalSPKI

end Lota.Core

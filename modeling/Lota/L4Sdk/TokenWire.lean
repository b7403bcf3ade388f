import Lota.L1Wire.Report
import Lota.Core.PrefixCode
import Lota.Core.Sha256

/-!
# The token wire format (`include/lota_token.h`)

A token is a 144-byte little-endian header, the protected PIDs, with
version 2 one image digest per PID, the TPM-signed attest data and its
signature. Two servers read it (`sdk/server/verify.go`, `sdk/lota_server.c`)
and one client writes it (`sdk/lota_gaming.c`); this module has what they
share.

Results:
* `decode_headerBytes`: the header is read back, whatever follows it.
* `nonceMessage_inj`: the bytes behind the quote nonce determine the fields
  they are made of.
* `protectMessage_inj`: the bytes behind the runtime protect digest
  determine the version class, the PIDs and, for version 2, the images.
-/
namespace Lota.L4.Token
open Lota.Core Lota.L1.Report

def tokenMagic : UInt32 := 0x4B544F4C
def tokenVersion : UInt16 := 0x0003
def tokenHeaderSize : Nat := 144
def maxProtectPIDs : Nat := 1024
def imageDigestSize : Nat := 32

/-- `runtime_protect_version`: PIDs with their image digests. Every smaller
value means PIDs alone. -/
def runtimeProtectV2 : UInt16 := 2

/-! ## Fields at offsets -/

/-- The `k`-byte little-endian integer at `data[off:]`. -/
def leAt (data : Bytes) (off k : Nat) : Nat := ofLE ((data.drop off).take k)

/-- The `k`-byte big-endian integer at `data[off:]`. -/
def beAt (data : Bytes) (off k : Nat) : Nat := ofBE ((data.drop off).take k)

/-- `copy(out[:], data[off:off+n])`. -/
def blobAt (n : Nat) (data : Bytes) (off : Nat) : Blob n := toBlob n ((data.drop off).take n)

theorem toBlob_toList {n : Nat} (b : Blob n) : toBlob n b.toList = b := by
  apply Subtype.ext
  show (b.toList ++ List.replicate n 0).take n = b.toList
  exact List.take_left' b.toList_length

/-- mirrors src/sdk/server/verify.go:136-154 and include/lota_token.h:85-129 -/
structure TokenWire where
  magic : UInt32
  version : UInt16
  totalSize : UInt16
  validUntil : UInt64
  flags : UInt32
  nonce : Hash
  sigAlg : UInt16
  hashAlg : UInt16
  pcrMask : UInt32
  policy : Hash
  runtimeProtectDigest : Hash
  protectPIDCount : UInt32
  runtimeProtectEpoch : UInt64
  pidListSize : UInt16
  attestSize : UInt16
  sigSize : UInt16
  runtimeProtectVersion : UInt16
  deriving DecidableEq

/-- The fields at their offsets, before any check.
mirrors src/sdk/server/verify.go:465-493 and src/sdk/lota_server.c:344-372 -/
def TokenWire.decode (data : Bytes) : TokenWire where
  magic := UInt32.ofNat (leAt data 0 4)
  version := UInt16.ofNat (leAt data 4 2)
  totalSize := UInt16.ofNat (leAt data 6 2)
  validUntil := UInt64.ofNat (leAt data 8 8)
  flags := UInt32.ofNat (leAt data 16 4)
  nonce := blobAt 32 data 20
  sigAlg := UInt16.ofNat (leAt data 52 2)
  hashAlg := UInt16.ofNat (leAt data 54 2)
  pcrMask := UInt32.ofNat (leAt data 56 4)
  policy := blobAt 32 data 60
  runtimeProtectDigest := blobAt 32 data 92
  protectPIDCount := UInt32.ofNat (leAt data 124 4)
  runtimeProtectEpoch := UInt64.ofNat (leAt data 128 8)
  pidListSize := UInt16.ofNat (leAt data 136 2)
  attestSize := UInt16.ofNat (leAt data 138 2)
  sigSize := UInt16.ofNat (leAt data 140 2)
  runtimeProtectVersion := UInt16.ofNat (leAt data 142 2)

/-- The packed structure in memory. -/
def TokenWire.headerBytes (w : TokenWire) : Bytes :=
  toLE 4 w.magic.toNat ++
    (toLE 2 w.version.toNat ++ (toLE 2 w.totalSize.toNat ++ (toLE 8 w.validUntil.toNat ++
  (toLE 4 w.flags.toNat ++ (w.nonce.toList ++ (toLE 2 w.sigAlg.toNat ++ (toLE 2 w.hashAlg.toNat ++
  (toLE 4 w.pcrMask.toNat ++ (w.policy.toList ++ (w.runtimeProtectDigest.toList ++
  (toLE 4 w.protectPIDCount.toNat ++
    (toLE 8 w.runtimeProtectEpoch.toNat ++ (toLE 2 w.pidListSize.toNat ++
  (toLE 2 w.attestSize.toNat ++
    (toLE 2 w.sigSize.toNat ++ toLE 2 w.runtimeProtectVersion.toNat)))))))))))))))

theorem headerBytes_length (w : TokenWire) : w.headerBytes.length = tokenHeaderSize := by
  simp [TokenWire.headerBytes, tokenHeaderSize]

/-- Past the first field the offsets shift. -/
theorem drop_field {xs : Bytes} (ys : Bytes) {off : Nat} (h : xs.length ≤ off) :
    (xs ++ ys).drop off = ys.drop (off - xs.length) := by
  rw [List.drop_append, List.drop_eq_nil_of_le h, List.nil_append]

theorem leAt_field {xs : Bytes} (ys : Bytes) {off : Nat} (h : xs.length ≤ off) (k : Nat) :
    leAt (xs ++ ys) off k = leAt ys (off - xs.length) k := by
  unfold leAt
  rw [drop_field ys h]

theorem blobAt_field {xs : Bytes} (ys : Bytes) {off : Nat} (h : xs.length ≤ off) (n : Nat) :
    blobAt n (xs ++ ys) off = blobAt n ys (off - xs.length) := by
  unfold blobAt
  rw [drop_field ys h]

theorem leAt_append {b : Bytes} {off k : Nat} (h : off + k ≤ b.length) (c : Bytes) :
    leAt (b ++ c) off k = leAt b off k := by
  unfold leAt
  rw [List.drop_append_of_le_length (by omega),
    List.take_append_of_le_length (by rw [List.length_drop]; omega)]

theorem leAt_toLE {k m : Nat} (h : m < 256 ^ k) (ys : Bytes) : leAt (toLE k m ++ ys) 0 k = m := by
  unfold leAt
  rw [List.drop_zero, List.take_left' (toLE_length k m), ofLE_toLE k m h]

theorem blobAt_toList {n : Nat} (b : Blob n) (ys : Bytes) : blobAt n (b.toList ++ ys) 0 = b := by
  unfold blobAt
  rw [List.drop_zero, List.take_left' b.toList_length, toBlob_toList]

theorem ofNat_leAt_16 (x : UInt16) (ys : Bytes) :
    UInt16.ofNat (leAt (toLE 2 x.toNat ++ ys) 0 2) = x := by
  rw [leAt_toLE x.toNat_lt, UInt16.ofNat_toNat]

theorem ofNat_leAt_32 (x : UInt32) (ys : Bytes) :
    UInt32.ofNat (leAt (toLE 4 x.toNat ++ ys) 0 4) = x := by
  rw [leAt_toLE x.toNat_lt, UInt32.ofNat_toNat]

theorem ofNat_leAt_64 (x : UInt64) (ys : Bytes) :
    UInt64.ofNat (leAt (toLE 8 x.toNat ++ ys) 0 8) = x := by
  rw [leAt_toLE x.toNat_lt, UInt64.ofNat_toNat]

/-- **Header round trip.** Each field is read back, whatever follows. -/
theorem decode_headerBytes (w : TokenWire) (rest : Bytes) :
    TokenWire.decode (w.headerBytes ++ rest) = w := by
  unfold TokenWire.decode TokenWire.headerBytes
  simp [leAt_field, blobAt_field, ofNat_leAt_16, ofNat_leAt_32, ofNat_leAt_64, blobAt_toList]

/-! ## The parts of a token -/

namespace TokenWire

/-- mirrors src/sdk/server/verify.go:187-190 and src/sdk/lota_server.c:387-390 -/
def imageListSize (w : TokenWire) : Nat :=
  if w.runtimeProtectVersion = runtimeProtectV2 then w.protectPIDCount.toNat * imageDigestSize else 0

def pidListEnd (w : TokenWire) : Nat := tokenHeaderSize + w.pidListSize.toNat

def imageListEnd (w : TokenWire) : Nat := w.pidListEnd + w.imageListSize

def attestEnd (w : TokenWire) : Nat := w.imageListEnd + w.attestSize.toNat

def pidListData (w : TokenWire) (data : Bytes) : Bytes :=
  (data.drop tokenHeaderSize).take w.pidListSize.toNat

def imageListData (w : TokenWire) (data : Bytes) : Bytes :=
  (data.drop w.pidListEnd).take w.imageListSize

def attestData (w : TokenWire) (data : Bytes) : Bytes :=
  (data.drop w.imageListEnd).take w.attestSize.toNat

def signature (w : TokenWire) (data : Bytes) : Bytes := (data.drop w.attestEnd).take w.sigSize.toNat

end TokenWire

/-- The loop over a PID list: `n` little-endian words. -/
def readPIDs : Nat → Bytes → List UInt32
  | 0, _ => []
  | n + 1, data => UInt32.ofNat (leAt data 0 4) :: readPIDs n (data.drop 4)

/-- Strictly increasing.
mirrors src/sdk/server/verify.go:576-583 and include/lota_runtime_protect_digest.h:41-55 -/
def canonicalPIDs : List UInt32 → Bool
  | p :: q :: pids => decide (p < q) && canonicalPIDs (q :: pids)
  | _ => true

def wirePIDs (pids : List UInt32) : Bytes := pids.flatMap fun p => toLE 4 p.toNat

theorem readPIDs_length (n : Nat) (data : Bytes) : (readPIDs n data).length = n := by
  induction n generalizing data with
  | zero => rfl
  | succ n ih => simp [readPIDs, ih]

theorem wirePIDs_length (pids : List UInt32) : (wirePIDs pids).length = 4 * pids.length := by
  induction pids with
  | nil => rfl
  | cons p pids ih =>
    simp only [wirePIDs, List.flatMap_cons, List.length_append, toLE_length, List.length_cons] at ih ⊢
    omega

theorem readPIDs_wirePIDs (pids : List UInt32) (rest : Bytes) :
    readPIDs pids.length (wirePIDs pids ++ rest) = pids := by
  induction pids with
  | nil => rfl
  | cons p pids ih =>
    have hsplit : wirePIDs (p :: pids) ++ rest = toLE 4 p.toNat ++ (wirePIDs pids ++ rest) := by
      simp only [wirePIDs, List.flatMap_cons, List.append_assoc]
    rw [hsplit, List.length_cons, readPIDs, ofNat_leAt_32, List.drop_left' (toLE_length 4 _), ih]

/-! ## What the quote nonce covers -/

/-- The 120 bytes behind `TPMS_ATTEST.extraData`.
mirrors src/sdk/server/verify.go:550-560 and include/lota_token_quote_nonce.h:52-100 -/
def TokenWire.nonceMessage (w : TokenWire) : Bytes :=
  toLE 8 w.validUntil.toNat ++ (toLE 4 w.flags.toNat ++ (toLE 4 w.pcrMask.toNat ++ (w.nonce.toList ++
  (w.policy.toList ++ (w.runtimeProtectDigest.toList ++ toLE 8 w.runtimeProtectEpoch.toNat)))))

/-- What two headers with one quote nonce share. -/
structure SameBound (w w' : TokenWire) : Prop where
  validUntil : w.validUntil = w'.validUntil
  flags : w.flags = w'.flags
  pcrMask : w.pcrMask = w'.pcrMask
  nonce : w.nonce = w'.nonce
  policy : w.policy = w'.policy
  runtimeProtectDigest : w.runtimeProtectDigest = w'.runtimeProtectDigest
  runtimeProtectEpoch : w.runtimeProtectEpoch = w'.runtimeProtectEpoch

theorem nonceMessage_inj {w w' : TokenWire} (h : w.nonceMessage = w'.nonceMessage) :
    SameBound w w' := by
  unfold TokenWire.nonceMessage at h
  obtain ⟨h1, h⟩ := append_word_inj w.validUntil.toNat_lt w'.validUntil.toNat_lt h
  obtain ⟨h2, h⟩ := append_word_inj w.flags.toNat_lt w'.flags.toNat_lt h
  obtain ⟨h3, h⟩ := append_word_inj w.pcrMask.toNat_lt w'.pcrMask.toNat_lt h
  obtain ⟨h4, h⟩ := append_blob_inj h
  obtain ⟨h5, h⟩ := append_blob_inj h
  obtain ⟨h6, h⟩ := append_blob_inj h
  have h7 := toLE_inj w.runtimeProtectEpoch.toNat_lt w'.runtimeProtectEpoch.toNat_lt h
  exact ⟨UInt64.toNat_inj.mp h1, UInt32.toNat_inj.mp h2, UInt32.toNat_inj.mp h3, h4, h5, h6,
    UInt64.toNat_inj.mp h7⟩

/-! ## What the runtime protect digest covers -/

def protectDomainV1 : Bytes := ascii "lota-runtime-protect-pids:v1" ++ [0]

def protectDomainV2 : Bytes := ascii "lota-runtime-protect-pids:v2" ++ [0]

/-- mirrors src/sdk/server/verify.go:600-614 and include/lota_runtime_protect_digest.h:57-106 -/
def protectMessageV1 (pids : List UInt32) : Bytes :=
  protectDomainV1 ++ (toLE 4 pids.length ++ wirePIDs pids)

/-- Each PID in front of its image digest. -/
def wireImages : List UInt32 → Bytes → Bytes
  | [], _ => []
  | p :: pids, images => toLE 4 p.toNat ++ (images.take 32 ++ wireImages pids (images.drop 32))

/-- mirrors src/sdk/server/verify.go:620-635 and include/lota_runtime_protect_digest.h:117-166 -/
def protectMessageV2 (pids : List UInt32) (images : Bytes) : Bytes :=
  protectDomainV2 ++ (toLE 4 pids.length ++ wireImages pids images)

def protectMessage (v2 : Bool) (pids : List UInt32) (images : Bytes) : Bytes :=
  if v2 then protectMessageV2 pids images else protectMessageV1 pids

def TokenWire.pids (w : TokenWire) (data : Bytes) : List UInt32 :=
  readPIDs w.protectPIDCount.toNat (w.pidListData data)

/-- What the runtime protect digest of a token is taken over. -/
def TokenWire.protectMessage (w : TokenWire) (data : Bytes) : Bytes :=
  Token.protectMessage (decide (w.runtimeProtectVersion = runtimeProtectV2)) (w.pids data)
    (w.imageListData data)

theorem wirePIDs_inj {ps qs : List UInt32} (hl : ps.length = qs.length)
    (h : wirePIDs ps = wirePIDs qs) : ps = qs := by
  have h1 := readPIDs_wirePIDs ps []
  have h2 := readPIDs_wirePIDs qs []
  rw [h, hl, h2] at h1
  exact h1.symm

theorem wireImages_inj {ps qs : List UInt32} {xs ys : Bytes} (hx : xs.length = 32 * ps.length)
    (hy : ys.length = 32 * qs.length) (hl : ps.length = qs.length)
    (h : wireImages ps xs = wireImages qs ys) : ps = qs ∧ xs = ys := by
  induction ps generalizing qs xs ys with
  | nil =>
    cases qs with
    | cons q qs => cases hl
    | nil =>
      rw [List.length_eq_zero_iff.mp hx, List.length_eq_zero_iff.mp hy]
      exact ⟨rfl, rfl⟩
  | cons p ps ih =>
    cases qs with
    | nil => cases hl
    | cons q qs =>
      rw [List.length_cons] at hx hy
      have hxt : (xs.take 32).length = 32 := by rw [List.length_take]; omega
      have hyt : (ys.take 32).length = 32 := by rw [List.length_take]; omega
      obtain ⟨hpq, h⟩ := append_word_inj p.toNat_lt q.toNat_lt h
      obtain ⟨himg, h⟩ := List.append_inj h (hxt.trans hyt.symm)
      obtain ⟨hps, hrest⟩ := ih (by rw [List.length_drop]; omega) (by rw [List.length_drop]; omega)
        (Nat.succ.inj hl) h
      refine ⟨by rw [UInt32.toNat_inj.mp hpq, hps], ?_⟩
      rw [← List.take_append_drop 32 xs, himg, hrest, List.take_append_drop]

/-- **Digest message.** It determines the version class, the PIDs and, for
version 2, the images. -/
theorem protectMessage_inj {v v' : Bool} {ps qs : List UInt32} {xs ys : Bytes} (hp : ps.length < 2 ^ 32)
    (hq : qs.length < 2 ^ 32) (hx : v = true → xs.length = 32 * ps.length)
    (hy : v' = true → ys.length = 32 * qs.length)
    (h : protectMessage v ps xs = protectMessage v' qs ys) :
    v = v' ∧ ps = qs ∧ (v = true → xs = ys) := by
  have hlen : protectDomainV1.length = protectDomainV2.length := by decide
  have hdom : protectDomainV1 ≠ protectDomainV2 := by decide
  cases v with
  | false =>
    cases v' with
    | false =>
      rw [protectMessage, protectMessage, if_neg Bool.false_ne_true, if_neg Bool.false_ne_true] at h
      obtain ⟨hl, h⟩ := append_word_inj hp hq (List.append_cancel_left h)
      exact ⟨rfl, wirePIDs_inj hl h, fun h => by cases h⟩
    | true =>
      rw [protectMessage, protectMessage, if_neg Bool.false_ne_true, if_pos rfl] at h
      exact absurd (List.append_inj h hlen).1 hdom
  | true =>
    cases v' with
    | false =>
      rw [protectMessage, protectMessage, if_pos rfl, if_neg Bool.false_ne_true] at h
      exact absurd (List.append_inj h hlen.symm).1.symm hdom
    | true =>
      rw [protectMessage, protectMessage, if_pos rfl, if_pos rfl] at h
      obtain ⟨hl, h⟩ := append_word_inj hp hq (List.append_cancel_left h)
      obtain ⟨hps, hxs⟩ := wireImages_inj (hx rfl) (hy rfl) hl h
      exact ⟨rfl, hps, fun _ => hxs⟩

/-- Both servers look at the clock only for a token with an expiry. -/
theorem not_expired_iff {validUntil : UInt64} {late : Prop} :
    ¬ (validUntil > 0 ∧ late) ↔ validUntil = 0 ∨ ¬ late := by
  rw [not_and_or]
  refine or_congr ?_ Iff.rfl
  constructor
  · intro h
    exact UInt64.le_zero_iff.mp (UInt64.not_lt.mp h)
  · rintro rfl
    decide

end Lota.L4.Token

import Lota.L4Sdk.TokenWire

/-!
# Tokens in the gaming SDK (`sdk/lota_gaming.c`)

`lota_get_status` and `lota_get_token` read the agent's replies and
`lota_token_serialize` writes a token to the wire.

* `getToken_limits`: what a token that came from the agent satisfies.
* `serialize_parts`: header, PIDs, images, attest data and signature of a
  written token are the ones of the token it was written from.
-/
namespace Lota.L4.Gaming
open Lota.Core Lota.L1.Report Lota.L4.Token

/-- `enum lota_error`, without `LOTA_OK`. -/
inductive LotaError where
  | notConnected | connectionFailed | timeout | protocol | notAttested | invalidArg | bufferTooSmall
  | agentError | noMemory | rateLimited | accessDenied
  deriving DecidableEq, Repr

/-! ## Replies of the agent -/

/-- What comes back for a request: nothing in time, a broken connection, or
a response. Notifications in between are skipped. -/
inductive Reply where
  | timedOut
  | broken
  | response (magic result : UInt32) (payload : Bytes)
  deriving DecidableEq

def ipcMagic : UInt32 := 0x4C4F5441

/-- mirrors src/sdk/lota_gaming.c:259-278, for a result other than `LOTA_IPC_OK` -/
def ipcResultToError (result : UInt32) : LotaError :=
  if result = 0x03 then .notAttested
  else if result = 0x01 ∨ result = 0x02 then .protocol
  else if result = 0x06 then .rateLimited
  else if result = 0x07 then .accessDenied
  else .agentError

/-- The payload of a good response that fits `payloadSize` bytes.
mirrors src/sdk/lota_gaming.c:191-257 and the checks behind each call -/
def recvResponse (reply : Reply) (payloadSize : Nat) : Except LotaError Bytes :=
  match reply with
  | .timedOut => .error .timeout
  | .broken => .error .protocol
  | .response magic result payload =>
    if magic ≠ ipcMagic then .error .protocol
    else if payload.length > payloadSize then .error .protocol
    else if result ≠ 0 then .error (ipcResultToError result)
    else .ok payload

/-- `sizeof(struct lota_ipc_status)`. -/
def ipcStatusSize : Nat := 36

/-- The flags of `lota_get_status`; a short payload reads as zero.
mirrors src/sdk/lota_gaming.c:582-628 -/
def getStatus (reply : Reply) : Except LotaError UInt32 :=
  match recvResponse reply ipcStatusSize with
  | .error e => .error e
  | .ok payload => .ok (if payload.length ≥ ipcStatusSize then UInt32.ofNat (leAt payload 0 4) else 0)

/-! ## Tokens -/

/-- mirrors include/lota_gaming.h:115-150. The arrays come with their
lengths; version 2 has one image digest per PID. -/
structure LotaToken where
  validUntil : UInt64
  flags : UInt32
  nonce : Hash
  sigAlg : UInt16
  hashAlg : UInt16
  pcrMask : UInt32
  policyDigest : Hash
  runtimeProtectDigest : Hash
  runtimeProtectEpoch : UInt64
  runtimeProtectVersion : UInt16
  protectedPIDs : List UInt32
  protectedImageDigests : List Hash
  attestData : Bytes
  signature : Bytes
  images_length : runtimeProtectVersion = runtimeProtectV2 →
    protectedImageDigests.length = protectedPIDs.length
  deriving DecidableEq

/-- `sizeof(struct lota_ipc_token)`. -/
def ipcTokenHeaderSize : Nat := 136

def ipcTokenMaxSize : Nat := ipcTokenHeaderSize + maxProtectPIDs * 4 + maxAttestSize + maxSigSize

def readImages : Nat → Bytes → List Hash
  | 0, _ => []
  | n + 1, data => blobAt 32 data 0 :: readImages n (data.drop 32)

theorem readImages_length (n : Nat) (data : Bytes) : (readImages n data).length = n := by
  induction n generalizing data with
  | zero => rfl
  | succ n ih => simp [readImages, ih]

/-- The `struct lota_ipc_token` at the front of `buf` and what follows it.
mirrors src/sdk/lota_gaming.c:694-788 -/
def parseIpcToken (buf : Bytes) : Except LotaError LotaToken :=
  let attestSize := leAt buf 44 2
  let sigSize := leAt buf 46 2
  let count := UInt32.ofNat (leAt buf 120 4)
  let pidListSize := UInt16.ofNat (leAt buf 132 2)
  let version := UInt16.ofNat (leAt buf 134 2)
  if pidListSize ≠ (count * 4).toUInt16 then .error .protocol
  else if pidListSize.toNat > maxProtectPIDs * 4 then .error .protocol
  else if count.toNat > maxProtectPIDs then .error .protocol
  else if version > runtimeProtectV2 then .error .protocol
  else if attestSize > maxAttestSize ∨ sigSize > maxSigSize then .error .protocol
  else
    let imageListSize := if version = runtimeProtectV2 then count.toNat * imageDigestSize else 0
    if buf.length < ipcTokenHeaderSize + pidListSize.toNat + imageListSize + attestSize + sigSize
      then .error .protocol
    else
      let images := ipcTokenHeaderSize + pidListSize.toNat
      let attest := images + imageListSize
      .ok {
        validUntil := UInt64.ofNat (leAt buf 0 8)
        flags := UInt32.ofNat (leAt buf 8 4)
        nonce := blobAt 32 buf 12
        sigAlg := UInt16.ofNat (leAt buf 48 2)
        hashAlg := UInt16.ofNat (leAt buf 50 2)
        pcrMask := UInt32.ofNat (leAt buf 52 4)
        policyDigest := blobAt 32 buf 56
        runtimeProtectDigest := blobAt 32 buf 88
        runtimeProtectEpoch := UInt64.ofNat (leAt buf 124 8)
        runtimeProtectVersion := version
        protectedPIDs := readPIDs count.toNat (buf.drop ipcTokenHeaderSize)
        protectedImageDigests := if version = runtimeProtectV2 then readImages count.toNat
          (buf.drop images) else []
        attestData := (buf.drop attest).take attestSize
        signature := (buf.drop (attest + attestSize)).take sigSize
        images_length := by intro h; rw [if_pos h, readImages_length, readPIDs_length] }

/-- mirrors src/sdk/lota_gaming.c:642-796; allocation does not fail. -/
def getToken (reply : Reply) : Except LotaError LotaToken :=
  match recvResponse reply ipcTokenMaxSize with
  | .error e => .error e
  | .ok buf => if buf.length < ipcTokenHeaderSize then .error .protocol else parseIpcToken buf

/-! ## The writer -/

namespace LotaToken

def imagesSize (t : LotaToken) : Nat :=
  if t.runtimeProtectVersion = runtimeProtectV2 then t.protectedPIDs.length * imageDigestSize else 0

/-- mirrors src/sdk/lota_gaming.c:820-851 (`lota_token_serialized_size`) -/
def serializedSize (t : LotaToken) : Nat :=
  if t.attestData.length > 1024 ∨ t.signature.length > 512 then 0
  else if t.protectedPIDs.length > maxProtectPIDs then 0
  else
    let total := tokenHeaderSize + t.protectedPIDs.length * 4 + t.attestData.length +
      t.signature.length + t.imagesSize
    if total > 0xFFFF then 0 else total

/-- The header `lota_token_serialize` populates. -/
def wire (t : LotaToken) : TokenWire where
  magic := tokenMagic
  version := tokenVersion
  totalSize := UInt16.ofNat t.serializedSize
  validUntil := t.validUntil
  flags := t.flags
  nonce := t.nonce
  sigAlg := t.sigAlg
  hashAlg := t.hashAlg
  pcrMask := t.pcrMask
  policy := t.policyDigest
  runtimeProtectDigest := t.runtimeProtectDigest
  protectPIDCount := UInt32.ofNat t.protectedPIDs.length
  runtimeProtectEpoch := t.runtimeProtectEpoch
  pidListSize := UInt16.ofNat (t.protectedPIDs.length * 4)
  attestSize := UInt16.ofNat t.attestData.length
  sigSize := UInt16.ofNat t.signature.length
  runtimeProtectVersion := t.runtimeProtectVersion

def imageBytes (t : LotaToken) : Bytes :=
  if t.runtimeProtectVersion = runtimeProtectV2 then t.protectedImageDigests.flatMap
    List.Vector.toList else []

def bytes (t : LotaToken) : Bytes :=
  t.wire.headerBytes ++ (wirePIDs t.protectedPIDs ++ (t.imageBytes ++ (t.attestData ++ t.signature)))

/-- mirrors src/sdk/lota_gaming.c:853-931 (`lota_token_serialize`) -/
def serialize (t : LotaToken) (buflen : Nat) : Except LotaError Bytes :=
  if t.serializedSize = 0 then .error .invalidArg
  else if buflen < t.serializedSize then .error .bufferTooSmall
  else .ok t.bytes

end LotaToken

/-! ## Reading a written token -/

/-- The bytes `bs` are the token `t`: its header and its parts stand where
the servers look for them. -/
structure Written (t : LotaToken) (bs : Bytes) : Prop where
  decode : TokenWire.decode bs = t.wire
  length : bs.length = t.serializedSize
  size : t.serializedSize =
    tokenHeaderSize + t.protectedPIDs.length * 4 + t.attestData.length +
    t.signature.length + t.imagesSize
  totalSize : t.wire.totalSize.toNat = t.serializedSize
  count : t.wire.protectPIDCount.toNat = t.protectedPIDs.length
  pidCount : t.protectedPIDs.length ≤ maxProtectPIDs
  pidListSize : t.wire.pidListSize.toNat = t.protectedPIDs.length * 4
  attestSize : t.wire.attestSize.toNat = t.attestData.length
  attestMax : t.attestData.length ≤ 1024
  sigSize : t.wire.sigSize.toNat = t.signature.length
  sigMax : t.signature.length ≤ 512
  pids : t.wire.pids bs = t.protectedPIDs
  images : t.wire.imageListData bs = t.imageBytes
  attestData : t.wire.attestData bs = t.attestData
  signature : t.wire.signature bs = t.signature

theorem flatMap_blobs_length (bs : List Hash) :
    (bs.flatMap List.Vector.toList).length = 32 * bs.length := by
  induction bs with
  | nil => rfl
  | cons b bs ih =>
    rw [List.flatMap_cons, List.length_append, ih, List.Vector.toList_length, List.length_cons]
    omega

theorem imageBytes_length (t : LotaToken) : t.imageBytes.length = t.imagesSize := by
  unfold LotaToken.imageBytes LotaToken.imagesSize
  split
  · rename_i h
    rw [flatMap_blobs_length, t.images_length h, Nat.mul_comm]
    rfl
  · rfl

/-- A size the writer accepts. -/
theorem serializedSize_ne {t : LotaToken} (h : t.serializedSize ≠ 0) :
    t.attestData.length ≤ 1024 ∧ t.signature.length ≤ 512 ∧ t.protectedPIDs.length ≤ maxProtectPIDs ∧
      t.serializedSize =
        tokenHeaderSize + t.protectedPIDs.length * 4 + t.attestData.length + t.signature.length +
        t.imagesSize ∧
      t.serializedSize ≤ 0xFFFF := by
  unfold LotaToken.serializedSize at h ⊢
  simp only at h ⊢
  split at h
  · exact absurd rfl h
  rename_i hsizes
  split at h
  · exact absurd rfl h
  rename_i hcount
  split at h
  · exact absurd rfl h
  rename_i htotal
  obtain ⟨h1, h2⟩ := not_or.mp hsizes
  rw [if_neg hsizes, if_neg hcount, if_neg htotal]
  exact ⟨Nat.not_lt.mp h1, Nat.not_lt.mp h2, Nat.not_lt.mp hcount, rfl, Nat.not_lt.mp htotal⟩

/-- Parts within their limits have a size, far below what 16 bits hold. -/
theorem serializedSize_sum {t : LotaToken} (hattest : t.attestData.length ≤ maxAttestSize)
    (hsig : t.signature.length ≤ maxSigSize) (hpids : t.protectedPIDs.length ≤ maxProtectPIDs) :
    t.serializedSize =
      tokenHeaderSize + t.protectedPIDs.length * 4 + t.attestData.length + t.signature.length +
      t.imagesSize := by
  have h1 : t.attestData.length ≤ 1024 := hattest
  have h2 : t.signature.length ≤ 512 := hsig
  have h3 : t.protectedPIDs.length ≤ 1024 := hpids
  have h4 : t.imagesSize ≤ t.protectedPIDs.length * 32 := by
    unfold LotaToken.imagesSize
    split
    · exact Nat.le_refl _
    · exact Nat.zero_le _
  unfold LotaToken.serializedSize
  rw [if_neg (by omega), if_neg (Nat.not_lt.mpr hpids)]
  exact if_neg (by unfold tokenHeaderSize; omega)

/-- A token read from a reply has its parts within the limits. -/
theorem getToken_limits {reply : Reply} {t : LotaToken} (h : getToken reply = .ok t) :
    t.attestData.length ≤ maxAttestSize ∧ t.signature.length ≤ maxSigSize ∧
      t.protectedPIDs.length ≤ maxProtectPIDs := by
  unfold getToken at h
  split at h
  · cases h
  split at h
  · cases h
  unfold parseIpcToken at h
  simp only at h
  obtain ⟨-, h⟩ := except_guard_ok.mp h
  obtain ⟨-, h⟩ := except_guard_ok.mp h
  obtain ⟨hcount, h⟩ := except_guard_ok.mp h
  obtain ⟨-, h⟩ := except_guard_ok.mp h
  obtain ⟨hsizes, h⟩ := except_guard_ok.mp h
  obtain ⟨-, h⟩ := except_guard_ok.mp h
  obtain ⟨hattest, hsig⟩ := not_or.mp hsizes
  rw [← Except.ok.inj h]
  refine ⟨?_, ?_, ?_⟩
  · exact (List.length_take_le _ _).trans (Nat.not_lt.mp hattest)
  · exact (List.length_take_le _ _).trans (Nat.not_lt.mp hsig)
  · rw [readPIDs_length]
    exact Nat.not_lt.mp hcount

/-- A slice that starts where a first part ends. -/
theorem drop_take_part {xs ys rest : Bytes} {m n : Nat} (hm : xs.length = m) (hn : ys.length = n) :
    ((xs ++ (ys ++ rest)).drop m).take n = ys := by
  rw [List.drop_left' hm, List.take_left' hn]

theorem serialize_parts {t : LotaToken} {buflen : Nat} {bs : Bytes} (h : t.serialize buflen = .ok bs) :
    Written t bs := by
  unfold LotaToken.serialize at h
  split at h
  · cases h
  rename_i hz
  split at h
  · cases h
  obtain ⟨hattest, hsig, hcount, hsize, hmax⟩ := serializedSize_ne hz
  have hhdr := headerBytes_length t.wire
  have hpids := wirePIDs_length t.protectedPIDs
  have himgs := imageBytes_length t
  unfold maxProtectPIDs at hcount
  have htotal : t.wire.totalSize.toNat = t.serializedSize := by
    show (UInt16.ofNat t.serializedSize).toNat = _
    rw [UInt16.toNat_ofNat']
    omega
  have hcnt : t.wire.protectPIDCount.toNat = t.protectedPIDs.length := by
    show (UInt32.ofNat t.protectedPIDs.length).toNat = _
    rw [UInt32.toNat_ofNat']
    omega
  have hpl : t.wire.pidListSize.toNat = t.protectedPIDs.length * 4 := by
    show (UInt16.ofNat (t.protectedPIDs.length * 4)).toNat = _
    rw [UInt16.toNat_ofNat']
    omega
  have has : t.wire.attestSize.toNat = t.attestData.length := by
    show (UInt16.ofNat t.attestData.length).toNat = _
    rw [UInt16.toNat_ofNat']
    omega
  have hss : t.wire.sigSize.toNat = t.signature.length := by
    show (UInt16.ofNat t.signature.length).toNat = _
    rw [UInt16.toNat_ofNat']
    omega
  have hil : t.wire.imageListSize = t.imagesSize := by
    unfold TokenWire.imageListSize LotaToken.imagesSize
    rw [hcnt]
    rfl
  have hbytes : t.bytes = bs := Except.ok.inj h
  subst hbytes
  unfold LotaToken.bytes
  refine ⟨decode_headerBytes _ _, ?_, hsize, htotal, hcnt, hcount, hpl, has, hattest, hss, hsig,
    ?_, ?_, ?_, ?_⟩
  · simp only [List.length_append, hhdr, hpids, himgs, hsize]
    omega
  · unfold TokenWire.pids TokenWire.pidListData
    rw [drop_take_part hhdr (by omega), hcnt, ← List.append_nil (wirePIDs _), readPIDs_wirePIDs]
  · unfold TokenWire.imageListData TokenWire.pidListEnd
    rw [← List.append_assoc]
    exact drop_take_part (by rw [List.length_append]; omega) (by rw [himgs, hil])
  · unfold TokenWire.attestData TokenWire.imageListEnd TokenWire.pidListEnd
    rw [← List.append_assoc, ← List.append_assoc]
    exact drop_take_part (by rw [List.length_append, List.length_append]; omega) has.symm
  · unfold TokenWire.signature TokenWire.attestEnd TokenWire.imageListEnd TokenWire.pidListEnd
    rw [← List.append_assoc, ← List.append_assoc, ← List.append_assoc,
      List.drop_left' (by rw [List.length_append, List.length_append, List.length_append]; omega)]
    exact List.take_of_length_le (Nat.le_of_eq hss.symm)

end Lota.L4.Gaming

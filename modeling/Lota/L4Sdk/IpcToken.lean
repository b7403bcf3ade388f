import Lota.L4Sdk.Gaming

/-!
# The token in an IPC reply (`include/lota_ipc.h`)

The agent answers `GET_TOKEN` with a packed structure of 136 bytes, the PIDs,
with version 2 one image digest per PID, the attest data and the signature.

* `parseIpcToken_ipcTokenBytes`: the client reads the token back.
* `getToken_reply`: it does so when the reply fits the buffer of
  `lota_get_token`, and only then.
-/
namespace Lota.L4.Gaming
open Lota.Core Lota.L1.Report Lota.L4.Token

/-- mirrors include/lota_ipc.h:147-176 -/
def ipcTokenHeader (t : LotaToken) : Bytes :=
  toLE 8 t.validUntil.toNat ++ (toLE 4 t.flags.toNat ++ (t.nonce.toList ++
  (toLE 2 (UInt16.ofNat t.attestData.length).toNat ++ (toLE 2 (UInt16.ofNat t.signature.length).toNat ++
  (toLE 2 t.sigAlg.toNat ++
    (toLE 2 t.hashAlg.toNat ++ (toLE 4 t.pcrMask.toNat ++ (t.policyDigest.toList ++
  (t.runtimeProtectDigest.toList ++ (toLE 4 (UInt32.ofNat t.protectedPIDs.length).toNat ++
  (toLE 8 t.runtimeProtectEpoch.toNat ++ (toLE 2 (UInt16.ofNat (t.protectedPIDs.length * 4)).toNat ++
  toLE 2 t.runtimeProtectVersion.toNat))))))))))))

/-- The structure and what follows it. -/
def ipcTokenBytes (t : LotaToken) : Bytes :=
  ipcTokenHeader t ++ (wirePIDs t.protectedPIDs ++ (t.imageBytes ++ (t.attestData ++ t.signature)))

/-- A token within the limits of `include/lota_ipc.h`. -/
structure IpcLimits (t : LotaToken) : Prop where
  pids : t.protectedPIDs.length ≤ maxProtectPIDs
  images : t.runtimeProtectVersion ≠ runtimeProtectV2 → t.protectedImageDigests = []
  version : t.runtimeProtectVersion ≤ runtimeProtectV2
  attest : t.attestData.length ≤ maxAttestSize
  signature : t.signature.length ≤ maxSigSize

theorem ipcTokenHeader_length (t : LotaToken) : (ipcTokenHeader t).length = ipcTokenHeaderSize := by
  simp [ipcTokenHeader, ipcTokenHeaderSize]

theorem ipcTokenBytes_length (t : LotaToken) : (ipcTokenBytes t).length =
    ipcTokenHeaderSize + t.protectedPIDs.length * 4 + t.imagesSize + t.attestData.length +
    t.signature.length := by
  simp only [ipcTokenBytes, List.length_append, ipcTokenHeader_length, wirePIDs_length,
    imageBytes_length]
  omega

/-- What `parseIpcToken` reads at the offsets of the structure. -/
structure IpcTokenFields (t : LotaToken) (bs : Bytes) : Prop where
  validUntil : UInt64.ofNat (leAt bs 0 8) = t.validUntil
  flags : UInt32.ofNat (leAt bs 8 4) = t.flags
  nonce : blobAt 32 bs 12 = t.nonce
  attestSize : leAt bs 44 2 = (UInt16.ofNat t.attestData.length).toNat
  sigSize : leAt bs 46 2 = (UInt16.ofNat t.signature.length).toNat
  sigAlg : UInt16.ofNat (leAt bs 48 2) = t.sigAlg
  hashAlg : UInt16.ofNat (leAt bs 50 2) = t.hashAlg
  pcrMask : UInt32.ofNat (leAt bs 52 4) = t.pcrMask
  policy : blobAt 32 bs 56 = t.policyDigest
  digest : blobAt 32 bs 88 = t.runtimeProtectDigest
  count : UInt32.ofNat (leAt bs 120 4) = UInt32.ofNat t.protectedPIDs.length
  epoch : UInt64.ofNat (leAt bs 124 8) = t.runtimeProtectEpoch
  pidListSize : UInt16.ofNat (leAt bs 132 2) = UInt16.ofNat (t.protectedPIDs.length * 4)
  version : UInt16.ofNat (leAt bs 134 2) = t.runtimeProtectVersion

theorem ipcTokenBytes_fields (t : LotaToken) : IpcTokenFields t (ipcTokenBytes t) := by
  have hsize : ∀ x ys, leAt (toLE 2 (UInt16.ofNat x).toNat ++ ys) 0 2 = (UInt16.ofNat x).toNat :=
    fun x ys => leAt_toLE (UInt16.ofNat x).toNat_lt ys
  constructor <;>
    simp only [ipcTokenBytes, ipcTokenHeader, List.append_assoc, leAt_field, blobAt_field, toLE_length,
      List.Vector.toList_length, ofNat_leAt_16, ofNat_leAt_32, ofNat_leAt_64, blobAt_toList, hsize,
      UInt16.ofNat_toNat, Nat.reduceSub, Nat.reduceLeDiff]

attribute [ext] LotaToken

/-- One digest after the other. -/
theorem readImages_flatMap (images : List Hash) (rest : Bytes) :
    readImages images.length (images.flatMap List.Vector.toList ++ rest) = images := by
  induction images with
  | nil => rfl
  | cons d images ih =>
    have hsplit : (d :: images).flatMap List.Vector.toList ++ rest =
        d.toList ++ (images.flatMap List.Vector.toList ++ rest) := by
      rw [List.flatMap_cons, List.append_assoc]
    rw [hsplit, List.length_cons, readImages, blobAt_toList, List.drop_left' d.toList_length, ih]

/-- **The reply is read back.** -/
theorem parseIpcToken_ipcTokenBytes {t : LotaToken} (h : IpcLimits t) :
    parseIpcToken (ipcTokenBytes t) = .ok t := by
  have f := ipcTokenBytes_fields t
  have hhdr := ipcTokenHeader_length t
  have hlen := ipcTokenBytes_length t
  have hpids := wirePIDs_length t.protectedPIDs
  have himgs := imageBytes_length t
  have hattest : t.attestData.length ≤ 1024 := h.attest
  have hsig : t.signature.length ≤ 512 := h.signature
  have hn : t.protectedPIDs.length ≤ 1024 := h.pids
  have ha : leAt (ipcTokenBytes t) 44 2 = t.attestData.length := by
    rw [f.attestSize, UInt16.toNat_ofNat']
    omega
  have hs : leAt (ipcTokenBytes t) 46 2 = t.signature.length := by
    rw [f.sigSize, UInt16.toNat_ofNat']
    omega
  have hcount : (UInt32.ofNat t.protectedPIDs.length).toNat = t.protectedPIDs.length := by
    rw [UInt32.toNat_ofNat']
    omega
  have hlist : (UInt16.ofNat (t.protectedPIDs.length * 4)).toNat = t.protectedPIDs.length * 4 := by
    rw [UInt16.toNat_ofNat']
    omega
  have hsame : UInt16.ofNat (t.protectedPIDs.length * 4) =
      (UInt32.ofNat t.protectedPIDs.length * 4).toUInt16 := by
    apply UInt16.toNat_inj.mp
    rw [hlist, UInt32.toNat_toUInt16, UInt32.toNat_mul, hcount]
    show _ = t.protectedPIDs.length * 4 % 2 ^ 32 % 2 ^ 16
    omega
  have hsize :
      (if t.runtimeProtectVersion = runtimeProtectV2 then t.protectedPIDs.length * imageDigestSize
        else 0) =
      t.imagesSize := rfl
  -- the four sections behind the structure, each at its offset
  have hsec : (ipcTokenBytes t).drop ipcTokenHeaderSize =
      wirePIDs t.protectedPIDs ++ (t.imageBytes ++ (t.attestData ++ t.signature)) :=
        List.drop_left' hhdr
  have hsec2 : (ipcTokenBytes t).drop (ipcTokenHeaderSize + t.protectedPIDs.length * 4) =
      t.imageBytes ++ (t.attestData ++ t.signature) := by
    rw [← List.drop_drop, hsec, List.drop_left' (by omega)]
  have hsec3 : (ipcTokenBytes t).drop (ipcTokenHeaderSize + t.protectedPIDs.length * 4 + t.imagesSize) =
      t.attestData ++ t.signature := by
    rw [← List.drop_drop, hsec2, List.drop_left' himgs]
  have hsec4 : (ipcTokenBytes t).drop
      (ipcTokenHeaderSize + t.protectedPIDs.length * 4 + t.imagesSize + t.attestData.length) =
        t.signature := by
    rw [← List.drop_drop, hsec3, List.drop_left' rfl]
  unfold parseIpcToken
  simp only [ha, hs, f.count, f.pidListSize, f.version, hcount, hlist, hsize]
  rw [if_neg (not_not.mpr hsame), if_neg (by unfold maxProtectPIDs; omega),
    if_neg (Nat.not_lt.mpr h.pids), if_neg (UInt16.not_lt.mpr h.version),
    if_neg (not_or.mpr ⟨Nat.not_lt.mpr h.attest, Nat.not_lt.mpr h.signature⟩), if_neg (by omega)]
  apply congrArg Except.ok
  ext1
  · exact f.validUntil
  · exact f.flags
  · exact f.nonce
  · exact f.sigAlg
  · exact f.hashAlg
  · exact f.pcrMask
  · exact f.policy
  · exact f.digest
  · exact f.epoch
  · rfl
  · show readPIDs t.protectedPIDs.length ((ipcTokenBytes t).drop ipcTokenHeaderSize) = t.protectedPIDs
    rw [hsec, readPIDs_wirePIDs]
  · show (if t.runtimeProtectVersion = runtimeProtectV2
        then readImages t.protectedPIDs.length _ else []) =
      t.protectedImageDigests
    split
    case isTrue hv =>
      have himages : t.imageBytes = t.protectedImageDigests.flatMap List.Vector.toList := if_pos hv
      rw [hsec2, himages, ← t.images_length hv, readImages_flatMap]
    case isFalse hv => exact (h.images hv).symm
  · show ((ipcTokenBytes t).drop _).take t.attestData.length = t.attestData
    rw [hsec3, List.take_left' rfl]
  · show ((ipcTokenBytes t).drop _).take t.signature.length = t.signature
    rw [hsec4, List.take_length]

/-- **The buffer decides.** A reply with a token in the limits gives the token
when `buf` of `lota_get_token` holds it. -/
theorem getToken_reply {t : LotaToken} (h : IpcLimits t) :
    getToken (.response ipcMagic 0 (ipcTokenBytes t)) =
      if (ipcTokenBytes t).length ≤ ipcTokenMaxSize then .ok t else .error .protocol := by
  have hmin : ipcTokenHeaderSize ≤ (ipcTokenBytes t).length := by
    rw [ipcTokenBytes_length]
    omega
  unfold getToken recvResponse
  by_cases hbuf : (ipcTokenBytes t).length ≤ ipcTokenMaxSize
  · simp only
    rw [if_neg (by simp), if_neg (by omega), if_neg (by simp), if_pos hbuf]
    simp only
    rw [if_neg (by omega), parseIpcToken_ipcTokenBytes h]
  · simp only
    rw [if_neg (by simp), if_pos (by omega), if_neg hbuf]

end Lota.L4.Gaming

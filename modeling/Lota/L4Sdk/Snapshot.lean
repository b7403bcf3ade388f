import Lota.L4Sdk.Heartbeat

/-!
# The snapshot file (`sdk/lota_wine_hook.c`, `sdk/lota_anticheat.c`)

The Wine hook publishes the flags of the agent and the token they belong to in
one file, a 16-byte header and the token. A file-mode session of the
anti-cheat layer reads it. The writer takes tokens of up to 2048 bytes, the
reader of up to `LOTA_AC_MAX_TOKEN` = 1608: a token of version 2 has 36 bytes
for every protected PID and gets there with some thirty of them.

* `headerRead`: the header is read back.
* `readSnapshot_length`: what the reader accepts fits the session.
* `snapshot_agrees_iff`: a written file is read back exactly up to 1608 bytes.
* `image_token_refused`: a token with thirty PIDs.
-/
namespace Lota.L4.Snapshot
open Lota.Core Lota.L1.Report Lota.L4.Token Lota.L4.Gaming Lota.L4.Heartbeat

def snapshotMagic : UInt32 := 0x41544F4C
def snapshotVersion : UInt16 := 1
def snapshotHeaderSize : Nat := 16

/-- The largest token the hook handles, `sizeof(wire)` of `write_token`. -/
def hookMaxToken : Nat := 2048

/-! ## The writer -/

/-- The header in front of a token of `tokenSize` bytes.
mirrors include/lota_snapshot.h:24-30 -/
def headerBytes (flags : UInt32) (tokenSize : Nat) : Bytes :=
  toLE 4 snapshotMagic.toNat ++ (toLE 2 snapshotVersion.toNat ++ (toLE 2 0 ++ (toLE 4 flags.toNat ++
    toLE 4 (UInt32.ofNat tokenSize).toNat)))

/-- The bytes of the file; writing it is `atomic_write`, which replaces the
file as a whole or fails.
mirrors src/sdk/lota_wine_hook.c:455-473 (`write_snapshot`) -/
def writeSnapshot (flags : UInt32) (tokenWire : Bytes) : Except Errno Bytes :=
  if tokenWire.length = 0 ∨ tokenWire.length > hookMaxToken then .error .einval
  else .ok (headerBytes flags tokenWire.length ++ tokenWire)

/-! ## The reader -/

/-- What is there of the file: its contents, or the error of `open` or
`read`. At most `buflen` bytes of it are read.
mirrors src/sdk/lota_anticheat.c:840-864 -/
def readFileBuf (file : Except Errno Bytes) (buflen : Nat) : Except Errno Bytes :=
  file.map (List.take buflen)

/-- The flags and the token.
mirrors src/sdk/lota_anticheat.c:128-155 (`read_snapshot`) -/
def readSnapshot (file : Except Errno Bytes) : Except Errno (UInt32 × Bytes) :=
  match readFileBuf file (snapshotHeaderSize + acMaxToken) with
  | .error e => .error e
  | .ok buf =>
    if buf.length < snapshotHeaderSize then .error .eio
    else if UInt32.ofNat (leAt buf 0 4) ≠ snapshotMagic then .error .eio
    else if UInt16.ofNat (leAt buf 4 2) ≠ snapshotVersion then .error .eio
    else if UInt16.ofNat (leAt buf 6 2) ≠ 0 then .error .eio
    else
      let flags := UInt32.ofNat (leAt buf 8 4)
      let tokenSize := (UInt32.ofNat (leAt buf 12 4)).toNat
      if tokenSize = 0 ∨ tokenSize > acMaxToken then .error .eio
      else if buf.length < snapshotHeaderSize + tokenSize then .error .eio
      else .ok (flags, (buf.drop snapshotHeaderSize).take tokenSize)

/-! ## The two together -/

theorem headerBytes_length (flags : UInt32) (n : Nat) :
    (headerBytes flags n).length = snapshotHeaderSize := by
  simp [headerBytes, snapshotHeaderSize]

/-- The fields of a written header, whatever follows. -/
structure HeaderRead (buf : Bytes) (flags : UInt32) (tokenSize : Nat) : Prop where
  magic : UInt32.ofNat (leAt buf 0 4) = snapshotMagic
  version : UInt16.ofNat (leAt buf 4 2) = snapshotVersion
  reserved : UInt16.ofNat (leAt buf 6 2) = 0
  flags : UInt32.ofNat (leAt buf 8 4) = flags
  tokenSize : (UInt32.ofNat (leAt buf 12 4)).toNat = tokenSize

theorem headerRead (flags : UInt32) {n : Nat} (h : n < 2 ^ 32) (rest : Bytes) :
    HeaderRead (headerBytes flags n ++ rest) flags n := by
  have hsize : (UInt32.ofNat n).toNat = n := by
    rw [UInt32.toNat_ofNat']
    exact Nat.mod_eq_of_lt h
  have hzero : ∀ ys : Bytes, UInt16.ofNat (leAt (toLE 2 0 ++ ys) 0 2) = 0 :=
    fun ys => ofNat_leAt_16 0 ys
  unfold headerBytes
  constructor
  · simp [ofNat_leAt_32]
  · simp [leAt_field, ofNat_leAt_16]
  · simp [leAt_field, hzero]
  · simp [leAt_field, ofNat_leAt_32]
  · simp only [List.append_assoc, leAt_field, toLE_length, Nat.reduceLeDiff, Nat.reduceSub,
      ofNat_leAt_32]
    exact hsize

/-- What the reader accepts fits the token buffer of a session. -/
theorem readSnapshot_length {file : Except Errno Bytes} {flags : UInt32} {token : Bytes}
    (h : readSnapshot file = .ok (flags, token)) : token ≠ [] ∧ token.length ≤ acMaxToken := by
  unfold readSnapshot at h
  split at h
  · cases h
  · rename_i buf hbuf
    simp only at h
    split at h
    · cases h
    · split at h
      · cases h
      · split at h
        · cases h
        · split at h
          · cases h
          · split at h
            · cases h
            · rename_i hsize
              split at h
              · cases h
              · rename_i hroom
                cases h
                have hlen :
                    ((buf.drop snapshotHeaderSize).take (UInt32.ofNat (leAt buf 12 4)).toNat).length =
                    (UInt32.ofNat (leAt buf 12 4)).toNat := by
                  rw [List.length_take, List.length_drop]
                  omega
                constructor
                · intro hnil
                  rw [hnil, List.length_nil] at hlen
                  omega
                · omega

/-- **Snapshot.** For every flags value and every token the hook writes a
snapshot of, the reader returns the same flags and token exactly when the
token is not longer than `LOTA_AC_MAX_TOKEN`. -/
theorem snapshot_agrees_iff (flags : UInt32) (tokenWire file : Bytes)
    (h : writeSnapshot flags tokenWire = .ok file) :
    readSnapshot (.ok file) = .ok (flags, tokenWire) ↔ tokenWire.length ≤ acMaxToken := by
  refine ⟨fun hread => (readSnapshot_length hread).2, fun hle => ?_⟩
  unfold writeSnapshot at h
  split at h
  · cases h
  · rename_i hsize
    cases h
    have hlen := headerBytes_length flags tokenWire.length
    have hmax : tokenWire.length < 2 ^ 32 := by
      unfold acMaxToken at hle
      omega
    have hall : (headerBytes flags tokenWire.length ++ tokenWire).take
        (snapshotHeaderSize + acMaxToken) = headerBytes flags tokenWire.length ++ tokenWire := by
      apply List.take_of_length_le
      rw [List.length_append]
      omega
    have hhdr := headerRead flags hmax tokenWire
    have htoken : ((headerBytes flags tokenWire.length ++ tokenWire).drop snapshotHeaderSize).take
        tokenWire.length = tokenWire := by
      rw [List.drop_left' hlen, List.take_length]
    unfold readSnapshot readFileBuf
    simp only [Except.map, hall]
    rw [if_neg (by rw [List.length_append]; omega), if_neg (not_not.mpr hhdr.magic),
      if_neg (not_not.mpr hhdr.version),
      if_neg (not_not.mpr hhdr.reserved), hhdr.tokenSize, if_neg (by omega),
      if_neg (by rw [List.length_append]; omega), hhdr.flags, htoken]

theorem snapshot_agrees_one :
    readSnapshot (.ok (headerBytes 1 1 ++ [7])) = .ok (1, [7]) :=
  (snapshot_agrees_iff 1 [7] _ rfl).mpr (by decide)

/-- A token of version 2 with thirty PIDs, a 145-byte quote and an RSA-2048
signature. -/
def imageToken : LotaToken where
  validUntil := 900
  flags := 1
  nonce := Blob.zero 32
  sigAlg := 0x14
  hashAlg := 0xB
  pcrMask := 0x40FF
  policyDigest := Blob.zero 32
  runtimeProtectDigest := Blob.zero 32
  runtimeProtectEpoch := 30
  runtimeProtectVersion := runtimeProtectV2
  protectedPIDs := (List.range 30).map fun i => UInt32.ofNat (1000 + i)
  protectedImageDigests := List.replicate 30 (Blob.zero 32)
  attestData := List.replicate 145 0
  signature := List.replicate 256 0
  images_length := by
    intro _
    rw [List.length_replicate, List.length_map, List.length_range]

theorem imageToken_size : imageToken.serializedSize = 1625 := by
  simp [LotaToken.serializedSize, LotaToken.imagesSize, imageToken, maxProtectPIDs, tokenHeaderSize,
    imageDigestSize]

/-- The hook writes the token and the reader refuses the file. -/
theorem image_token_refused :
    ∃ wire file, imageToken.serialize hookMaxToken = .ok wire ∧
    writeSnapshot imageToken.flags wire = .ok file ∧
      ¬ readSnapshot (.ok file) = .ok (imageToken.flags, wire) ∧
      readSnapshot (.ok file) = .error .eio := by
  have hser : imageToken.serialize hookMaxToken = .ok imageToken.bytes := by
    unfold LotaToken.serialize
    rw [imageToken_size, if_neg (by decide), if_neg (by decide)]
  have hlen : imageToken.bytes.length = 1625 := by
    rw [← imageToken_size]
    exact (serialize_parts hser).length
  have hwrite : writeSnapshot imageToken.flags imageToken.bytes =
      .ok (headerBytes imageToken.flags imageToken.bytes.length ++ imageToken.bytes) := by
    unfold writeSnapshot
    rw [hlen, if_neg (by decide)]
  have heio :
      readSnapshot (.ok (headerBytes imageToken.flags imageToken.bytes.length ++ imageToken.bytes)) =
      .error .eio := by
    have hh := headerBytes_length imageToken.flags imageToken.bytes.length
    have hcut : (headerBytes imageToken.flags imageToken.bytes.length ++ imageToken.bytes).take
        (snapshotHeaderSize + acMaxToken) =
        headerBytes imageToken.flags imageToken.bytes.length ++ imageToken.bytes.take acMaxToken := by
      rw [← hh, List.take_length_add_append]
    have hhdr := headerRead imageToken.flags (n := imageToken.bytes.length) (by rw [hlen]; decide)
      (imageToken.bytes.take acMaxToken)
    unfold readSnapshot readFileBuf
    simp only [Except.map, hcut]
    rw [if_neg (by rw [List.length_append, hh]; omega), if_neg (not_not.mpr hhdr.magic),
      if_neg (not_not.mpr hhdr.version),
      if_neg (not_not.mpr hhdr.reserved), hhdr.tokenSize, if_pos (by rw [hlen]; decide)]
  refine ⟨_, _, hser, hwrite, fun hread => ?_, heio⟩
  rw [heio] at hread
  cases hread

end Lota.L4.Snapshot

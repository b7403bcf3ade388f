import Lota.Core.Cursor

/-!
# Enrollment messages in Go (`attestca/wire`)

A message is a preamble of magic and version, then big-endian fields; a
variable field comes behind its 16-bit length and has a limit.

Each decoder accepts a byte string exactly when it starts with the encoding
of a message within the limits: `decodeBegin_ok`, `decodeChallenge_ok`,
`decodeComplete_ok`, `decodeResult_ok`. Round trip and canonicity follow for
all four (`RoundTrips`).
-/
namespace Lota.L5.Wire
open Lota.Core Lota.Core.Cursor

def magic : UInt32 := 0x4C434145
def version : UInt16 := 1

def maxEKCertSize : Nat := 2048
def maxAIKPublicSize : Nat := 1024
def maxCredBlobSize : Nat := 1024
def maxEncSecretSize : Nat := 512
def maxSecretSize : Nat := 64
def maxSessionIDSize : Nat := 64
def maxAIKCertSize : Nat := 4096
def maxDeviceIDSize : Nat := 128

inductive WireError where
  | badMagic | badVersion | tooLarge | short
  deriving DecidableEq, Repr

/-! ## Messages -/

/-- mirrors src/attestca/wire/wire.go:67-70; a Go string is its bytes. -/
structure BeginRequest where
  ekCertDER : Bytes
  aikPublic : Bytes
  deriving DecidableEq

/-- mirrors src/attestca/wire/wire.go:73-78 -/
structure ChallengeReply where
  status : UInt16
  sessionID : Bytes
  credentialBlob : Bytes
  encryptedSecret : Bytes
  deriving DecidableEq

/-- mirrors src/attestca/wire/wire.go:81-84 -/
structure CompleteRequest where
  sessionID : Bytes
  secret : Bytes
  deriving DecidableEq

/-- mirrors src/attestca/wire/wire.go:87-91 -/
structure ResultReply where
  status : UInt16
  aikCertDER : Bytes
  deviceID : Bytes
  deriving DecidableEq

/-! ## Encoders -/

/-- mirrors src/attestca/wire/wire.go:97-102 (`newEncoder`) -/
def preamble : Bytes := toBE 4 magic.toNat ++ toBE 2 version.toNat

/-- mirrors src/attestca/wire/wire.go:104-106 -/
def u16Bytes (v : UInt16) : Bytes := toBE 2 v.toNat

/-- mirrors src/attestca/wire/wire.go:112-116 (`encoder.bytes16`) -/
def bytes16 (b : Bytes) : Bytes := u16Bytes (UInt16.ofNat b.length) ++ b

/-- mirrors src/attestca/wire/wire.go:119-127 -/
def encodeBegin (r : BeginRequest) : Except WireError Bytes :=
  if r.ekCertDER.length > maxEKCertSize ∨ r.aikPublic.length > maxAIKPublicSize then .error .tooLarge
  else .ok (preamble ++ (bytes16 r.ekCertDER ++ bytes16 r.aikPublic))

/-- mirrors src/attestca/wire/wire.go:130-142 -/
def encodeChallenge (r : ChallengeReply) : Except WireError Bytes :=
  if r.sessionID.length > maxSessionIDSize ∨ r.credentialBlob.length > maxCredBlobSize ∨
      r.encryptedSecret.length > maxEncSecretSize then .error .tooLarge
  else .ok (preamble ++ (u16Bytes r.status ++
    (bytes16 r.sessionID ++ (bytes16 r.credentialBlob ++ bytes16 r.encryptedSecret))))

/-- mirrors src/attestca/wire/wire.go:145-153 -/
def encodeComplete (r : CompleteRequest) : Except WireError Bytes :=
  if r.sessionID.length > maxSessionIDSize ∨ r.secret.length > maxSecretSize then .error .tooLarge
  else .ok (preamble ++ (bytes16 r.sessionID ++ bytes16 r.secret))

/-- mirrors src/attestca/wire/wire.go:156-165 -/
def encodeResult (r : ResultReply) : Except WireError Bytes :=
  if r.aikCertDER.length > maxAIKCertSize ∨ r.deviceID.length > maxDeviceIDSize then .error .tooLarge
  else .ok (preamble ++ (u16Bytes r.status ++ (bytes16 r.aikCertDER ++ bytes16 r.deviceID)))

/-! ## Decoders -/

/-- mirrors src/attestca/wire/wire.go:172-183; a decoder is a cursor. -/
def newDecoder (b : Bytes) : Except WireError Cursor :=
  if b.length < 6 then .error .short
  else if UInt32.ofNat (ofBE (b.take 4)) ≠ magic then .error .badMagic
  else if UInt16.ofNat (ofBE ((b.drop 4).take 2)) ≠ version then .error .badVersion
  else .ok ⟨b, 6⟩

/-- mirrors src/attestca/wire/wire.go:185-192 -/
def readU16 (d : Cursor) : Except WireError (UInt16 × Cursor) :=
  if d.off + 2 > d.buf.length then .error .short
  else .ok (UInt16.ofNat (ofBE (d.rest.take 2)), d.advance 2)

/-- mirrors src/attestca/wire/wire.go:194-209 (`decoder.bytes16`) -/
def readBytes16 (d : Cursor) (max : Nat) : Except WireError (Bytes × Cursor) := do
  let (n, d) ← readU16 d
  if n.toNat > max then .error .tooLarge
  else if d.off + n.toNat > d.buf.length then .error .short
  else .ok (d.rest.take n.toNat, d.advance n.toNat)

/-- mirrors src/attestca/wire/wire.go:212-226 -/
def decodeBegin (b : Bytes) : Except WireError BeginRequest := do
  let d ← newDecoder b
  let (ekCert, d) ← readBytes16 d maxEKCertSize
  let (aikPub, _) ← readBytes16 d maxAIKPublicSize
  .ok { ekCertDER := ekCert, aikPublic := aikPub }

/-- mirrors src/attestca/wire/wire.go:229-256 -/
def decodeChallenge (b : Bytes) : Except WireError ChallengeReply := do
  let d ← newDecoder b
  let (status, d) ← readU16 d
  let (sid, d) ← readBytes16 d maxSessionIDSize
  let (cred, d) ← readBytes16 d maxCredBlobSize
  let (secret, _) ← readBytes16 d maxEncSecretSize
  .ok { status, sessionID := sid, credentialBlob := cred, encryptedSecret := secret }

/-- mirrors src/attestca/wire/wire.go:259-273 -/
def decodeComplete (b : Bytes) : Except WireError CompleteRequest := do
  let d ← newDecoder b
  let (sid, d) ← readBytes16 d maxSessionIDSize
  let (secret, _) ← readBytes16 d maxSecretSize
  .ok { sessionID := sid, secret }

/-- mirrors src/attestca/wire/wire.go:276-294 -/
def decodeResult (b : Bytes) : Except WireError ResultReply := do
  let d ← newDecoder b
  let (status, d) ← readU16 d
  let (cert, d) ← readBytes16 d maxAIKCertSize
  let (dev, _) ← readBytes16 d maxDeviceIDSize
  .ok { status, aikCertDER := cert, deviceID := dev }

/-! ## What the readers eat -/

/-- The bytes of a number are eaten exactly when they are read as it. -/
theorem toBE_of_take {bs : Bytes} {k n : Nat} (hlen : bs.length = k) (hn : n = ofBE bs) :
    toBE k n = bs := by
  subst hn
  unfold toBE ofBE
  rw [← hlen, ← List.length_reverse, toLE_ofLE, List.reverse_reverse]

theorem ofBE_lt {bs : Bytes} {k : Nat} (hlen : bs.length = k) : ofBE bs < 256 ^ k := by
  unfold ofBE
  rw [← hlen, ← List.length_reverse]
  exact ofLE_lt bs.reverse

variable {d d' : Cursor}

theorem u16Bytes_ofBE {bs : Bytes} (hlen : bs.length = 2) : u16Bytes (UInt16.ofNat (ofBE bs)) = bs := by
  unfold u16Bytes
  apply toBE_of_take hlen
  have hlt : ofBE bs < 2 ^ 16 := ofBE_lt hlen
  rw [UInt16.toNat_ofNat', Nat.mod_eq_of_lt hlt]

theorem ofBE_u16Bytes (v : UInt16) : UInt16.ofNat (ofBE (u16Bytes v)) = v := by
  unfold u16Bytes
  rw [ofBE_toBE 2 _ v.toNat_lt, UInt16.ofNat_toNat]

@[simp] theorem u16Bytes_length (v : UInt16) : (u16Bytes v).length = 2 := toBE_length 2 _

theorem u16Bytes_ne_nil (v : UInt16) : u16Bytes v ≠ [] :=
  List.ne_nil_of_length_eq_add_one (u16Bytes_length v)

/-- **16-bit fields.** -/
theorem readU16_ok {v : UInt16} : readU16 d = .ok (v, d') ↔ Ate d (u16Bytes v) d' := by
  unfold readU16
  rw [except_guard_ok]
  constructor
  · intro ⟨hb, h⟩
    obtain ⟨rfl, rfl⟩ := Prod.mk.inj (Except.ok.inj h)
    have hate := ate_take (c := d) (n := 2) (by omega)
    have hlen : (d.rest.take 2).length = 2 := by
      unfold Cursor.rest
      rw [List.length_take, List.length_drop]
      omega
    rw [u16Bytes_ofBE hlen]
    exact hate
  · intro hate
    have hb := hate.bound (u16Bytes_ne_nil v)
    have htake := hate.take_eq
    rw [u16Bytes_length] at hb htake
    refine ⟨by omega, ?_⟩
    rw [htake, ofBE_u16Bytes, hate.next, u16Bytes_length]

/-- **Variable fields.** -/
theorem readBytes16_ok {max : Nat} (hmax : max < 2 ^ 16) {out : Bytes} :
    readBytes16 d max = .ok (out, d') ↔ out.length ≤ max ∧ Ate d (bytes16 out) d' := by
  unfold readBytes16 bytes16
  rw [except_bind_ok]
  constructor
  · intro ⟨⟨n, d₁⟩, hn, h⟩
    obtain ⟨hle, h⟩ := except_guard_ok.mp h
    obtain ⟨hb, h⟩ := except_guard_ok.mp h
    obtain ⟨rfl, rfl⟩ := Prod.mk.inj (Except.ok.inj h)
    have hate := ate_take (c := d₁) (n := n.toNat) (by omega)
    have hlen : (d₁.rest.take n.toNat).length = n.toNat := by
      unfold Cursor.rest
      rw [List.length_take, List.length_drop]
      omega
    rw [hlen, UInt16.ofNat_toNat]
    exact ⟨by omega, (readU16_ok.mp hn).trans hate⟩
  · intro ⟨hle, hate⟩
    obtain ⟨d₁, hn, hout⟩ := ate_append.mp hate
    have hsize : (UInt16.ofNat out.length).toNat = out.length := by
      rw [UInt16.toNat_ofNat']
      omega
    refine ⟨(UInt16.ofNat out.length, d₁), readU16_ok.mpr hn, ?_⟩
    simp only [hsize]
    have hfit : d₁.off + out.length ≤ d₁.buf.length := by
      by_cases h0 : out = []
      · -- an empty field: the length in front of it was inside the buffer
        have hlast := hn.bound (u16Bytes_ne_nil _)
        rw [u16Bytes_length] at hlast
        rw [h0, hn.next, u16Bytes_length]
        exact hlast
      · exact hout.bound h0
    rw [if_neg (by omega), if_neg (by omega), hout.take_eq, hout.next]

theorem preamble_length : preamble.length = 6 := by simp [preamble]

/-- **Preamble.** -/
theorem newDecoder_ok {b : Bytes} : newDecoder b = .ok d ↔ Ate ⟨b, 0⟩ preamble d := by
  unfold newDecoder
  rw [except_guard_ok, except_guard_ok, except_guard_ok]
  constructor
  · intro ⟨hlen, hmagic, hversion, h⟩
    have h4 : (b.take 4).length = 4 := by
      rw [List.length_take]
      omega
    have h2 : ((b.drop 4).take 2).length = 2 := by
      rw [List.length_take, List.length_drop]
      omega
    have hm : toBE 4 magic.toNat = b.take 4 := by
      apply toBE_of_take h4
      have hlt : ofBE (b.take 4) < 2 ^ 32 := ofBE_lt h4
      rw [← not_not.mp hmagic, UInt32.toNat_ofNat', Nat.mod_eq_of_lt hlt]
    have hv : toBE 2 version.toNat = (b.drop 4).take 2 := by
      rw [← not_not.mp hversion]
      exact u16Bytes_ofBE h2
    refine ⟨?_, ?_⟩
    · rw [preamble_length, ← Except.ok.inj h]
      rfl
    · unfold preamble
      rw [hm, hv, ← List.take_add]
      exact List.take_prefix 6 b
  · intro hate
    obtain ⟨tail, htail⟩ := hate.front
    have hb : b = toBE 4 magic.toNat ++ (toBE 2 version.toNat ++ tail) := by
      rw [← List.append_assoc]
      exact htail.symm
    have hlen : b.length = 6 + tail.length := by
      rw [hb]
      simp
      omega
    have hdec : (⟨b, 6⟩ : Cursor) = d := by
      rw [hate.next, preamble_length]
      rfl
    have h4 : b.take 4 = toBE 4 magic.toNat := by
      rw [hb]
      exact List.take_left' (toBE_length 4 _)
    have h2 : (b.drop 4).take 2 = toBE 2 version.toNat := by
      rw [hb, List.drop_left' (toBE_length 4 _)]
      exact List.take_left' (toBE_length 2 _)
    refine ⟨by omega, ?_, ?_, by rw [hdec]⟩
    · rw [h4]
      decide
    · rw [h2]
      decide

/-! ## The decoders -/

/-- A message within its limits. -/
def BeginRequest.Within (r : BeginRequest) : Prop :=
  r.ekCertDER.length ≤ maxEKCertSize ∧ r.aikPublic.length ≤ maxAIKPublicSize

def ChallengeReply.Within (r : ChallengeReply) : Prop :=
  r.sessionID.length ≤ maxSessionIDSize ∧ r.credentialBlob.length ≤ maxCredBlobSize ∧
    r.encryptedSecret.length ≤ maxEncSecretSize

def CompleteRequest.Within (r : CompleteRequest) : Prop :=
  r.sessionID.length ≤ maxSessionIDSize ∧ r.secret.length ≤ maxSecretSize

def ResultReply.Within (r : ResultReply) : Prop :=
  r.aikCertDER.length ≤ maxAIKCertSize ∧ r.deviceID.length ≤ maxDeviceIDSize

section
variable {b : Bytes}

theorem decodeBegin_ok {r : BeginRequest} : decodeBegin b = .ok r ↔
    r.Within ∧ preamble ++ (bytes16 r.ekCertDER ++ bytes16 r.aikPublic) <+: b := by
  unfold decodeBegin
  rw [← ate_from_start]
  simp only [except_bind_ok, Prod.exists, newDecoder_ok,
    readBytes16_ok (by decide : maxEKCertSize < 2 ^ 16),
    readBytes16_ok (by decide : maxAIKPublicSize < 2 ^ 16), ate_append]
  constructor
  · intro ⟨d, hd, ekCert, d₁, ⟨h1, ha1⟩, aikPub, d₂, ⟨h2, ha2⟩, hr⟩
    cases hr
    exact ⟨⟨h1, h2⟩, d₂, d, hd, d₁, ha1, ha2⟩
  · intro ⟨⟨h1, h2⟩, d₂, d, hd, d₁, ha1, ha2⟩
    exact ⟨d, hd, _, d₁, ⟨h1, ha1⟩, _, d₂, ⟨h2, ha2⟩, rfl⟩

theorem decodeChallenge_ok {r : ChallengeReply} : decodeChallenge b = .ok r ↔
    r.Within ∧ preamble ++ (u16Bytes r.status ++
      (bytes16 r.sessionID ++ (bytes16 r.credentialBlob ++ bytes16 r.encryptedSecret))) <+: b := by
  unfold decodeChallenge
  rw [← ate_from_start]
  simp only [except_bind_ok, Prod.exists, newDecoder_ok, readU16_ok,
    readBytes16_ok (by decide : maxSessionIDSize < 2 ^ 16),
    readBytes16_ok (by decide : maxCredBlobSize < 2 ^ 16),
    readBytes16_ok (by decide : maxEncSecretSize < 2 ^ 16), ate_append]
  constructor
  · intro ⟨d, hd, status, d₁, ha1, sid, d₂, ⟨h2, ha2⟩, cred, d₃, ⟨h3, ha3⟩, secret, d₄, ⟨h4, ha4⟩, hr⟩
    cases hr
    exact ⟨⟨h2, h3, h4⟩, d₄, d, hd, d₁, ha1, d₂, ha2, d₃, ha3, ha4⟩
  · intro ⟨⟨h2, h3, h4⟩, d₄, d, hd, d₁, ha1, d₂, ha2, d₃, ha3, ha4⟩
    exact ⟨d, hd, _, d₁, ha1, _, d₂, ⟨h2, ha2⟩, _, d₃, ⟨h3, ha3⟩, _, d₄, ⟨h4, ha4⟩, rfl⟩

theorem decodeComplete_ok {r : CompleteRequest} : decodeComplete b = .ok r ↔
    r.Within ∧ preamble ++ (bytes16 r.sessionID ++ bytes16 r.secret) <+: b := by
  unfold decodeComplete
  rw [← ate_from_start]
  simp only [except_bind_ok, Prod.exists, newDecoder_ok,
    readBytes16_ok (by decide : maxSessionIDSize < 2 ^ 16),
    readBytes16_ok (by decide : maxSecretSize < 2 ^ 16), ate_append]
  constructor
  · intro ⟨d, hd, sid, d₁, ⟨h1, ha1⟩, secret, d₂, ⟨h2, ha2⟩, hr⟩
    cases hr
    exact ⟨⟨h1, h2⟩, d₂, d, hd, d₁, ha1, ha2⟩
  · intro ⟨⟨h1, h2⟩, d₂, d, hd, d₁, ha1, ha2⟩
    exact ⟨d, hd, _, d₁, ⟨h1, ha1⟩, _, d₂, ⟨h2, ha2⟩, rfl⟩

theorem decodeResult_ok {r : ResultReply} : decodeResult b = .ok r ↔
    r.Within ∧ preamble ++ (u16Bytes r.status ++ (bytes16 r.aikCertDER ++ bytes16 r.deviceID)) <+:
    b := by
  unfold decodeResult
  rw [← ate_from_start]
  simp only [except_bind_ok, Prod.exists, newDecoder_ok, readU16_ok,
    readBytes16_ok (by decide : maxAIKCertSize < 2 ^ 16),
    readBytes16_ok (by decide : maxDeviceIDSize < 2 ^ 16), ate_append]
  constructor
  · intro ⟨d, hd, status, d₁, ha1, cert, d₂, ⟨h2, ha2⟩, dev, d₃, ⟨h3, ha3⟩, hr⟩
    cases hr
    exact ⟨⟨h2, h3⟩, d₃, d, hd, d₁, ha1, d₂, ha2, ha3⟩
  · intro ⟨⟨h2, h3⟩, d₃, d, hd, d₁, ha1, d₂, ha2, ha3⟩
    exact ⟨d, hd, _, d₁, ha1, _, d₂, ⟨h2, ha2⟩, _, d₃, ⟨h3, ha3⟩, rfl⟩

end

/-! ## Round trips -/

/-- A message within its limits is encoded and read back, and what is
accepted starts with the encoding of the result. -/
structure RoundTrips {α : Type} (encode : α → Except WireError Bytes)
    (decode : Bytes → Except WireError α)
    (within : α → Prop) : Prop where
  roundTrip : ∀ r, within r → ∃ bs, encode r = .ok bs ∧ decode bs = .ok r
  canonical : ∀ b r, decode b = .ok r → ∃ bs, encode r = .ok bs ∧ bs <+: b

theorem roundTrips_of {α : Type} {encode : α → Except WireError Bytes}
    {decode : Bytes → Except WireError α}
    {within : α → Prop} {bytes : α → Bytes} (henc : ∀ r, within r → encode r = .ok (bytes r))
    (hdec : ∀ b r, decode b = .ok r ↔ within r ∧ bytes r <+: b) : RoundTrips encode decode within := by
  constructor
  · intro r hr
    exact ⟨bytes r, henc r hr, (hdec _ r).mpr ⟨hr, List.prefix_refl _⟩⟩
  · intro b r h
    obtain ⟨hr, hfront⟩ := (hdec b r).mp h
    exact ⟨bytes r, henc r hr, hfront⟩

theorem begin_roundTrips : RoundTrips encodeBegin decodeBegin BeginRequest.Within := by
  apply roundTrips_of _ fun b r => decodeBegin_ok
  intro r hr
  exact if_neg (not_or.mpr ⟨Nat.not_lt.mpr hr.1, Nat.not_lt.mpr hr.2⟩)

theorem challenge_roundTrips : RoundTrips encodeChallenge decodeChallenge ChallengeReply.Within := by
  apply roundTrips_of _ fun b r => decodeChallenge_ok
  intro r hr
  exact if_neg
    (not_or.mpr ⟨Nat.not_lt.mpr hr.1, not_or.mpr ⟨Nat.not_lt.mpr hr.2.1, Nat.not_lt.mpr hr.2.2⟩⟩)

theorem complete_roundTrips : RoundTrips encodeComplete decodeComplete CompleteRequest.Within := by
  apply roundTrips_of _ fun b r => decodeComplete_ok
  intro r hr
  exact if_neg (not_or.mpr ⟨Nat.not_lt.mpr hr.1, Nat.not_lt.mpr hr.2⟩)

theorem result_roundTrips : RoundTrips encodeResult decodeResult ResultReply.Within := by
  apply roundTrips_of _ fun b r => decodeResult_ok
  intro r hr
  exact if_neg (not_or.mpr ⟨Nat.not_lt.mpr hr.1, Nat.not_lt.mpr hr.2⟩)

end Lota.L5.Wire

import Lota.L6Agent.SealedEnvelope

/-!
# The output buffer of an opened envelope (`agent/seal_envelope.c`, `agent/tpm.c`)

`include/lota_envelope.h` says that `lota_envelope_aead_open` writes the
plaintext only if the tag verifies. The cipher is used in two steps:
`EVP_DecryptUpdate` writes the decrypted text into the caller's buffer, then
`EVP_DecryptFinal_ex` checks the tag. Neither the function nor
`tpm_unseal_secret_envelope`, which passes its caller's buffer on, wipes the
buffer after a failed check.

A cell of the buffer says where its byte comes from. The cipher is a parameter,
and so is which of the OpenSSL calls fails.

* `aeadOpen_eq`, `unsealEnvelope_eq`: without faults the two functions return
  what the model without a buffer returns.
* `error_keeps_buffer_iff`: a failing call leaves the buffer as it was exactly
  if it does not get to the decryption, or its tag is accepted.
* `bad_tag_releases`: a wrong tag.
-/
namespace Lota.L6.OpenBuffer
open Lota.Core Lota.L4.Token Lota.L6.SealFormat Lota.L6.SealedEnvelope

/-- A byte of the output buffer. -/
inductive Cell where
  /-- As the caller had it. -/
  | held (b : UInt8)
  /-- Decrypted from the ciphertext. -/
  | text (b : UInt8)
  deriving DecidableEq, Repr

/-- AES-256-GCM in two steps: the text that the key stream gives, and whether a
tag is the right one. -/
structure Gcm where
  text : Blob 32 → Blob 12 → Bytes → Bytes
  text_length : ∀ k n ct, (text k n ct).length = ct.length
  verifies : Blob 32 → Blob 12 → Bytes → Bytes → Blob 16 → Bool

/-- The OpenSSL calls that fail for reasons of their own. -/
structure Faults where
  ctxNew : Bool := false
  initCipher : Bool := false
  setIvLen : Bool := false
  initKey : Bool := false
  updateAad : Bool := false
  /-- `EVP_DecryptUpdate` of the ciphertext, and how much it has written. -/
  updateText : Option Nat := none
  setTag : Bool := false

/-- The bytes at the front of the buffer are replaced. -/
def writeText (out : Bytes) (text : Bytes) : List Cell :=
  text.map .text ++ (out.drop text.length).map .held

def untouched (out : Bytes) : List Cell := out.map .held

section
variable (G : Gcm)

/-- The arguments of `lota_envelope_aead_open`. -/
structure OpenArgs where
  kek : Blob 32
  nonce : Blob 12
  aad : Bytes
  ct : Bytes
  tag : Blob 16
  /-- One of the pointers is null, or `aad` is and its length is not zero. -/
  nullPointer : Bool := false

/-- The return value, and the caller's buffer after the call.
mirrors src/agent/seal_envelope.c:70-127 -/
def aeadOpen (F : Faults) (a : OpenArgs) (out : Bytes) : Except Errno Unit × List Cell :=
  if a.nullPointer = true then (.error .einval, untouched out)
  else if a.ct.length = 0 ∨ a.ct.length > envelopeMaxPayload then (.error .einval, untouched out)
  else if a.aad.length > intMax then (.error .einval, untouched out)
  else if F.ctxNew = true then (.error .enomem, untouched out)
  else if F.initCipher = true then (.error .eio, untouched out)
  else if F.setIvLen = true then (.error .eio, untouched out)
  else if F.initKey = true then (.error .eio, untouched out)
  else if a.aad.length > 0 ∧ F.updateAad = true then (.error .eio, untouched out)
  else
    let text := G.text a.kek a.nonce a.ct
    match F.updateText with
    | some n => (.error .eio, writeText out (text.take n))
    | none =>
      -- the text is in the caller's buffer from here on
      if F.setTag = true then (.error .eio, writeText out text)
      else if G.verifies a.kek a.nonce a.aad a.ct a.tag = false
        then (.error .ebadmsg, writeText out text)
      else (.ok (), writeText out text)

variable {S : Type} (T : Tpm S)

/-- The return value with `*out_len`, and the caller's buffer after the call.
mirrors src/agent/tpm.c:4724-4779 -/
def unsealEnvelope (F : Faults) (st : S) (blob : Bytes) (out : Bytes) (outCap : Nat) :
    Except Errno Nat × List Cell :=
  if T.initialized st = false then (.error .einval, untouched out)
  else
    match envelopeParseHeader blob with
    | .error e => (.error e, untouched out)
    | .ok m =>
      if m.payloadLen.toNat > outCap then (.error .enospc, untouched out)
      else
        let kekBlob := (blob.drop envelopeHeaderSize).take m.kekBlobLen.toNat
        let ct := (blob.drop (envelopeHeaderSize + m.kekBlobLen.toNat)).take m.payloadLen.toNat
        match tpmUnsealSecret T st kekBlob envelopeKekSize with
        | .error e => (.error e, untouched out)
        | .ok kek =>
          if kek.length ≠ envelopeKekSize then (.error .einval, untouched out)
          else
            let aad := patchTag (blob.take (envelopeHeaderSize + m.kekBlobLen.toNat)) (Blob.zero 16)
            match aeadOpen G F { kek := toBlob 32 kek, nonce := m.nonce, aad, ct, tag := m.tag }
              out with
            | (.error e, out') => (.error e, out')
            | (.ok (), out') => (.ok m.payloadLen.toNat, out')

/-! ## The return values -/

variable {G T}

/-- A cipher that decrypts and verifies as `G` does. -/
def Matches (G : Gcm) (E : Evp) : Prop := ∀ k n aad ct tag,
  E.decrypt k n aad ct tag = if G.verifies k n aad ct tag then .ok (G.text k n ct) else .error .ebadmsg

/-- Without faults the call returns what the cipher returns, and an opened text
is in the buffer. -/
theorem aeadOpen_eq {E : Evp} (hE : Matches G E) (a : OpenArgs) (hnull : a.nullPointer = false)
    (out : Bytes) : (∀ p, envelopeAeadOpen E a.kek a.nonce a.aad a.ct a.tag = .ok p →
      aeadOpen G {} a out = (.ok (), writeText out p)) ∧
    ∀ e, envelopeAeadOpen E a.kek a.nonce a.aad a.ct a.tag = .error e →
    (aeadOpen G {} a out).1 = .error e := by
  unfold envelopeAeadOpen aeadOpen
  rw [hE]
  have hn : ¬ a.nullPointer = true := by simp [hnull]
  by_cases hct : a.ct.length = 0 ∨ a.ct.length > envelopeMaxPayload
  · simp only [if_neg hn, if_pos hct]
    refine ⟨fun p h => ?_, fun e h => ?_⟩
    · cases h
    · cases h
      rfl
  · by_cases haad : a.aad.length > intMax
    · simp only [if_neg hn, if_neg hct, if_pos haad]
      refine ⟨fun p h => ?_, fun e h => ?_⟩
      · cases h
      · cases h
        rfl
    · simp only [if_neg hn, if_neg hct, if_neg haad]
      cases G.verifies a.kek a.nonce a.aad a.ct a.tag <;> simp

theorem unsealEnvelope_eq {E : Evp} (hE : Matches G E) (st : S) (blob out : Bytes)
    (outCap : Nat) (p : Bytes)
    (h : tpmUnsealSecretEnvelope T E st blob outCap = .ok p) :
    ∃ n, unsealEnvelope G T {} st blob out outCap = (.ok n, writeText out p) := by
  unfold tpmUnsealSecretEnvelope at h
  simp only [except_guard_ok, except_bind_ok] at h
  obtain ⟨hinit, m, hparse, hcap, kek, hkek, hlen, hopen⟩ := h
  refine ⟨m.payloadLen.toNat, ?_⟩
  unfold unsealEnvelope
  rw [if_neg hinit, hparse]
  simp only [if_neg hcap, hkek, if_neg hlen]
  rw [(aeadOpen_eq hE
    { kek := toBlob 32 kek, nonce := m.nonce
      aad := patchTag (blob.take (envelopeHeaderSize + m.kekBlobLen.toNat)) (Blob.zero 16)
      ct := (blob.drop (envelopeHeaderSize + m.kekBlobLen.toNat)).take m.payloadLen.toNat,
      tag := m.tag } rfl out).1 p
    hopen]

/-! ## The buffer -/

/-- A call that fails leaves no decrypted byte: the buffer is as it was. -/
def KeepsBuffer {α : Type} (out : Bytes) (r : Except Errno α × List Cell) : Prop :=
  ∀ e, r.1 = .error e → r.2 = untouched out

/-- The arguments pass the checks and no call before the decryption fails. -/
structure Decrypts (F : Faults) (a : OpenArgs) : Prop where
  pointers : a.nullPointer = false
  ct : ¬ (a.ct.length = 0 ∨ a.ct.length > envelopeMaxPayload)
  aad : ¬ a.aad.length > intMax
  ctxNew : F.ctxNew = false
  initCipher : F.initCipher = false
  setIvLen : F.setIvLen = false
  initKey : F.initKey = false
  updateAad : ¬ (a.aad.length > 0 ∧ F.updateAad = true)

/-- The decryption writes nothing, or the tag is set and accepted. -/
def Accepted (G : Gcm) (F : Faults) (a : OpenArgs) : Prop :=
  F.updateText = some 0 ∨
    F.updateText = none ∧ F.setTag = false ∧ G.verifies a.kek a.nonce a.aad a.ct a.tag = true

theorem writeText_ne {out text : Bytes} (h : text ≠ []) : writeText out text ≠ untouched out := by
  cases text with
  | nil => exact absurd rfl h
  | cons b text =>
    unfold writeText untouched
    cases out with
    | nil => simp
    | cons c out => simp

theorem writeText_nil (out : Bytes) : writeText out [] = untouched out := by simp [writeText, untouched]

theorem not_decrypts {F : Faults} {a : OpenArgs} (h : ¬ Decrypts F a) (out : Bytes) :
    (aeadOpen G F a out).2 = untouched out := by
  unfold aeadOpen
  -- the function returns early: there is no other way not to decrypt
  by_cases h1 : a.nullPointer = true
  · rw [if_pos h1]
  rw [if_neg h1]
  by_cases h2 : a.ct.length = 0 ∨ a.ct.length > envelopeMaxPayload
  · rw [if_pos h2]
  rw [if_neg h2]
  by_cases h3 : a.aad.length > intMax
  · rw [if_pos h3]
  rw [if_neg h3]
  by_cases h4 : F.ctxNew = true
  · rw [if_pos h4]
  rw [if_neg h4]
  by_cases h5 : F.initCipher = true
  · rw [if_pos h5]
  rw [if_neg h5]
  by_cases h6 : F.setIvLen = true
  · rw [if_pos h6]
  rw [if_neg h6]
  by_cases h7 : F.initKey = true
  · rw [if_pos h7]
  rw [if_neg h7]
  by_cases h8 : a.aad.length > 0 ∧ F.updateAad = true
  · rw [if_pos h8]
  exact absurd ⟨by simpa using h1, h2, h3, by simpa using h4, by simpa using h5, by simpa using h6,
    by simpa using h7, h8⟩ h

theorem decrypts_eq {F : Faults} {a : OpenArgs} (h : Decrypts F a) (out : Bytes) : aeadOpen G F a out =
    match F.updateText with
    | some n => (.error .eio, writeText out ((G.text a.kek a.nonce a.ct).take n))
    | none =>
      if F.setTag = true then (.error .eio, writeText out (G.text a.kek a.nonce a.ct))
      else if G.verifies a.kek a.nonce a.aad a.ct a.tag = false then
        (.error .ebadmsg, writeText out (G.text a.kek a.nonce a.ct))
      else (.ok (), writeText out (G.text a.kek a.nonce a.ct)) := by
  unfold aeadOpen
  rw [if_neg (by simp [h.pointers]), if_neg h.ct, if_neg h.aad, if_neg (by simp [h.ctxNew]),
    if_neg (by simp [h.initCipher]), if_neg (by simp [h.setIvLen]), if_neg (by simp [h.initKey]),
    if_neg h.updateAad]

theorem text_ne_nil {F : Faults} {a : OpenArgs} (h : Decrypts F a) :
    G.text a.kek a.nonce a.ct ≠ [] := by
  intro hnil
  have hl := G.text_length a.kek a.nonce a.ct
  rw [hnil] at hl
  exact h.ct (Or.inl hl.symm)

/-- One call of `lota_envelope_aead_open`. -/
theorem aeadOpen_keeps_iff (F : Faults) (a : OpenArgs) (out : Bytes) :
    KeepsBuffer out (aeadOpen G F a out) ↔ (Decrypts F a → Accepted G F a) := by
  by_cases hd : Decrypts F a
  · have hne : G.text a.kek a.nonce a.ct ≠ [] := text_ne_nil hd
    unfold KeepsBuffer Accepted
    rw [decrypts_eq hd]
    cases hu : F.updateText with
    | some n =>
      cases n with
      | zero => simp [writeText_nil]
      | succ n =>
        have htake : (G.text a.kek a.nonce a.ct).take (n + 1) ≠ [] := by
          intro hnil
          rcases List.take_eq_nil_iff.mp hnil with h | h
          · cases h
          · exact hne h
        simp [writeText_ne htake, hd]
    | none =>
      have hw : writeText out (G.text a.kek a.nonce a.ct) ≠ untouched out := writeText_ne hne
      cases hs : F.setTag
      · cases hv : G.verifies a.kek a.nonce a.aad a.ct a.tag
        · simp [hw, hd]
        · simp
      · simp [hw, hd]
  · simp only [hd, false_implies, iff_true]
    intro e _
    exact not_decrypts hd out

/-- What `tpm_unseal_secret_envelope` passes to the cipher, if it gets there. -/
def OpensWith (T : Tpm S) (st : S) (blob : Bytes) (outCap : Nat) (a : OpenArgs) : Prop :=
  T.initialized st = true ∧ ∃ m kek, envelopeParseHeader blob = .ok m ∧ m.payloadLen.toNat ≤ outCap ∧
    tpmUnsealSecret T st ((blob.drop envelopeHeaderSize).take m.kekBlobLen.toNat) envelopeKekSize =
    .ok kek ∧ kek.length = envelopeKekSize ∧
    a = { kek := toBlob 32 kek, nonce := m.nonce
          aad := patchTag (blob.take (envelopeHeaderSize + m.kekBlobLen.toNat)) (Blob.zero 16)
          ct := (blob.drop (envelopeHeaderSize + m.kekBlobLen.toNat)).take m.payloadLen.toNat,
          tag := m.tag }

/-- One call of `tpm_unseal_secret_envelope`: it fails before the cipher is used
and leaves the buffer alone, or it hands the buffer to the cipher. -/
theorem unsealEnvelope_cases (F : Faults) (st : S) (blob out : Bytes) (outCap : Nat) :
    ((¬ ∃ a, OpensWith T st blob outCap a) ∧ (unsealEnvelope G T F st blob out outCap).2 =
      untouched out) ∨
    ∃ a, OpensWith T st blob outCap a ∧
    (unsealEnvelope G T F st blob out outCap).2 = (aeadOpen G F a out).2 ∧
      ∀ e, (unsealEnvelope G T F st blob out outCap).1 = .error e ↔
      (aeadOpen G F a out).1 = .error e := by
  unfold unsealEnvelope
  by_cases hinit : T.initialized st = false
  · rw [if_pos hinit]
    refine Or.inl ⟨?_, rfl⟩
    intro h
    obtain ⟨a, ha⟩ := h
    rw [ha.1] at hinit
    cases hinit
  · rw [if_neg hinit]
    cases hparse : envelopeParseHeader blob with
    | error e =>
      refine Or.inl ⟨?_, rfl⟩
      intro h
      obtain ⟨a, -, m, kek, hp, -⟩ := h
      rw [hparse] at hp
      cases hp
    | ok m =>
      by_cases hcap : m.payloadLen.toNat > outCap
      · simp only [if_pos hcap]
        refine Or.inl ⟨?_, trivial⟩
        intro h
        obtain ⟨a, -, m', kek, hp, hc, -⟩ := h
        rw [hparse] at hp
        cases hp
        omega
      · simp only [if_neg hcap]
        cases hkek : tpmUnsealSecret T st ((blob.drop envelopeHeaderSize).take m.kekBlobLen.toNat)
          envelopeKekSize with
        | error e =>
          refine Or.inl ⟨?_, rfl⟩
          intro h
          obtain ⟨a, -, m', kek, hp, -, hk, -⟩ := h
          rw [hparse] at hp
          cases hp
          rw [hkek] at hk
          cases hk
        | ok kek =>
          by_cases hlen : kek.length ≠ envelopeKekSize
          · simp only [if_pos hlen]
            refine Or.inl ⟨?_, trivial⟩
            intro h
            obtain ⟨a, -, m', kek', hp, -, hk, hl, -⟩ := h
            rw [hparse] at hp
            cases hp
            rw [hkek] at hk
            cases hk
            exact hlen hl
          · simp only [if_neg hlen]
            refine Or.inr
              ⟨_, ⟨by simpa using hinit, m, kek, hparse, Nat.not_lt.mp hcap, hkek,
                not_not.mp hlen, rfl⟩, ?_⟩
            rcases haead : aeadOpen G F _ out with ⟨r, out'⟩
            cases r with
            | error e => exact ⟨rfl, fun e' => by simp⟩
            | ok u => exact ⟨rfl, fun e' => by simp⟩

theorem OpensWith.unique {st : S} {blob : Bytes} {outCap : Nat} {a b : OpenArgs}
    (ha : OpensWith T st blob outCap a)
    (hb : OpensWith T st blob outCap b) : a = b := by
  obtain ⟨-, m, kek, hm, -, hk, -, rfl⟩ := ha
  obtain ⟨-, m', kek', hm', -, hk', -, rfl⟩ := hb
  rw [hm] at hm'
  cases hm'
  rw [hk] at hk'
  cases hk'
  rfl

/-- **Output buffer.** A failing call leaves the caller's buffer as it was
exactly if it does not decrypt the ciphertext, or its tag is accepted; for the
envelope, with the arguments it passes to the cipher. -/
theorem error_keeps_buffer_iff (G : Gcm) (T : Tpm S) (F : Faults) :
    (∀ a out, KeepsBuffer out (aeadOpen G F a out) ↔ (Decrypts F a → Accepted G F a)) ∧
    ∀ st blob out outCap, KeepsBuffer out (unsealEnvelope G T F st blob out outCap) ↔
      ∀ a, OpensWith T st blob outCap a → Decrypts F a → Accepted G F a := by
  refine ⟨fun a out => aeadOpen_keeps_iff F a out, fun st blob out outCap => ?_⟩
  rcases @unsealEnvelope_cases G S T F st blob out outCap with ⟨hno, hbuf⟩ | ⟨a, ha, hbuf, herr⟩
  · refine ⟨fun _ a ha => absurd ⟨a, ha⟩ hno, fun _ e _ => hbuf⟩
  · have hk : KeepsBuffer out (unsealEnvelope G T F st blob out outCap) ↔
        KeepsBuffer out (aeadOpen G F a out) := by
      unfold KeepsBuffer
      rw [hbuf]
      exact forall_congr' fun e => by rw [herr e]
    rw [hk, aeadOpen_keeps_iff]
    constructor
    · intro h b hb
      exact hb.unique ha ▸ h
    · intro h
      exact h a ha

end

/-! ## A wrong tag -/

/-- The key stream of the key and nonce of the sample envelope. -/
def sampleKeyStream : Bytes := [0x98, 0x07, 0x06, 0x2e, 0x34, 0xf3, 0x93, 0x10, 0x7c, 0xd9, 0xbe]

/-- The cipher under the key of the sample envelope. -/
def sampleGcm : Gcm where
  text k n ct :=
    if k = sampleKek ∧ n = sampleNonce then ct.mapIdx fun i b => b ^^^ sampleKeyStream.getD i 0 else ct
  text_length k n ct := by split <;> simp
  verifies k n aad ct tag :=
    decide (k = sampleKek ∧ n = sampleNonce ∧ aad = sampleAad ∧ ct = sampleCiphertext ∧ tag = sampleTag)

/-- The sample envelope with one bit of its tag changed. -/
def tamperedTag : Blob 16 :=
  ⟨[0x10, 0x40, 0xbf, 0x7c, 0x11, 0x83, 0x63, 0x14, 0xc8, 0x78, 0x5a, 0xd3, 0xef, 0x6a, 0x3c, 0x37],
    rfl⟩

def tamperedEnvelope : Bytes := patchTag (sampleAad ++ sampleCiphertext) tamperedTag

def tamperedArgs : OpenArgs where
  kek := sampleKek
  nonce := sampleNonce
  aad := sampleAad
  ct := sampleCiphertext
  tag := tamperedTag

/-- Eleven bytes of the caller. -/
def blankOut : Bytes := List.replicate 11 0

theorem tampered_open : aeadOpen sampleGcm {} tamperedArgs blankOut =
    (.error .ebadmsg, (ascii "save file 7").map .text) := by decide +kernel

theorem tampered_unseal : unsealEnvelope sampleGcm sampleTpm {} true tamperedEnvelope blankOut 11 =
    (.error .ebadmsg, (ascii "save file 7").map .text) := by decide +kernel

/-- **Wrong tag.** Both calls refuse the text and leave it in the buffer. -/
theorem bad_tag_releases :
    ¬ KeepsBuffer blankOut (aeadOpen sampleGcm {} tamperedArgs blankOut) ∧
    ¬ KeepsBuffer blankOut
    (unsealEnvelope sampleGcm sampleTpm {} true tamperedEnvelope blankOut 11) := by
  have htext : (ascii "save file 7").map Cell.text ≠ untouched blankOut := by decide +kernel
  rw [tampered_open, tampered_unseal]
  exact ⟨fun h => htext (h .ebadmsg rfl), fun h => htext (h .ebadmsg rfl)⟩

end Lota.L6.OpenBuffer

import Lota.L4Sdk.ServerGo

/-!
# Token verification in the C server SDK (`sdk/lota_server.c`)

`lota_server_verify_token` makes the checks of the Go SDK over offsets into
one buffer, and four of its own: the AIK's encoding has at most 512 bytes,
the attest data is a quote, the PCR digest has the size of the token's hash
algorithm, and `valid_until` is at most two hours ahead.

* `parseTpmsAttest_eq`: on every byte string the C parser finds what the Go
  parser finds, or refuses an empty or oversized PCR digest.
* `verifyToken_ok_iff`: what acceptance means, in the terms of the Go
  checks.
-/
namespace Lota.L4.Server
open Lota.Core Lota.L1.Report Lota.L3.Signature Lota.L4.Token
open Lota.L4.Go (AttestParts selectMask)

/-- `enum lota_server_error`, without `LOTA_SERVER_OK`. -/
inductive ServerError where
  | invalidArg | badToken | badVersion | sigFail | nonceFail | expired | attestParse | crypto
  | buffer | future
  deriving DecidableEq, Repr

/-- mirrors src/sdk/lota_server.c:53-65 -/
def hashAlgDigestLen (hashAlg : UInt16) : Nat :=
  if hashAlg = tpmAlgSHA256 then 32
  else if hashAlg = tpmAlgSHA384 then 48
  else if hashAlg = tpmAlgSHA512 then 64
  else 0

def maxAikPubDerSize : Nat := 512
def maxPcrDigestSize : Nat := 64
def maxFutureValidUntilSec : Nat := 2 * 3600

/-! ## The header -/

/-- mirrors src/sdk/lota_server.c:337-402 -/
def parseWireHeader (data : Bytes) : Except ServerError TokenWire :=
  if data.length < tokenHeaderSize then .error .badToken
  else
    let hdr := TokenWire.decode data
    if hdr.magic ≠ tokenMagic then .error .badToken
    else if hdr.version ≠ tokenVersion then .error .badVersion
    else if hdr.totalSize.toNat > data.length ∨ hdr.totalSize.toNat < tokenHeaderSize
      then .error .badToken
    else if hashAlgDigestLen hdr.hashAlg = 0 then .error .badToken
    else if hdr.runtimeProtectVersion > runtimeProtectV2 then .error .badToken
    else if hdr.protectPIDCount.toNat > maxProtectPIDs then .error .badToken
    else if hdr.pidListSize.toNat > maxProtectPIDs * 4 then .error .badToken
    else if hdr.pidListSize ≠ UInt16.ofNat (hdr.protectPIDCount.toNat * 4) then .error .badToken
    else if tokenHeaderSize + hdr.pidListSize.toNat + hdr.imageListSize + hdr.attestSize.toNat +
      hdr.sigSize.toNat >
        hdr.totalSize.toNat then .error .badToken
    else if hdr.attestSize.toNat > 1024 ∨ hdr.sigSize.toNat > 512 then .error .badToken
    else .ok hdr

/-! ## The attest data -/

/-- The loop over the PCR selections from `off` on: `n` rounds to go, `i` the
counter, `bank` the bank of the rounds before.
mirrors src/sdk/lota_server.c:183-227 -/
def selectionLoop (data : Bytes) :
    (n i off : Nat) → (bank : UInt16) → (mask : UInt32) → Option (Nat × UInt32)
  | 0, _, off, _, mask => some (off, mask)
  | n + 1, i, off, bank, mask =>
    if off + 3 > data.length then none
    else
      let hashAlg := UInt16.ofNat (beAt data off 2)
      if i ≠ 0 ∧ hashAlg ≠ bank then none
      else if hashAlg ≠ tpmAlgSHA256 then none
      else
        let selectSize := UInt8.ofNat (leAt data (off + 2) 1)
        if off + 3 + selectSize.toNat > data.length then none
        else match selectMask 0 mask ((data.drop (off + 3)).take selectSize.toNat) with
        | none => none
        | some mask => selectionLoop data n (i + 1) (off + 3 + selectSize.toNat) hashAlg mask

/-- The quote information at `off`.
mirrors src/sdk/lota_server.c:169-246 -/
def parseQuote (data : Bytes) (off : Nat) : Option (UInt32 × Bytes) :=
  if off + 4 > data.length then none
  else
    let pcrSelCount := UInt32.ofNat (beAt data off 4)
    if pcrSelCount > 16 then none
    else match selectionLoop data pcrSelCount.toNat 0 (off + 4) 0 0 with
    | none => none
    | some (off, mask) =>
      if off + 2 > data.length then none
      else
        let digestSize := UInt16.ofNat (beAt data off 2)
        if off + 2 + digestSize.toNat > data.length then none
        else if digestSize = 0 ∨ digestSize.toNat > maxPcrDigestSize then none
        else some (mask, (data.drop (off + 2)).take digestSize.toNat)

/-- mirrors src/sdk/lota_server.c:116-257 -/
def parseTpmsAttest (data : Bytes) : Option AttestParts :=
  if data.length < 10 then none
  else if UInt32.ofNat (beAt data 0 4) ≠ 0xff544347 then none
  else
    let type := UInt16.ofNat (beAt data 4 2)
    if 6 + 2 > data.length then none
    else
      let signerSize := UInt16.ofNat (beAt data 6 2)
      if 8 + signerSize.toNat > data.length then none
      else
        let off := 8 + signerSize.toNat
        if off + 2 > data.length then none
        else
          let edSize := UInt16.ofNat (beAt data off 2)
          if off + 2 + edSize.toNat > data.length then none
          else
            let extraData := (data.drop (off + 2)).take edSize.toNat
            let off := off + 2 + edSize.toNat
            if off + 17 > data.length then none
            else if off + 17 + 8 > data.length then none
            else if type = 0x8018 then
              match parseQuote data (off + 17 + 8) with
              | none => none
              | some (pcrMask, pcrDigest) => some { extraData, pcrMask, pcrDigest := some pcrDigest }
            else some { extraData, pcrMask := 0, pcrDigest := none }

/-! ## The token -/

/-- mirrors src/sdk/lota_server.c:38-51 -/
def selectHashMd (hashAlg : UInt16) : Option CryptoHash :=
  if hashAlg = tpmAlgSHA256 then some .sha256
  else if hashAlg = tpmAlgSHA384 then some .sha384
  else if hashAlg = tpmAlgSHA512 then some .sha512
  else none

/-- OpenSSL decodes keys and verifies signatures as `K` does.
mirrors src/sdk/lota_server.c:259-335 -/
def verifyRsaSignature (K : Crypto) (attestData signature : Bytes) (sigAlg hashAlg : UInt16)
    (aikPubDer : Bytes) : Except ServerError Unit :=
  if aikPubDer.length = 0 then .error .invalidArg
  else if aikPubDer.length > maxAikPubDerSize then .error .invalidArg
  else match K.parsePKIXPublicKey aikPubDer with
  | .error _ => .error .crypto
  | .ok .other => .error .crypto
  | .ok (.rsa key) =>
    if key.bitLen < 2048 then .error .crypto
    else match selectHashMd hashAlg with
    | none => .error .sigFail
    | some md =>
      let verdict :=
        if sigAlg = tpmAlgRSAPSS then K.verifyPSS key md (K.sum md attestData) signature
        else if sigAlg = tpmAlgRSASSA then K.verifyPKCS1v15 key md (K.sum md attestData) signature
        else .error "unknown signature algorithm"
      match verdict with
      | .error _ => .error .sigFail
      | .ok () => .ok ()

/-- mirrors include/lota_server.h:80-97 -/
structure ServerClaims where
  validUntil : UInt64
  flags : UInt32
  nonce : Hash
  pcrMask : UInt32
  policyDigest : Hash
  runtimeProtectDigest : Hash
  runtimeProtectEpoch : UInt64
  protectPidCount : UInt32
  pcrDigest : Blob 64
  pcrDigestLen : Nat
  expired : Bool
  deriving DecidableEq

def claimsOf (hdr : TokenWire) (pcrDigest : Bytes) : ServerClaims :=
  { validUntil := hdr.validUntil, flags := hdr.flags, nonce := hdr.nonce, pcrMask := hdr.pcrMask,
    policyDigest := hdr.policy, runtimeProtectDigest := hdr.runtimeProtectDigest,
    runtimeProtectEpoch := hdr.runtimeProtectEpoch, protectPidCount := hdr.protectPIDCount,
    pcrDigest := toBlob 64 pcrDigest, pcrDigestLen := pcrDigest.length, expired := false }

/-- The runtime protect digest, if the PID list is canonical.
mirrors src/sdk/lota_server.c:452-486 -/
def runtimeProtectDigest (hdr : TokenWire) (tokenData : Bytes) : Option Hash :=
  let pidList := readPIDs hdr.protectPIDCount.toNat (tokenData.drop tokenHeaderSize)
  if canonicalPIDs pidList = false then none
  else if hdr.runtimeProtectVersion = runtimeProtectV2 then
    some (sha256
      (protectMessageV2 pidList
        ((tokenData.drop hdr.pidListEnd).take (hdr.protectPIDCount.toNat * 32))))
  else some (sha256 (protectMessageV1 pidList))

/-- `now + 7200`, or `UINT64_MAX` if that overflows.
mirrors src/sdk/lota_server.c:556-565 -/
def futureCutoff (now : UInt64) : UInt64 :=
  if now ≤ 0xFFFFFFFFFFFFFFFF - UInt64.ofNat maxFutureValidUntilSec then now +
    UInt64.ofNat maxFutureValidUntilSec
  else 0xFFFFFFFFFFFFFFFF

/-- `now` is `time(NULL)`. What a failed call leaves in `*claims` is not
modelled.
mirrors src/sdk/lota_server.c:404-582 -/
def verifyToken (K : Crypto) (tokenData aikPubDer : Bytes) (expectedNonce : Hash) (now : Int64) :
    Except ServerError ServerClaims :=
  if tokenData.length = 0 ∨ aikPubDer.length = 0 then .error .invalidArg
  else match parseWireHeader tokenData with
  | .error e => .error e
  | .ok hdr =>
    if hdr.attestSize = 0 ∨ hdr.sigSize = 0 then .error .badToken
    else match runtimeProtectDigest hdr tokenData with
    | none => .error .badToken
    | some digest =>
      if digest ≠ hdr.runtimeProtectDigest then .error .nonceFail
      else
        let attestData := hdr.attestData tokenData
        match verifyRsaSignature K attestData (hdr.signature tokenData) hdr.sigAlg hdr.hashAlg
          aikPubDer with
        | .error e => .error e
        | .ok () =>
          match parseTpmsAttest attestData with
          | none => .error .attestParse
          | some attest =>
            if attest.pcrMask ≠ hdr.pcrMask then .error .nonceFail
            else if attest.extraData ≠ (sha256 hdr.nonceMessage).toList then .error .nonceFail
            else if hdr.nonce ≠ expectedNonce then .error .nonceFail
            else if hashAlgDigestLen hdr.hashAlg = 0 then .error .sigFail
            else match attest.pcrDigest with
            | none => .error .attestParse
            | some pcrDigest =>
              if pcrDigest.length ≠ hashAlgDigestLen hdr.hashAlg then .error .attestParse
              else if pcrDigest.length > maxPcrDigestSize then .error .attestParse
              else if hdr.validUntil > futureCutoff now.toUInt64 then .error .future
              else if hdr.validUntil > 0 ∧ now.toUInt64 > hdr.validUntil then .error .expired
              else .ok (claimsOf hdr pcrDigest)

/-! ## One parser over offsets, one over a reader -/

/-- A reader's result without its error text. -/
def attempt {α : Type} (x : Reader α) (r : Bytes) : Option (α × Bytes) := (x.run r).toOption

section
variable {α β : Type} (r : Bytes)

theorem attempt_bind (x : Reader α) (f : α → Reader β) :
    attempt (x >>= f) r = (attempt x r).bind fun p => attempt (f p.1) p.2 := by
  unfold attempt
  cases h : x.run r with
  | error e => simp [bind, h, Except.toOption]
  | ok p =>
    rw [Reader.bind_run h]
    rfl

theorem attempt_wrap (msg : String) (x : Reader α) : attempt (.wrap msg x) r = attempt x r := by
  unfold attempt Reader.wrap
  cases h : x.run r <;> simp [h, Except.toOption]

theorem attempt_pure (a : α) : attempt (pure a : Reader α) r = some (a, r) := rfl

theorem attempt_fail (e : String) : attempt (.fail e : Reader α) r = none := rfl

end

section
variable (data : Bytes) {off : Nat}

theorem attempt_readFull (h : off ≤ data.length) (k : Nat) :
    attempt (readFull k) (data.drop off) =
      if off + k ≤ data.length then some ((data.drop off).take k, data.drop (off + k)) else none := by
  have hk : k ≤ (data.drop off).length ↔ off + k ≤ data.length := by
    rw [List.length_drop]
    omega
  unfold attempt readFull
  simp only [hk, List.drop_drop]
  split
  · rfl
  · split <;> rfl

theorem attempt_needLen (h : off ≤ data.length) (what : String) (k : Nat) :
    attempt (Go.needLen what k) (data.drop off) =
      if off + k ≤ data.length then some ((data.drop off).take k, data.drop (off + k)) else none := by
  have hk : k ≤ (data.drop off).length ↔ off + k ≤ data.length := by
    rw [List.length_drop]
    omega
  unfold attempt Go.needLen
  simp only [hk, List.drop_drop]
  split <;> rfl

theorem attempt_u16 (h : off ≤ data.length) :
    attempt readU16BE (data.drop off) =
      if off + 2 ≤ data.length then some (UInt16.ofNat (beAt data off 2), data.drop (off + 2))
        else none := by
  unfold readU16BE readBE
  simp only [attempt_bind, attempt_readFull data h]
  split <;> rfl

theorem attempt_u32 (h : off ≤ data.length) :
    attempt readU32BE (data.drop off) =
      if off + 4 ≤ data.length then some (UInt32.ofNat (beAt data off 4), data.drop (off + 4))
        else none := by
  unfold readU32BE readBE
  simp only [attempt_bind, attempt_readFull data h]
  split <;> rfl

theorem attempt_u8 (h : off ≤ data.length) :
    attempt readU8 (data.drop off) =
      if off + 1 ≤ data.length then some (UInt8.ofNat (leAt data off 1), data.drop (off + 1))
        else none := by
  unfold readU8 readLE
  simp only [attempt_bind, attempt_readFull data h]
  split <;> rfl

end

/-- The selection loops agree: every bank is SHA-256, so that banks are
never mixed. -/
theorem attempt_readSelections (data : Bytes) (n i : Nat) {off : Nat} (h : off ≤ data.length)
    {bank : UInt16}
    (hbank : i = 0 ∨ bank = tpmAlgSHA256) (mask : UInt32) :
    attempt (Go.readSelections n mask) (data.drop off) =
      (selectionLoop data n i off bank mask).map fun p => (p.2, data.drop p.1) := by
  induction n generalizing i off bank mask with
  | zero => rfl
  | succ n ih =>
    unfold Go.readSelections selectionLoop
    rw [attempt_bind, attempt_wrap, attempt_u16 data h]
    by_cases h3 : off + 3 ≤ data.length
    · rw [if_pos (by omega), if_neg (by omega), Option.bind_some]
      simp only
      by_cases halg : UInt16.ofNat (beAt data off 2) = tpmAlgSHA256
      · have hmix : ¬ (i ≠ 0 ∧ UInt16.ofNat (beAt data off 2) ≠ bank) := by
          intro hm
          rcases hbank with hi | hb
          · exact hm.1 hi
          · exact hm.2 (halg.trans hb.symm)
        rw [if_neg (not_not.mpr halg), if_neg hmix, if_neg (not_not.mpr halg),
          attempt_bind, attempt_wrap,
          attempt_u8 data (by omega), if_pos (by omega), Option.bind_some]
        simp only
        rw [attempt_bind, attempt_needLen data (by omega)]
        by_cases hsel : off + 3 + (UInt8.ofNat (leAt data (off + 2) 1)).toNat ≤ data.length
        · rw [if_pos (by omega), if_neg (by omega), Option.bind_some]
          simp only
          cases hm :
            selectMask 0 mask
            ((data.drop (off + 3)).take (UInt8.ofNat (leAt data (off + 2) 1)).toNat) with
          | none => exact attempt_fail _ _
          | some mask' => exact ih (i + 1) hsel (.inr halg) mask'
        · rw [if_neg (by omega), if_pos (by omega)]
          rfl
      · rw [if_pos halg, attempt_fail]
        split
        · rfl
        · rfl
    · rw [if_pos (by omega : off + 3 > data.length)]
      split
      · simp only [Option.bind_some]
        split
        · rfl
        · rw [attempt_bind, attempt_wrap, attempt_u8 data (by omega), if_neg (by omega)]
          rfl
      · rfl

theorem selectionLoop_le {data : Bytes} {n i off : Nat} (h : off ≤ data.length) {bank : UInt16}
    {mask : UInt32}
    {p : Nat × UInt32} (hp : selectionLoop data n i off bank mask = some p) : p.1 ≤ data.length := by
  induction n generalizing i off bank mask with
  | zero =>
    cases hp
    exact h
  | succ n ih =>
    unfold selectionLoop at hp
    simp only at hp
    split at hp
    · cases hp
    split at hp
    · cases hp
    split at hp
    · cases hp
    split at hp
    · cases hp
    rename_i hsel
    split at hp
    · cases hp
    exact ih (Nat.not_lt.mp hsel) hp

/-- The digest sizes the C parser lets through. -/
def digestSizeOK (d : Bytes) : Bool := d.length ≠ 0 ∧ d.length ≤ maxPcrDigestSize

theorem parseQuote_eq (data : Bytes) {off : Nat} (h : off ≤ data.length) :
    parseQuote data off = (attempt Go.readQuote (data.drop off)).bind fun p =>
      if digestSizeOK p.1.2 then some p.1 else none := by
  unfold parseQuote Go.readQuote
  rw [attempt_bind, attempt_wrap, attempt_u32 data h]
  by_cases h4 : off + 4 ≤ data.length
  case neg =>
    rw [if_pos (by omega), if_neg h4]
    rfl
  rw [if_neg (by omega), if_pos h4, Option.bind_some]
  simp only
  by_cases hcount : UInt32.ofNat (beAt data off 4) > 16
  · rw [if_pos hcount, if_pos hcount, attempt_fail]
    rfl
  rw [if_neg hcount, if_neg hcount, attempt_bind, attempt_readSelections data _ 0 h4 (.inl rfl) 0]
  cases hloop : selectionLoop data (UInt32.ofNat (beAt data off 4)).toNat 0 (off + 4) 0 0 with
  | none => rfl
  | some p =>
    obtain ⟨off', mask⟩ := p
    have hoff' : off' ≤ data.length := selectionLoop_le h4 hloop
    simp only [Option.map_some, Option.bind_some]
    rw [attempt_bind, attempt_wrap, attempt_u16 data hoff']
    by_cases h2 : off' + 2 ≤ data.length
    case neg =>
      rw [if_pos (by omega), if_neg h2]
      rfl
    rw [if_neg (by omega), if_pos h2, Option.bind_some]
    simp only
    rw [attempt_bind, attempt_needLen data h2]
    by_cases hd : off' + 2 + (UInt16.ofNat (beAt data off' 2)).toNat ≤ data.length
    case neg =>
      rw [if_pos (by omega), if_neg hd]
      rfl
    rw [if_neg (by omega), if_pos hd, Option.bind_some, attempt_pure, Option.bind_some]
    have hlen : ((data.drop (off' + 2)).take (UInt16.ofNat (beAt data off' 2)).toNat).length =
        (UInt16.ofNat (beAt data off' 2)).toNat := by
      rw [List.length_take, List.length_drop]
      omega
    have hok : digestSizeOK ((data.drop (off' + 2)).take (UInt16.ofNat (beAt data off' 2)).toNat) =
        true ↔
        ¬ (UInt16.ofNat (beAt data off' 2) = 0 ∨
          (UInt16.ofNat (beAt data off' 2)).toNat > maxPcrDigestSize) := by
      unfold digestSizeOK
      rw [hlen, decide_eq_true_eq, not_or, Nat.not_lt, ← UInt16.toNat_inj]
      rfl
    by_cases hbad : UInt16.ofNat (beAt data off' 2) = 0 ∨
      (UInt16.ofNat (beAt data off' 2)).toNat > maxPcrDigestSize
    · rw [if_pos hbad, if_neg (fun h => hok.mp h hbad)]
    · rw [if_neg hbad, if_pos (hok.mpr hbad)]

/-- A quote has a PCR digest the C parser lets through. -/
def digestOK (a : AttestParts) : Bool := a.pcrDigest.all digestSizeOK

/-- **Same parser.** On every byte string the C parser finds what the Go
parser finds, unless the quote's PCR digest is empty or longer than 64
bytes. -/
theorem parseTpmsAttest_eq (data : Bytes) :
    parseTpmsAttest data = (Go.parseTPMSAttest data).toOption.bind fun a =>
    if digestOK a then some a else none := by
  have hGo : (Go.parseTPMSAttest data).toOption =
      if data.length < 10 then none else (attempt Go.readAttest data).map Prod.fst := by
    unfold Go.parseTPMSAttest attempt
    split
    · rfl
    · cases Go.readAttest.run data <;> rfl
  rw [hGo]
  unfold parseTpmsAttest
  by_cases hlen : data.length < 10
  · rw [if_pos hlen, if_pos hlen]
    rfl
  rw [if_neg hlen, if_neg hlen]
  unfold Go.readAttest
  have h0 := attempt_u32 data (Nat.zero_le _)
  rw [List.drop_zero, Nat.zero_add, if_pos (by omega : 4 ≤ data.length)] at h0
  rw [attempt_bind, attempt_wrap, h0, Option.bind_some]
  simp only
  by_cases hmagic : UInt32.ofNat (beAt data 0 4) = 0xff544347
  case neg =>
    rw [if_pos hmagic, if_pos hmagic, attempt_fail]
    rfl
  rw [if_neg (not_not.mpr hmagic), if_neg (not_not.mpr hmagic), attempt_bind, attempt_wrap,
    attempt_u16 data (by omega),
    if_pos (by omega : 4 + 2 ≤ data.length), Option.bind_some,
    if_neg (by omega : ¬ 6 + 2 > data.length)]
  simp only
  rw [attempt_bind, attempt_wrap, attempt_u16 data (by omega : 4 + 2 ≤ data.length),
    if_pos (by omega : 4 + 2 + 2 ≤ data.length), Option.bind_some]
  simp only [Nat.reduceAdd]
  generalize hsigner : UInt16.ofNat (beAt data 6 2) = signerSize
  rw [attempt_bind, attempt_needLen data (by omega)]
  by_cases hs : 8 + signerSize.toNat ≤ data.length
  case neg =>
    rw [if_pos (by omega : 8 + signerSize.toNat > data.length), if_neg hs]
    rfl
  rw [if_neg (by omega : ¬ 8 + signerSize.toNat > data.length), if_pos hs, Option.bind_some]
  simp only
  generalize 8 + signerSize.toNat = off at hs ⊢
  rw [attempt_bind, attempt_wrap, attempt_u16 data hs]
  by_cases h2 : off + 2 ≤ data.length
  case neg =>
    rw [if_pos (by omega : off + 2 > data.length), if_neg h2]
    rfl
  rw [if_neg (by omega : ¬ off + 2 > data.length), if_pos h2, Option.bind_some]
  simp only
  generalize UInt16.ofNat (beAt data off 2) = edSize
  rw [attempt_bind, attempt_needLen data h2]
  by_cases he : off + 2 + edSize.toNat ≤ data.length
  case neg =>
    rw [if_pos (by omega : off + 2 + edSize.toNat > data.length), if_neg he]
    rfl
  rw [if_neg (by omega : ¬ off + 2 + edSize.toNat > data.length), if_pos he, Option.bind_some]
  simp only
  generalize (data.drop (off + 2)).take edSize.toNat = extraData
  generalize off + 2 + edSize.toNat = off' at he ⊢
  rw [attempt_bind, attempt_wrap, attempt_readFull data he]
  by_cases h17 : off' + 17 ≤ data.length
  case neg =>
    rw [if_pos (by omega : off' + 17 > data.length), if_neg h17]
    rfl
  rw [if_neg (by omega : ¬ off' + 17 > data.length), if_pos h17, Option.bind_some]
  simp only
  rw [attempt_bind, attempt_wrap, attempt_readFull data h17]
  by_cases h8 : off' + 17 + 8 ≤ data.length
  case neg =>
    rw [if_pos (by omega : off' + 17 + 8 > data.length), if_neg h8]
    rfl
  rw [if_neg (by omega : ¬ off' + 17 + 8 > data.length), if_pos h8, Option.bind_some]
  simp only
  by_cases htype : UInt16.ofNat (beAt data 4 2) = 0x8018
  · rw [if_pos htype, if_pos htype, parseQuote_eq data h8, attempt_bind]
    cases attempt Go.readQuote (data.drop (off' + 17 + 8)) with
    | none => rfl
    | some p =>
      obtain ⟨⟨mask, digest⟩, rest⟩ := p
      have hd : digestOK { extraData := extraData, pcrMask := mask, pcrDigest := some digest } =
        digestSizeOK digest := rfl
      simp only [Option.bind_some, attempt_pure, Option.map_some, hd]
      cases digestSizeOK digest <;> rfl
  · rw [if_neg htype, if_neg htype]
    rfl

theorem parseTpmsAttest_ok {data : Bytes} {a : AttestParts} :
    parseTpmsAttest data = some a ↔ Go.parseTPMSAttest data = .ok a ∧ digestOK a = true := by
  rw [parseTpmsAttest_eq]
  cases hp : Go.parseTPMSAttest data with
  | error e => simp [Except.toOption]
  | ok b =>
    simp only [Except.toOption, Option.bind_some, Except.ok.injEq]
    by_cases hok : digestOK b = true
    · rw [if_pos hok]
      constructor
      · rintro ⟨⟩
        exact ⟨rfl, hok⟩
      · rintro ⟨rfl, -⟩
        rfl
    · rw [if_neg hok]
      constructor
      · rintro ⟨⟩
      · rintro ⟨rfl, hok'⟩
        exact absurd hok' hok

/-! ## The header and the signature, against the Go checks -/

theorem hashAlgDigestLen_pos {hashAlg : UInt16} :
    hashAlgDigestLen hashAlg ≠ 0 ↔ ∃ md, selectHashMd hashAlg = some md := by
  unfold hashAlgDigestLen selectHashMd
  split
  · simp
  split
  · simp
  split <;> simp

theorem selectHashMd_eq {hashAlg : UInt16} {md : CryptoHash} :
    selectHashMd hashAlg = some md ↔ Go.tpmHashAlgToCryptoHash hashAlg = .ok md := by
  unfold selectHashMd Go.tpmHashAlgToCryptoHash
  split
  · simp
  split
  · simp
  split <;> simp

theorem hashAlgDigestLen_le (hashAlg : UInt16) : hashAlgDigestLen hashAlg ≤ maxPcrDigestSize := by
  unfold hashAlgDigestLen maxPcrDigestSize
  split
  · omega
  split
  · omega
  split <;> omega

/-- The header passes in C exactly when it passes in Go and names a known
hash: the extra bound on the list size follows from the PID count. -/
theorem parseWireHeader_ok {data : Bytes} {hdr : TokenWire} :
    parseWireHeader data = .ok hdr ↔ Go.HeaderOK data hdr ∧ hashAlgDigestLen hdr.hashAlg ≠ 0 := by
  have hsize : ∀ w : TokenWire, UInt16.ofNat (w.protectPIDCount.toNat * 4) =
      (w.protectPIDCount * 4).toUInt16 := by
    intro w
    apply UInt16.toNat_inj.mp
    rw [UInt16.toNat_ofNat', UInt32.toNat_toUInt16, UInt32.toNat_mul]
    show _ = w.protectPIDCount.toNat * 4 % 2 ^ 32 % 2 ^ 16
    omega
  unfold parseWireHeader
  simp only [except_guard_ok, Except.ok.injEq, not_or, not_not, Nat.not_lt, gt_iff_lt,
    UInt16.not_lt, ne_eq]
  constructor
  · intro h
    obtain ⟨hlen, hmagic, hversion, htotal, halg, hpv, hcount, -, hpid, hfits, ⟨hs1, hs2⟩, rfl⟩ := h
    exact ⟨⟨rfl, hlen, hmagic, hversion, htotal, hpv, hcount, hpid.trans (hsize _), hfits,
      hs1, hs2⟩, halg⟩
  · intro ⟨h, halg⟩
    have hmax : hdr.pidListSize.toNat ≤ maxProtectPIDs * 4 := by
      have hc := h.count
      have hp := h.pidListSize_toNat
      omega
    obtain ⟨rfl, hlen, hmagic, hversion, htotal, hpv, hcount, hpid, hfits, hs1, hs2⟩ := h
    exact ⟨hlen, hmagic, hversion, htotal, halg, hpv, hcount, hmax, hpid.trans (hsize _).symm,
      hfits, ⟨hs1, hs2⟩, rfl⟩

/-- What the C SDK asks of the AIK's encoding. -/
def AikOK (der : Bytes) : Prop := der.length ≠ 0 ∧ der.length ≤ maxAikPubDerSize

theorem verifyRsaSignature_ok {K : Crypto} {attestData signature der : Bytes}
    {sigAlg hashAlg : UInt16} :
    verifyRsaSignature K attestData signature sigAlg hashAlg der = .ok () ↔
      AikOK der ∧ ∃ key, K.parsePKIXPublicKey der = .ok (.rsa key) ∧ 2048 ≤ key.bitLen ∧
        Go.verifyRSASignature K attestData signature sigAlg hashAlg key = .ok () := by
  constructor
  · intro h
    unfold verifyRsaSignature at h
    split at h
    · cases h
    rename_i h0
    split at h
    · cases h
    rename_i hmax
    split at h
    · cases h
    · cases h
    rename_i key hkey
    split at h
    · cases h
    rename_i hbits
    split at h
    · cases h
    rename_i md hmd
    refine ⟨⟨h0, Nat.not_lt.mp hmax⟩, key, hkey, Nat.not_lt.mp hbits, ?_⟩
    simp only at h
    unfold Go.verifyRSASignature
    rw [selectHashMd_eq.mp hmd]
    simp only
    by_cases hpss : sigAlg = tpmAlgRSAPSS
    · rw [if_pos hpss] at h ⊢
      split at h
      · cases h
      · assumption
    rw [if_neg hpss] at h ⊢
    by_cases hssa : sigAlg = tpmAlgRSASSA
    · rw [if_pos hssa] at h ⊢
      split at h
      · cases h
      · assumption
    rw [if_neg hssa] at h
    cases h
  · intro ⟨haik, key, hkey, hbits, h⟩
    unfold verifyRsaSignature
    rw [if_neg haik.1, if_neg (Nat.not_lt.mpr haik.2), hkey]
    simp only
    rw [if_neg (Nat.not_lt.mpr hbits)]
    unfold Go.verifyRSASignature at h
    split at h
    · cases h
    rename_i md hmd
    simp only at h
    rw [selectHashMd_eq.mpr hmd]
    simp only
    by_cases hpss : sigAlg = tpmAlgRSAPSS
    · rw [if_pos hpss] at h ⊢
      rw [h]
    rw [if_neg hpss] at h ⊢
    by_cases hssa : sigAlg = tpmAlgRSASSA
    · rw [if_pos hssa] at h ⊢
      rw [h]
    rw [if_neg hssa] at h
    cases h

/-- Up to 1024 PIDs the two servers read the list from the same bytes. -/
theorem readPIDs_take (n : Nat) (data : Bytes) : readPIDs n (data.take (4 * n)) = readPIDs n data := by
  induction n generalizing data with
  | zero => rfl
  | succ n ih =>
    have hword : leAt (data.take (4 * (n + 1))) 0 4 = leAt data 0 4 := by
      unfold leAt
      rw [List.drop_zero, List.drop_zero, List.take_take, Nat.min_eq_left (by omega)]
    have hrest : (data.take (4 * (n + 1))).drop 4 = (data.drop 4).take (4 * n) := by
      rw [List.drop_take]
      congr 1
    rw [readPIDs, readPIDs, hword, hrest, ih]

theorem runtimeProtectDigest_ok {data : Bytes} {hdr : TokenWire} (h : Go.HeaderOK data hdr)
    {digest : Hash} : runtimeProtectDigest hdr data = some digest ↔
      canonicalPIDs (hdr.pids data) = true ∧ sha256 (hdr.protectMessage data) = digest := by
  have hpids : readPIDs hdr.protectPIDCount.toNat (data.drop tokenHeaderSize) = hdr.pids data := by
    unfold TokenWire.pids TokenWire.pidListData
    rw [h.pidListSize_toNat, readPIDs_take]
  have himgs : hdr.runtimeProtectVersion = runtimeProtectV2 →
      (data.drop hdr.pidListEnd).take (hdr.protectPIDCount.toNat * 32) = hdr.imageListData data := by
    intro hv
    unfold TokenWire.imageListData TokenWire.imageListSize
    rw [if_pos hv]
    rfl
  rw [← Go.runtimeDigest_eq]
  unfold runtimeProtectDigest
  simp only [hpids]
  cases hc : canonicalPIDs (hdr.pids data) with
  | false => simp
  | true =>
    by_cases hv : hdr.runtimeProtectVersion = runtimeProtectV2
    · simp [hv, himgs hv]
    · simp [hv]

/-! ## Acceptance -/

/-- A signature that verifies names a known hash. -/
theorem hashAlg_of_signed {K : Crypto} {data : Bytes} {key : RSAPublicKey} {nonce : Bytes}
    {hdr : TokenWire}
    {attest : AttestParts} (h : Go.Checked K data key nonce hdr attest) :
    hashAlgDigestLen hdr.hashAlg ≠ 0 := by
  have hs := h.signed
  unfold Go.verifyRSASignature at hs
  split at hs
  · cases hs
  rename_i md hmd
  exact hashAlgDigestLen_pos.mpr ⟨md, selectHashMd_eq.mpr hmd⟩

/-- A PCR digest of the size of a known hash passes the parser. -/
theorem digestOK_of_size {hashAlg : UInt16} {attest : AttestParts} {d : Bytes}
    (halg : hashAlgDigestLen hashAlg ≠ 0)
    (hd : attest.pcrDigest = some d) (hlen : d.length = hashAlgDigestLen hashAlg) :
    digestOK attest = true := by
  have hmax := hashAlgDigestLen_le hashAlg
  unfold digestOK
  rw [hd]
  simp only [Option.all_some, digestSizeOK, decide_eq_true_eq]
  omega

/-- The rules only the C SDK has: the AIK's encoding, the PCR digest of a
quote, and the unsigned clock with its horizon. -/
structure ServerRules (der : Bytes) (hdr : TokenWire) (attest : AttestParts) (now : Int64) : Prop where
  aik : AikOK der
  digest : ∃ d, attest.pcrDigest = some d ∧ d.length = hashAlgDigestLen hdr.hashAlg
  horizon : hdr.validUntil ≤ futureCutoff now.toUInt64
  live : hdr.validUntil = 0 ∨ now.toUInt64 ≤ hdr.validUntil

theorem verifyToken_ok_iff {K : Crypto} {data der : Bytes} {nonce : Hash} {now : Int64}
    {c : ServerClaims} : verifyToken K data der nonce now = .ok c ↔ ∃ hdr attest key d,
      K.parsePKIXPublicKey der = .ok (.rsa key) ∧ 2048 ≤ key.bitLen ∧
      Go.Checked K data key nonce.toList hdr attest ∧ ServerRules der hdr attest now ∧
      attest.pcrDigest = some d ∧ c = claimsOf hdr d := by
  constructor
  · intro h
    unfold verifyToken at h
    obtain ⟨-, h⟩ := except_guard_ok.mp h
    cases hhdr : parseWireHeader data with
    | error e => rw [hhdr] at h; cases h
    | ok hdr =>
    rw [hhdr] at h
    obtain ⟨hH, halg⟩ := parseWireHeader_ok.mp hhdr
    obtain ⟨hsizes, h⟩ := except_guard_ok.mp h
    obtain ⟨hs1, hs2⟩ := not_or.mp hsizes
    cases hdigest : runtimeProtectDigest hdr data with
    | none => rw [hdigest] at h; cases h
    | some digest =>
    rw [hdigest] at h
    obtain ⟨hcanon, hsum⟩ := (runtimeProtectDigest_ok hH).mp hdigest
    obtain ⟨heq, h⟩ := except_guard_ok.mp h
    cases hsig : verifyRsaSignature K (hdr.attestData data) (hdr.signature data) hdr.sigAlg
      hdr.hashAlg der with
    | error e => simp only [hsig] at h; cases h
    | ok u =>
    simp only [hsig] at h
    obtain ⟨haik, key, hkey, hbits, hsigned⟩ := verifyRsaSignature_ok.mp hsig
    cases hparse : parseTpmsAttest (hdr.attestData data) with
    | none => rw [hparse] at h; cases h
    | some attest =>
    rw [hparse] at h
    have hgo := (parseTpmsAttest_ok.mp hparse).1
    obtain ⟨hmask, h⟩ := except_guard_ok.mp h
    obtain ⟨hextra, h⟩ := except_guard_ok.mp h
    obtain ⟨hnonce, h⟩ := except_guard_ok.mp h
    obtain ⟨-, h⟩ := except_guard_ok.mp h
    cases hd : attest.pcrDigest with
    | none => rw [hd] at h; cases h
    | some d =>
    rw [hd] at h
    obtain ⟨hlen, h⟩ := except_guard_ok.mp h
    obtain ⟨-, h⟩ := except_guard_ok.mp h
    obtain ⟨hfut, h⟩ := except_guard_ok.mp h
    obtain ⟨hexp, hc⟩ := except_guard_ok.mp h
    have hchecked : Go.Checked K data key nonce.toList hdr attest :=
      ⟨hH, hs1, hs2, hcanon, hsum.trans (not_not.mp heq), hsigned, hgo, not_not.mp hmask,
        not_not.mp hextra, congrArg List.Vector.toList (not_not.mp hnonce)⟩
    have hlive : hdr.validUntil = 0 ∨ now.toUInt64 ≤ hdr.validUntil := by
      rw [← UInt64.not_lt]
      exact not_expired_iff.mp hexp
    exact ⟨hdr, attest, key, d, hkey, hbits, hchecked,
      ⟨haik, ⟨d, hd, not_not.mp hlen⟩, UInt64.not_lt.mp hfut, hlive⟩, hd, (Except.ok.inj hc).symm⟩
  · intro h
    obtain ⟨hdr, attest, key, d, hkey, hbits, hc, hr, hd, rfl⟩ := h
    obtain ⟨d', hd', hlen⟩ := hr.digest
    cases hd.symm.trans hd'
    have halg := hashAlg_of_signed hc
    have hmax := hashAlgDigestLen_le hdr.hashAlg
    have hne : data.length ≠ 0 := by
      have hl := hc.header.length
      unfold tokenHeaderSize at hl
      omega
    have hparse : parseTpmsAttest (hdr.attestData data) = some attest :=
      parseTpmsAttest_ok.mpr ⟨hc.parsed, digestOK_of_size halg hd hlen⟩
    have hnonce : hdr.nonce = nonce := List.Vector.toList_injective hc.nonce
    have hexp : ¬ (hdr.validUntil > 0 ∧ now.toUInt64 > hdr.validUntil) := by
      rw [not_expired_iff]
      exact hr.live.imp_right UInt64.not_lt.mpr
    unfold verifyToken
    rw [if_neg (not_or.mpr ⟨hne, hr.aik.1⟩), parseWireHeader_ok.mpr ⟨hc.header, halg⟩]
    simp only
    rw [if_neg (not_or.mpr ⟨hc.attestSize, hc.sigSize⟩),
      (runtimeProtectDigest_ok hc.header).mpr ⟨hc.pids, rfl⟩]
    simp only
    rw [if_neg (not_not.mpr hc.digest), verifyRsaSignature_ok.mpr ⟨hr.aik, key, hkey, hbits, hc.signed⟩]
    simp only
    rw [hparse]
    simp only
    rw [if_neg (not_not.mpr hc.pcrMask), if_neg (not_not.mpr hc.extraData),
      if_neg (not_not.mpr hnonce), if_neg halg, hd]
    simp only
    rw [if_neg (not_not.mpr hlen), if_neg (by omega), if_neg (UInt64.not_lt.mpr hr.horizon),
      if_neg hexp]

end Lota.L4.Server

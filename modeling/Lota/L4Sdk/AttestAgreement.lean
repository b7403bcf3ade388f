import Lota.Core.OffsetReader
import Lota.L4Sdk.ServerC
import Lota.L4Sdk.TokenBinding

/-!
# Three parsers of TPMS_ATTEST

The verifier (`verifier/verify/attest.go`), the Go SDK (`sdk/server/verify.go`)
and the C SDK (`sdk/lota_server.c`) each read the TPM's quote by hand. Here the
three are written once more with an offset into the input and reads that fault
outside of it, and shown to be the parsers of the modules before.

* `parseTPMSAttest_eq` (twice) and `parseTpmsAttest_eq`: no read faults.
* `testBit_selectMask`, `testBit_foldlM_selectMask`: the mask has the bits of
  the selections.
* `attest_parsers_agree`: the three find in a quote what was encoded.
-/

/-! ## The verifier -/

namespace Lota.L1.Attest.Checked
open Lota.Core Lota.L1.Report

/-- mirrors src/verifier/verify/attest.go:155-182 -/
def readSelections : (n i : Nat) → (alg : UInt16) → (buf : Bytes) → OReader (UInt16 × Bytes)
  | 0, _, alg, buf => pure (alg, buf)
  | n + 1, i, alg, buf => do
    let hashAlg ← OReader.readU16BE
    if i ≠ 0 ∧ hashAlg ≠ alg then
      .fail ("mixed PCR hash algorithms in TPMS_ATTEST: 0x" ++ fmtX 4 alg.toNat ++ " and 0x" ++
        fmtX 4 hashAlg.toNat)
    else
      let sizeOfSelect ← OReader.readU8
      let selectBytes ← OReader.readFull sizeOfSelect.toNat
      readSelections n (i + 1) hashAlg
        (buf ++ (toBE 2 hashAlg.toNat ++ (toLE 1 sizeOfSelect.toNat ++ selectBytes)))

/-- mirrors src/verifier/verify/attest.go:128-193 -/
def parseQuoteInfo : OReader QuoteInfo := do
  let count ← .wrap "failed to read PCR selection count" OReader.readU32BE
  if count > 16 then .fail ("PCR selection count too large: " ++ toString count.toNat)
  else
    let (pcrHashAlg, pcrSelect) ← readSelections count.toNat 0 0 (toBE 4 count.toNat)
    let digestSize ← .wrap "failed to read PCR digest size" OReader.readU16BE
    let pcrDigest ← .wrap "failed to read PCR digest" (OReader.readFull digestSize.toNat)
    pure { pcrSelect, pcrDigest, pcrHashAlg }

/-- mirrors src/verifier/verify/attest.go:60-113 -/
def readAttestCommon : OReader TPMSAttest := do
  let magic ← .wrap "failed to read magic" OReader.readU32BE
  if magic ≠ tpmGeneratedValue then
    .fail ("invalid TPM magic: 0x" ++ fmtX 8 magic.toNat ++ " (expected 0x" ++
      fmtX 8 tpmGeneratedValue.toNat ++ ")")
  else
    let type ← .wrap "failed to read type" OReader.readU16BE
    let signerSize ← .wrap "failed to read signer size" OReader.readU16BE
    let qualifiedSigner ← .wrap "failed to read signer" (OReader.readFull signerSize.toNat)
    let extraDataSize ← .wrap "failed to read extraData size" OReader.readU16BE
    let extraData ← .wrap "failed to read extraData" (OReader.readFull extraDataSize.toNat)
    let clock ← .wrap "failed to read clock" OReader.readU64BE
    let resetCount ← .wrap "failed to read resetCount" OReader.readU32BE
    let restartCount ← .wrap "failed to read restartCount" OReader.readU32BE
    let safeByte ← .wrap "failed to read safe" OReader.readU8
    let firmwareVersion ← .wrap "failed to read firmwareVersion" OReader.readU64BE
    pure { magic, type, qualifiedSigner, extraData,
           clockInfo := { clock, resetCount, restartCount, safe := safeByte != 0 },
           firmwareVersion, quoteInfo := none }

def readAttest : OReader TPMSAttest := do
  let attest ← readAttestCommon
  if attest.type = tpmSTAttestQuote then
    let quoteInfo ← .wrap "failed to parse quote info" parseQuoteInfo
    pure { attest with quoteInfo := some quoteInfo }
  else pure attest

/-- mirrors src/verifier/verify/attest.go:52-125 (`ParseTPMSAttest`) -/
def parseTPMSAttest (data : Bytes) : Except (Stop String) TPMSAttest :=
  if data.length < 20 then .error (.err "attest data too short")
  else (readAttest.run data 0).map Prod.fst

theorem readSelections_as (n i : Nat) (alg : UInt16) (buf : Bytes) :
    ReadsAs (readSelections n i alg buf) (Attest.readSelections n i alg buf) := by
  induction n generalizing i alg buf with
  | zero => exact .pure _
  | succ n ih =>
    refine ReadsAs.readU16BE.bind fun hashAlg => .ite (.fail _) ?_
    refine ReadsAs.readU8.bind fun size => (ReadsAs.readFull _).bind fun bytes => ?_
    exact ih _ _ _

theorem parseQuoteInfo_as : ReadsAs parseQuoteInfo Attest.parseQuoteInfo := by
  refine (ReadsAs.readU32BE.wrap _).bind fun count => .ite (.fail _) ?_
  refine (readSelections_as _ _ _ _).bind fun p => (ReadsAs.readU16BE.wrap _).bind fun size => ?_
  exact ((ReadsAs.readFull _).wrap _).bind fun _ => .pure _

theorem readAttestCommon_as : ReadsAs readAttestCommon Attest.readAttestCommon := by
  refine (ReadsAs.readU32BE.wrap _).bind fun magic => .ite (.fail _) ?_
  refine (ReadsAs.readU16BE.wrap _).bind fun type =>
    (ReadsAs.readU16BE.wrap _).bind fun signerSize => ?_
  refine ((ReadsAs.readFull _).wrap _).bind fun signer =>
    (ReadsAs.readU16BE.wrap _).bind fun extraDataSize => ?_
  refine ((ReadsAs.readFull _).wrap _).bind fun extraData =>
    (ReadsAs.readU64BE.wrap _).bind fun clock => ?_
  refine (ReadsAs.readU32BE.wrap _).bind fun resetCount =>
    (ReadsAs.readU32BE.wrap _).bind fun restartCount => ?_
  exact (ReadsAs.readU8.wrap _).bind fun safe => (ReadsAs.readU64BE.wrap _).bind fun _ => .pure _

theorem readAttest_as : ReadsAs readAttest Attest.readAttest :=
  readAttestCommon_as.bind fun _ => .ite ((parseQuoteInfo_as.wrap _).bind fun _ => .pure _) (.pure _)

theorem parseTPMSAttest_eq (data : Bytes) :
    parseTPMSAttest data = liftErr (Attest.parseTPMSAttest data) := by
  unfold parseTPMSAttest Attest.parseTPMSAttest
  split
  · rfl
  · exact readAttest_as.run_eq data

end Lota.L1.Attest.Checked

/-! ## The Go SDK -/

namespace Lota.L4.Go.Checked
open Lota.Core Lota.L1.Report Lota.L4.Token

/-- `if int(n) > r.Len() { return err }`, then `io.ReadFull` into a buffer of
`n` bytes. -/
def needLen (what msg : String) (n : Nat) : OReader Bytes := ⟨fun data off =>
  if n > data.length - off then .error (.err (what ++ s!": need {n} bytes, have {data.length - off}"))
  else ((OReader.readFull n).wrap msg).run data off⟩

/-- mirrors src/sdk/server/verify.go:708-734 -/
def readSelections : Nat → (pcrMask : UInt32) → OReader UInt32
  | 0, pcrMask => pure pcrMask
  | n + 1, pcrMask => do
    let hashAlg ← .wrap "read pcr selection hash alg" OReader.readU16BE
    if hashAlg ≠ tpmAlgSHA256 then
      .fail ("unsupported/mixed PCR bank hash alg: 0x" ++ fmtX 4 hashAlg.toNat)
    else
      let selectSize ← .wrap "read pcr selection sizeofSelect" OReader.readU8
      let selectBuf ← needLen "pcr selection truncated" "read pcr selection" selectSize.toNat
      match selectMask 0 pcrMask selectBuf with
      | none => .fail "pcr selection contains unsupported PCR index >= 24"
      | some pcrMask => readSelections n pcrMask

/-- mirrors src/sdk/server/verify.go:697-747 -/
def readQuote : OReader (UInt32 × Bytes) := do
  let pcrSelCount ← .wrap "read pcr selection count" OReader.readU32BE
  if pcrSelCount > 16 then .fail s!"pcr selection count too large: {pcrSelCount.toNat}"
  else
    let pcrMask ← readSelections pcrSelCount.toNat 0
    let digestSize ← .wrap "read pcrDigest size" OReader.readU16BE
    let pcrDigest ← needLen "pcrDigest truncated" "read pcrDigest" digestSize.toNat
    pure (pcrMask, pcrDigest)

/-- mirrors src/sdk/server/verify.go:642-749 -/
def readAttest : OReader AttestParts := do
  let magic ← .wrap "read magic" OReader.readU32BE
  if magic ≠ 0xff544347 then .fail (errBadMagic ++ ": got 0x" ++ fmtX 8 magic.toNat)
  else
    let attestType ← .wrap "read type" OReader.readU16BE
    let signerSize ← .wrap "read signer size" OReader.readU16BE
    let _ ← needLen "qualifiedSigner truncated" "read signer" signerSize.toNat
    let extraSize ← .wrap "read extraData size" OReader.readU16BE
    let extraData ← needLen "extraData truncated" "read extraData" extraSize.toNat
    let _ ← .wrap "read clockInfo" (OReader.readFull 17)
    let _ ← .wrap "read firmwareVersion" (OReader.readFull 8)
    if attestType = 0x8018 then
      let (pcrMask, pcrDigest) ← readQuote
      pure { extraData, pcrMask, pcrDigest := some pcrDigest }
    else pure { extraData, pcrMask := 0, pcrDigest := none }

/-- mirrors src/sdk/server/verify.go:637-752 -/
def parseTPMSAttest (data : Bytes) : Except (Stop String) AttestParts :=
  if data.length < 10 then .error (.err s!"attest data too short: {data.length} bytes")
  else (readAttest.run data 0).map Prod.fst

theorem needLen_as (what msg : String) (n : Nat) :
    ReadsAs (needLen what msg n) (Go.needLen what n) := by
  intro data off hoff
  have hlen : (data.drop off).length = data.length - off := List.length_drop
  by_cases h : n ≤ data.length - off
  · -- the read behind the test cannot fail
    have hread := (ReadsAs.readFull n).wrap msg data off hoff
    have hrun : ((Lota.Core.readFull n).wrap msg).run (data.drop off) =
        .ok ((data.drop off).take n, (data.drop off).drop n) := by
      simp only [Reader.wrap, Lota.Core.readFull, hlen, if_pos h]
    have hneed : (Go.needLen what n).run (data.drop off) =
        .ok ((data.drop off).take n, (data.drop off).drop n) := by
      simp only [Go.needLen, hlen, if_pos h]
    have hx : (needLen what msg n).run data off = ((OReader.readFull n).wrap msg).run data off :=
      if_neg (Nat.not_lt.mpr h)
    rw [hneed, hx, ← hrun]
    exact hread
  · refine Or.inl ⟨_, ?_, if_pos (Nat.not_le.mp h)⟩
    simp only [Go.needLen, hlen, if_neg h]

theorem readSelections_as (n : Nat) (mask : UInt32) :
    ReadsAs (readSelections n mask) (Go.readSelections n mask) := by
  induction n generalizing mask with
  | zero => exact .pure _
  | succ n ih =>
    refine (ReadsAs.readU16BE.wrap _).bind fun hashAlg => .ite (.fail _) ?_
    refine (ReadsAs.readU8.wrap _).bind fun size => (needLen_as _ _ _).bind fun buf => ?_
    cases selectMask 0 mask buf with
    | none => exact .fail _
    | some mask' => exact ih mask'

theorem readQuote_as : ReadsAs readQuote Go.readQuote := by
  refine (ReadsAs.readU32BE.wrap _).bind fun count => .ite (.fail _) ?_
  refine (readSelections_as _ _).bind fun mask => (ReadsAs.readU16BE.wrap _).bind fun size => ?_
  exact (needLen_as _ _ _).bind fun _ => .pure _

theorem readAttest_as : ReadsAs readAttest Go.readAttest := by
  refine (ReadsAs.readU32BE.wrap _).bind fun magic => .ite (.fail _) ?_
  refine (ReadsAs.readU16BE.wrap _).bind fun type =>
    (ReadsAs.readU16BE.wrap _).bind fun signerSize => ?_
  refine (needLen_as _ _ _).bind fun signer => (ReadsAs.readU16BE.wrap _).bind fun extraSize => ?_
  refine (needLen_as _ _ _).bind fun extraData => ((ReadsAs.readFull _).wrap _).bind fun clock => ?_
  refine ((ReadsAs.readFull _).wrap _).bind fun firmware => .ite ?_ (.pure _)
  exact readQuote_as.bind fun p => .pure _

theorem parseTPMSAttest_eq (data : Bytes) :
    parseTPMSAttest data = liftErr (Go.parseTPMSAttest data) := by
  unfold parseTPMSAttest Go.parseTPMSAttest
  split
  · rfl
  · exact readAttest_as.run_eq data

end Lota.L4.Go.Checked

/-! ## The C SDK -/

namespace Lota.L4.Server.Checked
open Lota.Core Lota.L1.Report Lota.L4.Token
open Lota.L4.Go (AttestParts selectMask)

/-- `return -1`. -/
def reject {α : Type} : Except (Stop Unit) α := .error (.err ())

def orReject {α : Type} (x : Option α) : Except (Stop Unit) α := x.elim reject .ok

/-- mirrors src/sdk/lota_server.c:72-75 -/
def readBe16 (data : Bytes) (off : Nat) : Except (Stop Unit) UInt16 :=
  (load data off 2).map fun b => UInt16.ofNat (ofBE b)

/-- mirrors src/sdk/lota_server.c:77-81 -/
def readBe32 (data : Bytes) (off : Nat) : Except (Stop Unit) UInt32 :=
  (load data off 4).map fun b => UInt32.ofNat (ofBE b)

/-- `data[off]`. -/
def byteAt (data : Bytes) (off : Nat) : Except (Stop Unit) UInt8 :=
  (load data off 1).map fun b => UInt8.ofNat (ofLE b)

/-- The loop over the bytes of one `pcrSelect`: `n` rounds to go.
mirrors src/sdk/lota_server.c:213-225 -/
def selectLoop (data : Bytes) (off : Nat) : (n j : Nat) → (mask : UInt32) → Except (Stop Unit) UInt32
  | 0, _, mask => .ok mask
  | n + 1, j, mask => do
    let sel ← byteAt data (off + j)
    if j < 3 then selectLoop data off n (j + 1) (mask ||| sel.toUInt32 <<< UInt32.ofNat (8 * j))
    else if sel ≠ 0 then reject
    else selectLoop data off n (j + 1) mask

/-- mirrors src/sdk/lota_server.c:183-227 -/
def selectionLoop (data : Bytes) : (n i off : Nat) → (bank : UInt16) → (mask : UInt32) →
    Except (Stop Unit) (Nat × UInt32)
  | 0, _, off, _, mask => .ok (off, mask)
  | n + 1, i, off, bank, mask =>
    if off + 3 > data.length then reject
    else do
      let hashAlg ← readBe16 data off
      if i ≠ 0 ∧ hashAlg ≠ bank then reject
      else if hashAlg ≠ tpmAlgSHA256 then reject
      else
        let selectSize ← byteAt data (off + 2)
        if off + 3 + selectSize.toNat > data.length then reject
        else
          let mask ← selectLoop data (off + 3) selectSize.toNat 0 mask
          selectionLoop data n (i + 1) (off + 3 + selectSize.toNat) hashAlg mask

/-- mirrors src/sdk/lota_server.c:169-246 -/
def parseQuote (data : Bytes) (off : Nat) : Except (Stop Unit) (UInt32 × Bytes) :=
  if off + 4 > data.length then reject
  else do
    let pcrSelCount ← readBe32 data off
    if pcrSelCount > 16 then reject
    else
      let (off, mask) ← selectionLoop data pcrSelCount.toNat 0 (off + 4) 0 0
      if off + 2 > data.length then reject
      else
        let digestSize ← readBe16 data off
        if off + 2 + digestSize.toNat > data.length then reject
        else if digestSize = 0 ∨ digestSize.toNat > maxPcrDigestSize then reject
        else
          let pcrDigest ← load data (off + 2) digestSize.toNat
          pure (mask, pcrDigest)

/-- The pointers that are handed out are read by the caller, so the slices are
loaded here.
mirrors src/sdk/lota_server.c:116-257 -/
def parseTpmsAttest (data : Bytes) : Except (Stop Unit) AttestParts :=
  if data.length < 10 then reject
  else do
    let magic ← readBe32 data 0
    if magic ≠ 0xff544347 then reject
    else
      let type ← readBe16 data 4
      if 6 + 2 > data.length then reject
      else
        let signerSize ← readBe16 data 6
        if 8 + signerSize.toNat > data.length then reject
        else
          let off := 8 + signerSize.toNat
          if off + 2 > data.length then reject
          else
            let edSize ← readBe16 data off
            if off + 2 + edSize.toNat > data.length then reject
            else
              let extraData ← load data (off + 2) edSize.toNat
              let off := off + 2 + edSize.toNat
              if off + 17 > data.length then reject
              else if off + 17 + 8 > data.length then reject
              else if type = 0x8018 then
                let (pcrMask, pcrDigest) ← parseQuote data (off + 17 + 8)
                pure { extraData, pcrMask, pcrDigest := some pcrDigest }
              else pure { extraData, pcrMask := 0, pcrDigest := none }

theorem ok_bind {α β : Type} (a : α) (f : α → Except (Stop Unit) β) : (Except.ok a >>= f) = f a := rfl

theorem readBe16_eq {data : Bytes} {off : Nat} (h : off + 2 ≤ data.length) :
    readBe16 data off = .ok (UInt16.ofNat (beAt data off 2)) := by
  unfold readBe16
  rw [load_ok h]
  rfl

theorem readBe32_eq {data : Bytes} {off : Nat} (h : off + 4 ≤ data.length) :
    readBe32 data off = .ok (UInt32.ofNat (beAt data off 4)) := by
  unfold readBe32
  rw [load_ok h]
  rfl

theorem byteAt_eq {data : Bytes} {off : Nat} (h : off + 1 ≤ data.length) :
    byteAt data off = .ok (UInt8.ofNat (leAt data off 1)) := by
  unfold byteAt
  rw [load_ok h]
  rfl

theorem drop_eq_leAt_cons {data : Bytes} {off : Nat} (h : off < data.length) :
    data.drop off = UInt8.ofNat (leAt data off 1) :: data.drop (off + 1) := by
  rw [List.drop_eq_getElem_cons h]
  congr 1
  unfold leAt
  rw [List.drop_eq_getElem_cons h, List.take_succ_cons, List.take_zero]
  simp [ofLE]

theorem selectLoop_eq (data : Bytes) (off n : Nat) {j : Nat} (h : off + j + n ≤ data.length)
    (mask : UInt32) :
    selectLoop data off n j mask = orReject (selectMask j mask ((data.drop (off + j)).take n)) := by
  induction n generalizing j mask with
  | zero => rfl
  | succ n ih =>
    unfold selectLoop
    rw [byteAt_eq (by omega), ok_bind, drop_eq_leAt_cons (by omega), List.take_succ_cons, selectMask]
    rw [Nat.add_assoc off j 1]
    by_cases hj : j < 3
    · rw [if_pos hj, if_pos hj]
      exact ih (by omega) _
    · rw [if_neg hj, if_neg hj]
      by_cases hsel : UInt8.ofNat (leAt data (off + j) 1) = 0
      · rw [if_neg (not_not.mpr hsel), if_neg (not_not.mpr hsel)]
        exact ih (by omega) _
      · rw [if_pos hsel, if_pos hsel]
        rfl

theorem selectionLoop_eq (data : Bytes) (n i off : Nat) (bank : UInt16) (mask : UInt32) :
    selectionLoop data n i off bank mask = orReject (Server.selectionLoop data n i off bank mask) := by
  induction n generalizing i off bank mask with
  | zero => rfl
  | succ n ih =>
    unfold selectionLoop Server.selectionLoop
    by_cases h3 : off + 3 > data.length
    · rw [if_pos h3, if_pos h3]
      rfl
    rw [if_neg h3, if_neg h3, readBe16_eq (by omega), ok_bind]
    simp only
    generalize UInt16.ofNat (beAt data off 2) = hashAlg
    by_cases hmix : i ≠ 0 ∧ hashAlg ≠ bank
    · rw [if_pos hmix, if_pos hmix]
      rfl
    rw [if_neg hmix, if_neg hmix]
    by_cases halg : hashAlg ≠ tpmAlgSHA256
    · rw [if_pos halg, if_pos halg]
      rfl
    rw [if_neg halg, if_neg halg, byteAt_eq (by omega), ok_bind]
    generalize UInt8.ofNat (leAt data (off + 2) 1) = selectSize
    by_cases hsel : off + 3 + selectSize.toNat > data.length
    · rw [if_pos hsel, if_pos hsel]
      rfl
    rw [if_neg hsel, if_neg hsel, selectLoop_eq data _ _ (by omega), Nat.add_zero]
    cases selectMask 0 mask ((data.drop (off + 3)).take selectSize.toNat) with
    | none => rfl
    | some mask' => exact ih _ _ _ _

theorem parseQuote_eq (data : Bytes) (off : Nat) :
    parseQuote data off = orReject (Server.parseQuote data off) := by
  unfold parseQuote Server.parseQuote
  by_cases h4 : off + 4 > data.length
  · rw [if_pos h4, if_pos h4]
    rfl
  rw [if_neg h4, if_neg h4, readBe32_eq (by omega), ok_bind]
  simp only
  generalize UInt32.ofNat (beAt data off 4) = pcrSelCount
  by_cases hcount : pcrSelCount > 16
  · rw [if_pos hcount, if_pos hcount]
    rfl
  rw [if_neg hcount, if_neg hcount, selectionLoop_eq]
  rcases Server.selectionLoop data pcrSelCount.toNat 0 (off + 4) 0 0 with _ | ⟨off, mask⟩
  · rfl
  simp only [orReject, Option.elim_some, ok_bind]
  by_cases h2 : off + 2 > data.length
  · rw [if_pos h2, if_pos h2]
    rfl
  rw [if_neg h2, if_neg h2, readBe16_eq (by omega), ok_bind]
  generalize UInt16.ofNat (beAt data off 2) = digestSize
  by_cases hd : off + 2 + digestSize.toNat > data.length
  · rw [if_pos hd, if_pos hd]
    rfl
  rw [if_neg hd, if_neg hd]
  by_cases hsize : digestSize = 0 ∨ digestSize.toNat > maxPcrDigestSize
  · rw [if_pos hsize, if_pos hsize]
    rfl
  rw [if_neg hsize, if_neg hsize, load_ok (by omega)]
  rfl

theorem parseTpmsAttest_eq (data : Bytes) :
    parseTpmsAttest data = orReject (Server.parseTpmsAttest data) := by
  unfold parseTpmsAttest Server.parseTpmsAttest
  by_cases h10 : data.length < 10
  · rw [if_pos h10, if_pos h10]
    rfl
  rw [if_neg h10, if_neg h10, readBe32_eq (by omega), ok_bind]
  by_cases hmagic : UInt32.ofNat (beAt data 0 4) ≠ 0xff544347
  · rw [if_pos hmagic, if_pos hmagic]
    rfl
  rw [if_neg hmagic, if_neg hmagic, readBe16_eq (by omega), ok_bind,
    if_neg (by omega : ¬ 6 + 2 > data.length), readBe16_eq (by omega), ok_bind]
  simp only
  rw [if_neg (by omega : ¬ 6 + 2 > data.length)]
  generalize UInt16.ofNat (beAt data 4 2) = type
  generalize UInt16.ofNat (beAt data 6 2) = signerSize
  by_cases hs : 8 + signerSize.toNat > data.length
  · rw [if_pos hs, if_pos hs]
    rfl
  rw [if_neg hs, if_neg hs]
  generalize 8 + signerSize.toNat = off at hs ⊢
  by_cases h2 : off + 2 > data.length
  · rw [if_pos h2, if_pos h2]
    rfl
  rw [if_neg h2, if_neg h2, readBe16_eq (by omega), ok_bind]
  generalize UInt16.ofNat (beAt data off 2) = edSize
  by_cases he : off + 2 + edSize.toNat > data.length
  · rw [if_pos he, if_pos he]
    rfl
  rw [if_neg he, if_neg he, load_ok (by omega), ok_bind]
  generalize off + 2 + edSize.toNat = off'
  by_cases h17 : off' + 17 > data.length
  · rw [if_pos h17, if_pos h17]
    rfl
  rw [if_neg h17, if_neg h17]
  by_cases h8 : off' + 17 + 8 > data.length
  · rw [if_pos h8, if_pos h8]
    rfl
  rw [if_neg h8, if_neg h8]
  by_cases htype : type = 0x8018
  · rw [if_pos htype, if_pos htype, parseQuote_eq]
    cases Server.parseQuote data (off' + 17 + 8) with
    | none => rfl
    | some p => rfl
  · rw [if_neg htype, if_neg htype]
    rfl

end Lota.L4.Server.Checked

/-! ## Quotes -/

namespace Lota.L4.Server
open Lota.Core Lota.L1.Report Lota.L1.Attest Lota.L4.Token
open Lota.L4.Go (AttestParts selectMask)

theorem toNat_shiftLeft_byte (b : UInt8) {j : Nat} (hj : j < 3) :
    (b.toUInt32 <<< UInt32.ofNat (8 * j)).toNat = b.toNat <<< (8 * j) := by
  have hb : b.toNat < 2 ^ 8 := b.toNat_lt
  have hn : (UInt32.ofNat (8 * j)).toNat = 8 * j := by
    rw [UInt32.toNat_ofNat']
    exact Nat.mod_eq_of_lt (by omega)
  have hlt : b.toNat <<< (8 * j) < 2 ^ 32 := by
    rw [Nat.shiftLeft_eq]
    calc b.toNat * 2 ^ (8 * j) < 2 ^ 8 * 2 ^ (8 * j) :=
      Nat.mul_lt_mul_of_pos_right hb (Nat.two_pow_pos _)
      _ = 2 ^ (8 + 8 * j) := (Nat.pow_add ..).symm
      _ ≤ 2 ^ 32 := Nat.pow_le_pow_right (by decide) (by omega)
  rw [UInt32.toNat_shiftLeft, UInt8.toNat_toUInt32, hn, Nat.mod_eq_of_lt (by omega : 8 * j < 32),
    Nat.mod_eq_of_lt hlt]

/-- The first byte of a selection shifted to its place, and the rest behind it. -/
theorem selectBit_cons (b : UInt8) (sel : Bytes) (i : Nat) :
    selectBit (b :: sel) i = (b.toNat.testBit i || (decide (8 ≤ i) && selectBit sel (i - 8))) := by
  unfold selectBit
  by_cases hi : i < 8
  · have h0 : i / 8 = 0 := by omega
    have hmod : i % 8 = i := by omega
    simp [h0, hmod, Nat.not_le.mpr hi]
  · have hdiv : i / 8 = (i - 8) / 8 + 1 := by omega
    have hmod : i % 8 = (i - 8) % 8 := by omega
    have hhigh : b.toNat.testBit i = false :=
      Nat.testBit_lt_two_pow
        (Nat.lt_of_lt_of_le b.toNat_lt (Nat.pow_le_pow_right (by decide) (Nat.not_lt.mp hi)))
    rw [hdiv, hmod, hhigh]
    simp [Nat.not_lt.mp hi]

/-- Three bytes always go into the mask, each at its place. -/
theorem testBit_selectMask {j : Nat} {sel : Bytes} (h : j + sel.length ≤ 3) (mask : UInt32) :
    ∃ m, selectMask j mask sel = some m ∧
      ∀ i, m.toNat.testBit i =
      (mask.toNat.testBit i || (decide (8 * j ≤ i) && selectBit sel (i - 8 * j))) := by
  induction sel generalizing j mask with
  | nil => exact ⟨mask, rfl, fun i => by simp [selectBit]⟩
  | cons b sel ih =>
    rw [List.length_cons] at h
    have hj : j < 3 := by omega
    obtain ⟨m, hm, hbit⟩ :=
      ih (by omega : j + 1 + sel.length ≤ 3) (mask ||| b.toUInt32 <<< UInt32.ofNat (8 * j))
    refine ⟨m, ?_, fun i => ?_⟩
    · rw [selectMask, if_pos hj]
      exact hm
    · rw [hbit, UInt32.toNat_or, Nat.testBit_or, toNat_shiftLeft_byte b hj, Nat.testBit_shiftLeft,
        selectBit_cons, Bool.or_assoc]
      congr 1
      by_cases hi : 8 * j ≤ i
      · have hsub : i - 8 * j - 8 = i - 8 * (j + 1) := by omega
        have hle : (8 ≤ i - 8 * j) ↔ 8 * (j + 1) ≤ i := by omega
        simp only [ge_iff_le, hi, decide_true, Bool.true_and, hsub, hle]
      · have hno : ¬ 8 * (j + 1) ≤ i := by omega
        simp [hi, hno]

theorem testBit_foldlM_selectMask {selects : List Bytes} (h : ∀ sel ∈ selects, sel.length ≤ 3)
    (mask : UInt32) : ∃ m, selects.foldlM (selectMask 0) mask = some m ∧
      ∀ i, m.toNat.testBit i = (mask.toNat.testBit i || selects.any fun sel => selectBit sel i) := by
  induction selects generalizing mask with
  | nil => exact ⟨mask, rfl, fun i => by simp⟩
  | cons sel selects ih =>
    have hsel : 0 + sel.length ≤ 3 := by simpa using h sel (List.mem_cons_self ..)
    obtain ⟨mask', hmask, hbit'⟩ := testBit_selectMask hsel mask
    obtain ⟨m, hm, hbit⟩ := ih (fun s hs => h s (List.mem_cons_of_mem _ hs)) mask'
    refine ⟨m, ?_, fun i => ?_⟩
    · rw [List.foldlM_cons]
      exact Option.bind_eq_some_iff.mpr ⟨mask', hmask, hm⟩
    · rw [hbit, hbit', List.any_cons, Bool.or_assoc]
      simp

/-- A quote of SHA-256 PCRs: the selections as bit maps of up to three bytes. -/
structure QuoteOf (a : TPMSAttest) (selects : List Bytes) (pcrDigest : Bytes) : Prop where
  magic : a.magic = tpmGeneratedValue
  type : a.type = tpmSTAttestQuote
  signer : a.qualifiedSigner.length < 2 ^ 16
  extraData : a.extraData.length < 2 ^ 16
  nonempty : 1 ≤ selects.length
  most : selects.length ≤ 16
  size : ∀ sel ∈ selects, sel.length ≤ 3
  digest : pcrDigest.length = 32
  quoteInfo : a.quoteInfo =
    some { pcrSelect := wireSelections tpmAlgSHA256 selects, pcrDigest, pcrHashAlg := tpmAlgSHA256 }

namespace QuoteOf

variable {a : TPMSAttest} {selects : List Bytes} {pcrDigest : Bytes}

theorem encodes (h : QuoteOf a selects pcrDigest) :
    QuoteInfo.Encodes
    { pcrSelect := wireSelections tpmAlgSHA256 selects, pcrDigest, pcrHashAlg := tpmAlgSHA256 }
      selects where
  pcrSelect := rfl
  count := h.most
  size sel hsel := Nat.lt_of_le_of_lt (h.size sel hsel) (by decide)
  nonempty := List.ne_nil_of_length_pos h.nonempty
  digest := by
    show pcrDigest.length < 2 ^ 16
    rw [h.digest]
    decide

theorem wellFormed (h : QuoteOf a selects pcrDigest) : a.WellFormed where
  magic := h.magic
  signer := h.signer
  extraData := h.extraData
  quote := by simp [h.type, h.quoteInfo]
  quoteInfo q hq := by
    rw [h.quoteInfo] at hq
    cases hq
    exact ⟨selects, h.encodes⟩

end QuoteOf

/-- **Parsers of TPMS_ATTEST.** In a quote as the TPM encodes it the three
parsers find the encoded extraData and PCR digest, the verifier the selection
bytes, the SDKs the mask of the selected PCRs. On no input does one of them
read outside of it. -/
theorem attest_parsers_agree :
    (∀ a selects pcrDigest, QuoteOf a selects pcrDigest →
      (∃ v q, L1.Attest.Checked.parseTPMSAttest (wireAttest a) = .ok v ∧ v.quoteInfo = some q ∧
        v.extraData = a.extraData ∧ q.pcrDigest = pcrDigest ∧
        q.pcrSelect = wireSelections tpmAlgSHA256 selects) ∧
      ∃ p, Go.Checked.parseTPMSAttest (wireAttest a) = .ok p ∧
      Checked.parseTpmsAttest (wireAttest a) = .ok p ∧
        p.extraData = a.extraData ∧ p.pcrDigest = some pcrDigest ∧
        ∀ i, p.pcrMask.toNat.testBit i = selects.any fun sel => selectBit sel i) ∧
    ∀ data, L1.Attest.Checked.parseTPMSAttest data ≠ .error .fault ∧
      Go.Checked.parseTPMSAttest data ≠ .error .fault ∧
      Checked.parseTpmsAttest data ≠ .error .fault := by
  constructor
  · intro a selects pcrDigest h
    obtain ⟨m, hm, hbit⟩ := testBit_foldlM_selectMask h.size 0
    have hgo := L4.Binding.parseTPMSAttest_quote h.wellFormed h.quoteInfo h.encodes rfl hm
    refine ⟨⟨a, _, ?_, h.quoteInfo, rfl, rfl, rfl⟩,
      { extraData := a.extraData, pcrMask := m, pcrDigest := some pcrDigest }, ?_, ?_, rfl, rfl, ?_⟩
    · rw [L1.Attest.Checked.parseTPMSAttest_eq, liftErr_ok]
      exact parseTPMSAttest_wireAttest h.wellFormed
    · rw [Go.Checked.parseTPMSAttest_eq, liftErr_ok]
      exact hgo
    · have hc :=
        parseTpmsAttest_ok.mpr ⟨hgo, by simp [digestOK, digestSizeOK, h.digest, maxPcrDigestSize]⟩
      rw [Checked.parseTpmsAttest_eq, hc]
      rfl
    · intro i
      rw [hbit]
      simp
  · intro data
    refine ⟨?_, ?_, ?_⟩
    · rw [L1.Attest.Checked.parseTPMSAttest_eq]
      exact liftErr_ne_fault _
    · rw [Go.Checked.parseTPMSAttest_eq]
      exact liftErr_ne_fault _
    · rw [Checked.parseTpmsAttest_eq]
      cases parseTpmsAttest data <;> simp [Checked.orReject, Checked.reject]

theorem quotePCR1_quoteOf : QuoteOf quotePCR1 [[2, 0, 0]] quoteInfoPCR1.pcrDigest where
  magic := rfl
  type := rfl
  signer := by decide
  extraData := by decide
  nonempty := by decide
  most := by decide
  size := by decide
  digest := by simp [quoteInfoPCR1]
  quoteInfo := rfl

/-- Of a quote over PCR 1 both SDKs return the mask 2. -/
theorem attest_parsers_agree_pcr1 :
    ∃ p, Go.Checked.parseTPMSAttest (wireAttest quotePCR1) = .ok p ∧
      Checked.parseTpmsAttest (wireAttest quotePCR1) = .ok p ∧
      ∀ i, p.pcrMask.toNat.testBit i = selectBit [2, 0, 0] i := by
  obtain ⟨p, hgo, hc, -, -, hmask⟩ := (attest_parsers_agree.1 _ _ _ quotePCR1_quoteOf).2
  exact ⟨p, hgo, hc, fun i => by simpa using hmask i⟩

end Lota.L4.Server

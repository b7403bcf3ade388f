import Mathlib.Data.List.FinRange
import Lota.Core.Sha256
import Lota.L1Wire.Report

/-!
# TPMS_ATTEST (`verifier/verify/attest.go`)

The parser of the TPM-signed blob, the PCR digest check and the binding
nonce that ties the quote to the report it travels in.

`parseQuoteInfo` keeps the `TPML_PCR_SELECTION` as raw bytes and nothing in
the verifier reads it again. `QuoteInfo.selects` is our own reading of these
bytes: which PCR indices the TPM signed for.

Results:
* `parseTPMSAttest_wireAttest`: the parser inverts the TPM's encoding.
* `verifyPCRDigestParsed_ok`: what an accepted digest check means.
* `pcrString_inj`: under one mask, equal hashed strings come from equal
  values at every masked index.
* `digest_binds_selection_iff`: for which quotes and masks the digest check
  ties the mask to the signed selection.
-/
namespace Lota.L1.Attest
open Lota.Core Lota.L1.Report

def tpmGeneratedValue : UInt32 := 0xff544347
def tpmSTAttestQuote : UInt16 := 0x8018

structure ClockInfo where
  clock : UInt64
  resetCount : UInt32
  restartCount : UInt32
  safe : Bool
  deriving DecidableEq

/-- mirrors src/verifier/verify/attest.go:45-49 -/
structure QuoteInfo where
  pcrSelect : Bytes
  pcrDigest : Bytes
  pcrHashAlg : UInt16
  deriving DecidableEq

/-- mirrors src/verifier/verify/attest.go:26-34 -/
structure TPMSAttest where
  magic : UInt32
  type : UInt16
  qualifiedSigner : Bytes
  extraData : Bytes
  clockInfo : ClockInfo
  firmwareVersion : UInt64
  quoteInfo : Option QuoteInfo
  deriving DecidableEq

/-! ## Parsing -/

/-- The `TPMS_PCR_SELECTION` loop with `n` rounds to go: `i` is the loop
counter, `alg` the bank of the rounds before, `buf` the bytes written so far.
mirrors src/verifier/verify/attest.go:155-182 -/
def readSelections : (n i : Nat) → (alg : UInt16) → (buf : Bytes) → Reader (UInt16 × Bytes)
  | 0, _, alg, buf => pure (alg, buf)
  | n + 1, i, alg, buf => do
    let hashAlg ← readU16BE
    if i ≠ 0 ∧ hashAlg ≠ alg then
      .fail ("mixed PCR hash algorithms in TPMS_ATTEST: 0x" ++ fmtX 4 alg.toNat ++ " and 0x" ++
        fmtX 4 hashAlg.toNat)
    else
      let sizeOfSelect ← readU8
      let selectBytes ← readFull sizeOfSelect.toNat
      readSelections n (i + 1) hashAlg
        (buf ++ (toBE 2 hashAlg.toNat ++ (toLE 1 sizeOfSelect.toNat ++ selectBytes)))

/-- mirrors src/verifier/verify/attest.go:128-193 -/
def parseQuoteInfo : Reader QuoteInfo := do
  let count ← .wrap "failed to read PCR selection count" readU32BE
  if count > 16 then .fail ("PCR selection count too large: " ++ toString count.toNat)
  else
    let (pcrHashAlg, pcrSelect) ← readSelections count.toNat 0 0 (toBE 4 count.toNat)
    let digestSize ← .wrap "failed to read PCR digest size" readU16BE
    let pcrDigest ← .wrap "failed to read PCR digest" (readFull digestSize.toNat)
    pure { pcrSelect, pcrDigest, pcrHashAlg }

/-- The fields up to the firmware version.
mirrors src/verifier/verify/attest.go:60-113 -/
def readAttestCommon : Reader TPMSAttest := do
  let magic ← .wrap "failed to read magic" readU32BE
  if magic ≠ tpmGeneratedValue then
    .fail ("invalid TPM magic: 0x" ++ fmtX 8 magic.toNat ++ " (expected 0x" ++
      fmtX 8 tpmGeneratedValue.toNat ++ ")")
  else
    let type ← .wrap "failed to read type" readU16BE
    let signerSize ← .wrap "failed to read signer size" readU16BE
    let qualifiedSigner ← .wrap "failed to read signer" (readFull signerSize.toNat)
    let extraDataSize ← .wrap "failed to read extraData size" readU16BE
    let extraData ← .wrap "failed to read extraData" (readFull extraDataSize.toNat)
    let clock ← .wrap "failed to read clock" readU64BE
    let resetCount ← .wrap "failed to read resetCount" readU32BE
    let restartCount ← .wrap "failed to read restartCount" readU32BE
    let safeByte ← .wrap "failed to read safe" readU8
    let firmwareVersion ← .wrap "failed to read firmwareVersion" readU64BE
    pure { magic, type, qualifiedSigner, extraData,
           clockInfo := { clock, resetCount, restartCount, safe := safeByte != 0 },
           firmwareVersion, quoteInfo := none }

/-- The whole structure: quote information follows only in a quote. -/
def readAttest : Reader TPMSAttest := do
  let attest ← readAttestCommon
  if attest.type = tpmSTAttestQuote then
    let quoteInfo ← .wrap "failed to parse quote info" parseQuoteInfo
    pure { attest with quoteInfo := some quoteInfo }
  else pure attest

/-- mirrors src/verifier/verify/attest.go:52-125 (`ParseTPMSAttest`) -/
def parseTPMSAttest (data : Bytes) : Except String TPMSAttest :=
  if data.length < 20 then .error "attest data too short"
  else (readAttest.run data).map Prod.fst

/-- mirrors src/verifier/verify/attest.go:196-207 (`VerifyNonceInAttest`) -/
def verifyNonceInAttest (attestData expectedNonce : Bytes) : Except String Unit :=
  match parseTPMSAttest attestData with
  | .error e => .error ("failed to parse TPMS_ATTEST: " ++ e)
  | .ok attest =>
    if attest.extraData ≠ expectedNonce then
      .error "nonce mismatch: TPMS_ATTEST extraData does not match challenge nonce"
    else .ok ()

theorem verifyNonceInAttest_ok {attestData expectedNonce : Bytes}
    (h : verifyNonceInAttest attestData expectedNonce = .ok ()) :
    ∃ attest, parseTPMSAttest attestData = .ok attest ∧ attest.extraData = expectedNonce := by
  unfold verifyNonceInAttest at h
  split at h
  · cases h
  · rename_i attest ha
    split at h
    · cases h
    · rename_i he
      exact ⟨attest, ha, not_not.mp he⟩

/-! ## The PCR digest -/

/-- The bytes hashed by the digest check: the values under the mask, in
index order. -/
def pcrString (pcrValues : PCRTable) (pcrMask : UInt32) : Bytes :=
  (List.finRange 24).flatMap fun i : Fin 24 => if hasBit pcrMask i then (pcrValues.get i).toList else []

/-- mirrors src/verifier/verify/attest.go:228-259 (`VerifyPCRDigestParsed`) -/
def verifyPCRDigestParsed (attest : TPMSAttest) (pcrValues : PCRTable) (pcrMask : UInt32) :
    Except String Unit :=
  if attest.type ≠ tpmSTAttestQuote then
    .error ("not a quote attestation (type 0x" ++ fmtX 4 attest.type.toNat ++ ")")
  else match attest.quoteInfo with
  | none => .error "no quote info in attestation"
  | some quoteInfo =>
    if quoteInfo.pcrDigest.length = 0 then .error "PCR digest is empty (corrupted quote?)"
    else if quoteInfo.pcrHashAlg ≠ tpmAlgSHA256 then
      .error ("unsupported PCR bank hash 0x" ++ fmtX 4 quoteInfo.pcrHashAlg.toNat ++
        ": the LOTA wire format pins PCR values at SHA-256 (" ++ toString hashSize ++
        " bytes); rebuild the agent or the quote with a SHA-256 PCR selection")
    else if (sha256 (pcrString pcrValues pcrMask)).toList ≠ quoteInfo.pcrDigest then
      .error "PCR digest mismatch: reported values do not match TPM-signed digest"
    else .ok ()

/-- mirrors src/verifier/verify/attest.go:296-330 (`ComputeAttestationBindingNonce`);
no caller passes a nil report. -/
def computeAttestationBindingNonce (challengeNonce : Nonce) (report : AttestationReport) : Nonce :=
  let signedFlags := report.header.flags &&& ~~~flagTPMQuoteOK
  sha256 (challengeNonce.toList ++ report.tpm.hardwareID.toList ++ toLE 4 signedFlags.toNat ++
    report.system.kernelHash.toList ++ report.system.agentHash.toList ++
    toLE 4 report.system.iommu.vendor.toNat ++ toLE 4 report.system.iommu.flags.toNat ++
    toLE 4 report.system.iommu.unitCount.toNat ++ report.system.iommu.cmdlineParam.toList)

/-- A quote over the SHA-256 bank whose signed digest is the hash of `s`. -/
def SignsString (a : TPMSAttest) (s : Bytes) : Prop :=
  a.type = tpmSTAttestQuote ∧
    ∃ q, a.quoteInfo = some q ∧ q.pcrHashAlg = tpmAlgSHA256 ∧ q.pcrDigest = (sha256 s).toList

/-- The digest check accepts exactly the quotes that sign the masked values. -/
theorem verifyPCRDigestParsed_ok {a : TPMSAttest} {t : PCRTable} {m : UInt32} :
    verifyPCRDigestParsed a t m = .ok () ↔ SignsString a (pcrString t m) := by
  unfold verifyPCRDigestParsed SignsString
  by_cases ht : a.type = tpmSTAttestQuote
  · rw [if_neg (not_not.mpr ht)]
    cases hq : a.quoteInfo with
    | none => simp
    | some q =>
      have hlen : q.pcrDigest = (sha256 (pcrString t m)).toList → q.pcrDigest.length ≠ 0 := by
        intro h; rw [h, List.Vector.toList_length]; decide
      by_cases hd : q.pcrDigest = (sha256 (pcrString t m)).toList
      · simp only [if_neg (hlen hd)]
        by_cases hh : q.pcrHashAlg = tpmAlgSHA256 <;> simp [hh, hd, ht]
      · have hd' : (sha256 (pcrString t m)).toList ≠ q.pcrDigest := fun h => hd h.symm
        simp only [if_pos hd']
        refine ⟨fun h => ?_, fun h => ?_⟩
        · split at h
          · cases h
          · split at h <;> cases h
        · obtain ⟨-, q', hq', -, hd''⟩ := h
          cases hq'
          exact absurd hd'' hd
  · rw [if_pos ht]
    simp [ht]

/-! ## The masked values -/

/-- The PCR indices under a mask, in order. -/
def maskPCRs (m : UInt32) : List (Fin 24) := (List.finRange 24).filter fun i : Fin 24 => hasBit m i

theorem mem_maskPCRs {m : UInt32} {i : Fin 24} : i ∈ maskPCRs m ↔ hasBit m i = true := by
  simp [maskPCRs]

theorem maskPCRs_nodup (m : UInt32) : (maskPCRs m).Nodup :=
  (List.nodup_finRange 24).filter _

theorem flatMap_ite_eq_filter {α β : Type} (p : α → Bool) (g : α → List β) (l : List α) :
    (l.flatMap fun x => if p x then g x else []) = (l.filter p).flatMap g := by
  induction l with
  | nil => rfl
  | cons x l ih =>
    cases hp : p x <;> simp [List.flatMap_cons, hp, ih]

theorem pcrString_eq (t : PCRTable) (m : UInt32) :
    pcrString t m = ((maskPCRs m).map t.get).flatMap List.Vector.toList := by
  unfold pcrString maskPCRs
  rw [flatMap_ite_eq_filter (fun i : Fin 24 => hasBit m i) (fun i => (t.get i).toList),
    List.flatMap_map]

/-- Fixed-size blocks can be read back from their concatenation. -/
theorem flatMap_toList_inj {n : Nat} {xs ys : List (Blob n)} (hl : xs.length = ys.length)
    (h : xs.flatMap List.Vector.toList = ys.flatMap List.Vector.toList) : xs = ys := by
  induction xs generalizing ys with
  | nil => exact (List.length_eq_zero_iff.mp hl.symm).symm
  | cons x xs ih =>
    cases ys with
    | nil => cases hl
    | cons y ys =>
      simp only [List.flatMap_cons] at h
      obtain ⟨hxy, hrest⟩ :=
        List.append_inj h (by rw [List.Vector.toList_length, List.Vector.toList_length])
      rw [List.Vector.toList_injective hxy, ih (Nat.succ.inj hl) hrest]

/-- Under one mask, equal hashed strings come from equal masked values. -/
theorem pcrString_inj {t t' : PCRTable} {m : UInt32} (h : pcrString t m = pcrString t' m) {i : Fin 24}
    (hi : hasBit m i = true) : t.get i = t'.get i := by
  rw [pcrString_eq, pcrString_eq] at h
  have hm := flatMap_toList_inj (by simp) h
  exact List.map_inj_left.mp hm i (mem_maskPCRs.mpr hi)

/-- Any values can be put under the indices of a duplicate-free list. -/
theorem exists_map_eq {α β : Type} [DecidableEq α] [Inhabited β] {l : List α}
    (hl : l.Nodup) {vs : List β}
    (hv : vs.length = l.length) : ∃ f : α → β, l.map f = vs := by
  induction l generalizing vs with
  | nil => exact ⟨fun _ => default, (List.length_eq_zero_iff.mp hv).symm⟩
  | cons a l ih =>
    obtain ⟨ha, hl⟩ := List.nodup_cons.mp hl
    cases vs with
    | nil => cases hv
    | cons v vs =>
      obtain ⟨f, hf⟩ := ih hl (Nat.succ.inj hv)
      refine ⟨Function.update f a v, ?_⟩
      have hrest : l.map (Function.update f a v) = l.map f :=
        List.map_congr_left fun x hx => Function.update_of_ne (ne_of_mem_of_not_mem hx ha) v f
      rw [List.map_cons, Function.update_self, hrest, hf]

/-- Every list of as many values as the mask has indices is the list of
masked values of some table. -/
theorem exists_pcrString {m : UInt32} {vs : List Hash} (hv : vs.length = (maskPCRs m).length) :
    ∃ t : PCRTable, pcrString t m = vs.flatMap List.Vector.toList := by
  have : Inhabited Hash := ⟨Blob.zero 32⟩
  obtain ⟨f, hf⟩ := exists_map_eq (maskPCRs_nodup m) hv
  refine ⟨List.Vector.ofFn f, ?_⟩
  rw [pcrString_eq, ← hf]
  congr 1
  exact List.map_congr_left fun i _ => List.Vector.get_ofFn f i

/-! ## The TPM's encoding -/

def wireSelection (alg : UInt16) (select : Bytes) : Bytes :=
  toBE 2 alg.toNat ++ (toLE 1 select.length ++ select)

/-- `TPML_PCR_SELECTION` with one bank `alg` in every entry. -/
def wireSelections (alg : UInt16) (selects : List Bytes) : Bytes :=
  toBE 4 selects.length ++ selects.flatMap (wireSelection alg)

def wireQuoteInfo (q : QuoteInfo) : Bytes := q.pcrSelect ++ (toBE 2 q.pcrDigest.length ++ q.pcrDigest)

def wireAttestCommon (a : TPMSAttest) : Bytes :=
  toBE 4 a.magic.toNat ++ toBE 2 a.type.toNat ++
  toBE 2 a.qualifiedSigner.length ++ a.qualifiedSigner ++ toBE 2 a.extraData.length ++ a.extraData ++
  toBE 8 a.clockInfo.clock.toNat ++ toBE 4 a.clockInfo.resetCount.toNat ++
  toBE 4 a.clockInfo.restartCount.toNat ++ toLE 1 a.clockInfo.safe.toNat ++
  toBE 8 a.firmwareVersion.toNat

def wireAttest (a : TPMSAttest) : Bytes :=
  wireAttestCommon a ++ (a.quoteInfo.map wireQuoteInfo).getD []

/-- A selection the parser takes: at most 16 entries of at most 255 bytes. -/
structure QuoteInfo.Encodes (q : QuoteInfo) (selects : List Bytes) : Prop where
  pcrSelect : q.pcrSelect = wireSelections q.pcrHashAlg selects
  count : selects.length ≤ 16
  size : ∀ sel ∈ selects, sel.length < 256
  nonempty : selects ≠ []
  digest : q.pcrDigest.length < 2 ^ 16

structure TPMSAttest.WellFormed (a : TPMSAttest) : Prop where
  magic : a.magic = tpmGeneratedValue
  signer : a.qualifiedSigner.length < 2 ^ 16
  extraData : a.extraData.length < 2 ^ 16
  quote : a.type = tpmSTAttestQuote ↔ a.quoteInfo.isSome = true
  quoteInfo : ∀ q, a.quoteInfo = some q → ∃ selects, q.Encodes selects

theorem readU16BE_length {n : Nat} (h : n < 2 ^ 16) (rest : Bytes) :
    readU16BE.run (toBE 2 n ++ rest) = .ok (UInt16.ofNat n, rest) := by
  have hn : (UInt16.ofNat n).toNat = n := by rw [UInt16.toNat_ofNat']; exact Nat.mod_eq_of_lt h
  have := readU16BE_append (UInt16.ofNat n) rest
  rwa [hn] at this

theorem readU8_length {n : Nat} (h : n < 256) (rest : Bytes) :
    readU8.run (toLE 1 n ++ rest) = .ok (UInt8.ofNat n, rest) := by
  have hn : (UInt8.ofNat n).toNat = n := by rw [UInt8.toNat_ofNat']; exact Nat.mod_eq_of_lt h
  have := readU8_append (UInt8.ofNat n) rest
  rwa [hn] at this

/-- The loop over a well-formed selection copies it to the buffer. -/
theorem readSelections_wire (alg : UInt16) {selects : List Bytes}
    (hs : ∀ sel ∈ selects, sel.length < 256)
    (i : Nat) {alg₀ : UInt16} (h₀ : i = 0 ∨ alg₀ = alg) (buf rest : Bytes) :
    (readSelections selects.length i alg₀ buf).run (selects.flatMap (wireSelection alg) ++ rest) =
      .ok ((if selects = [] then alg₀ else alg, buf ++ selects.flatMap (wireSelection alg)), rest) := by
  induction selects generalizing i alg₀ buf with
  | nil => simp [readSelections]
  | cons sel selects ih =>
    have hlen : sel.length < 256 := hs sel (List.mem_cons_self ..)
    have hn : (UInt8.ofNat sel.length).toNat = sel.length := by
      rw [UInt8.toNat_ofNat']; exact Nat.mod_eq_of_lt hlen
    have hguard : ¬ (i ≠ 0 ∧ alg ≠ alg₀) := by
      rintro ⟨hi, ha⟩
      rcases h₀ with h | h
      · exact hi h
      · exact ha h.symm
    have halg : i + 1 = 0 ∨ alg = alg := .inr rfl
    have hrest :=
      ih (fun s h => hs s (List.mem_cons_of_mem _ h)) (i + 1) halg (buf ++ wireSelection alg sel)
    simp only [List.flatMap_cons, List.append_assoc, List.length_cons, readSelections]
    rw [wireSelection, List.append_assoc, List.append_assoc, Reader.bind_run (readU16BE_append _ _),
      if_neg hguard, Reader.bind_run (readU8_length hlen _),
      Reader.bind_run (readFull_append hn.symm _), hn]
    rw [wireSelection] at hrest
    rw [hrest]
    simp

theorem parseQuoteInfo_wire {q : QuoteInfo} {selects : List Bytes} (hq : q.Encodes selects)
    (rest : Bytes) : parseQuoteInfo.run (wireQuoteInfo q ++ rest) = .ok (q, rest) := by
  have hcount : selects.length ≤ 16 := hq.count
  have hn : (UInt32.ofNat selects.length).toNat = selects.length := by
    rw [UInt32.toNat_ofNat']; exact Nat.mod_eq_of_lt (by omega)
  have hguard : ¬ UInt32.ofNat selects.length > 16 := by
    rw [gt_iff_lt, UInt32.lt_iff_toNat_lt, hn]
    exact Nat.not_lt.mpr hcount
  have hu32 : ∀ rest, readU32BE.run (toBE 4 selects.length ++ rest) =
      .ok (UInt32.ofNat selects.length, rest) := by
    intro rest
    have := readU32BE_append (UInt32.ofNat selects.length) rest
    rwa [hn] at this
  have hd : (UInt16.ofNat q.pcrDigest.length).toNat = q.pcrDigest.length := by
    rw [UInt16.toNat_ofNat']; exact Nat.mod_eq_of_lt hq.digest
  unfold parseQuoteInfo wireQuoteInfo
  rw [hq.pcrSelect, wireSelections, List.append_assoc, List.append_assoc, List.append_assoc,
    Reader.bind_run (Reader.wrap_run (hu32 _)), if_neg hguard, hn,
    Reader.bind_run (readSelections_wire q.pcrHashAlg hq.size 0 (.inl rfl) _ _)]
  simp only [if_neg hq.nonempty]
  rw [Reader.bind_run (Reader.wrap_run (readU16BE_length hq.digest _)),
    Reader.bind_run (Reader.wrap_run (readFull_append hd.symm _)), Reader.pure_run]
  have := hq.pcrSelect
  rw [wireSelections] at this
  rw [← this]

theorem readAttestCommon_wire {a : TPMSAttest} (w : a.WellFormed) (rest : Bytes) :
    readAttestCommon.run (wireAttestCommon a ++ rest) = .ok ({ a with quoteInfo := none }, rest) := by
  have hs : (UInt16.ofNat a.qualifiedSigner.length).toNat = a.qualifiedSigner.length := by
    rw [UInt16.toNat_ofNat']; exact Nat.mod_eq_of_lt w.signer
  have he : (UInt16.ofNat a.extraData.length).toNat = a.extraData.length := by
    rw [UInt16.toNat_ofNat']; exact Nat.mod_eq_of_lt w.extraData
  have hb : (UInt8.ofNat a.clockInfo.safe.toNat != 0) = a.clockInfo.safe := by
    cases a.clockInfo.safe <;> rfl
  have hb' : a.clockInfo.safe.toNat < 256 := by
    have := Bool.toNat_le a.clockInfo.safe; omega
  unfold readAttestCommon wireAttestCommon
  simp only [List.append_assoc]
  rw [Reader.bind_run (Reader.wrap_run (readU32BE_append _ _)), w.magic]
  simp only [ne_eq, not_true_eq_false, if_false]
  rw [Reader.bind_run (Reader.wrap_run (readU16BE_append _ _)),
    Reader.bind_run (Reader.wrap_run (readU16BE_length w.signer _)),
    Reader.bind_run (Reader.wrap_run (readFull_append hs.symm _)),
    Reader.bind_run (Reader.wrap_run (readU16BE_length w.extraData _)),
    Reader.bind_run (Reader.wrap_run (readFull_append he.symm _)),
    Reader.bind_run (Reader.wrap_run (readU64BE_append _ _)),
    Reader.bind_run (Reader.wrap_run (readU32BE_append _ _)),
    Reader.bind_run (Reader.wrap_run (readU32BE_append _ _)),
    Reader.bind_run (Reader.wrap_run (readU8_length hb' _)),
    Reader.bind_run (Reader.wrap_run (readU64BE_append _ _)), Reader.pure_run, hb, ← w.magic]

theorem readAttest_wire {a : TPMSAttest} (w : a.WellFormed) :
    readAttest.run (wireAttest a) = .ok (a, []) := by
  unfold readAttest wireAttest
  rw [Reader.bind_run (readAttestCommon_wire w _)]
  cases hq : a.quoteInfo with
  | none =>
    have ht : ¬ a.type = tpmSTAttestQuote := by rw [w.quote, hq]; simp
    have ha : { a with quoteInfo := none } = a := by rw [← hq]
    rw [if_neg ht, Reader.pure_run, ha]
    rfl
  | some q =>
    have ht : a.type = tpmSTAttestQuote := by rw [w.quote, hq]; rfl
    obtain ⟨selects, hsel⟩ := w.quoteInfo q hq
    have hrun := parseQuoteInfo_wire hsel []
    rw [List.append_nil] at hrun
    rw [if_pos ht, Option.map_some, Option.getD_some, Reader.bind_run (Reader.wrap_run hrun),
      Reader.pure_run, ← hq]

/-- **Round trip.** `ParseTPMSAttest` inverts the TPM's encoding. -/
theorem parseTPMSAttest_wireAttest {a : TPMSAttest} (w : a.WellFormed) :
    parseTPMSAttest (wireAttest a) = .ok a := by
  have hlen : ¬ (wireAttest a).length < 20 := by
    simp only [wireAttest, wireAttestCommon, List.length_append, toBE_length, toLE_length]; omega
  unfold parseTPMSAttest
  rw [if_neg hlen, readAttest_wire w]
  rfl

/-! ## The signed selection -/

/-- The bit maps of `n` selection entries. -/
def readSelects : Nat → Reader (List Bytes)
  | 0 => pure []
  | n + 1 => do
    let _ ← readU16BE
    let size ← readU8
    let sel ← readFull size.toNat
    let sels ← readSelects n
    pure (sel :: sels)

/-- A `TPML_PCR_SELECTION`, read for its bit maps. -/
def readSelection : Reader (List Bytes) := do
  let n ← readU32BE
  readSelects n.toNat

/-- PCR `i` is bit `i % 8` of byte `i / 8`. -/
def selectBit (sel : Bytes) (i : Nat) : Bool := (sel.getD (i / 8) 0).toNat.testBit (i % 8)

/-- The TPM signed for PCR `i`. Not in the source: the verifier keeps the
selection as bytes and never looks into it. -/
def QuoteInfo.selects (q : QuoteInfo) (i : Nat) : Bool :=
  match readSelection.run q.pcrSelect with
  | .error _ => false
  | .ok (sels, _) => sels.any fun sel => selectBit sel i

/-- The signed selection is exactly the mask. -/
def SelectsExactly (a : TPMSAttest) (m : UInt32) : Prop :=
  ∃ q, a.quoteInfo = some q ∧ ∀ i, q.selects i = m.toNat.testBit i

theorem readSelects_wire (alg : UInt16) {selects : List Bytes} (hs : ∀ sel ∈ selects, sel.length < 256)
    (rest : Bytes) :
    (readSelects selects.length).run (selects.flatMap (wireSelection alg) ++ rest) =
    .ok (selects, rest) := by
  induction selects with
  | nil => rfl
  | cons sel selects ih =>
    have hlen : sel.length < 256 := hs sel (List.mem_cons_self ..)
    have hn : (UInt8.ofNat sel.length).toNat = sel.length := by
      rw [UInt8.toNat_ofNat']; exact Nat.mod_eq_of_lt hlen
    simp only [List.flatMap_cons, List.append_assoc, List.length_cons, readSelects]
    rw [wireSelection, List.append_assoc, List.append_assoc, Reader.bind_run (readU16BE_append _ _),
      Reader.bind_run (readU8_length hlen _), Reader.bind_run (readFull_append hn.symm _),
      Reader.bind_run (ih fun s h => hs s (List.mem_cons_of_mem _ h)), Reader.pure_run]

/-- A well-formed selection selects what its bit maps say. -/
theorem selects_of_encodes {q : QuoteInfo} {selects : List Bytes} (hq : q.Encodes selects) (i : Nat) :
    q.selects i = selects.any fun sel => selectBit sel i := by
  have hn : (UInt32.ofNat selects.length).toNat = selects.length := by
    rw [UInt32.toNat_ofNat']
    exact Nat.mod_eq_of_lt (Nat.lt_of_le_of_lt hq.count (by decide))
  have hcount : toBE 4 selects.length = toBE 4 (UInt32.ofNat selects.length).toNat := by rw [hn]
  have hrun : readSelection.run q.pcrSelect = .ok (selects, []) := by
    unfold readSelection
    rw [hq.pcrSelect, wireSelections, hcount, Reader.bind_run (readU32BE_append _ _), hn]
    have := readSelects_wire q.pcrHashAlg hq.size []
    rwa [List.append_nil] at this
  unfold QuoteInfo.selects
  rw [hrun]

/-- The digest check looks at the number of masked indices only: some table
passes exactly when the quote signs a string of that many values. -/
theorem exists_accepted_iff (a : TPMSAttest) (m : UInt32) :
    (∃ t, verifyPCRDigestParsed a t m = .ok ()) ↔
      ∃ vs : List Hash, vs.length = (maskPCRs m).length ∧ SignsString a
      (vs.flatMap List.Vector.toList) := by
  constructor
  · rintro ⟨t, h⟩
    rw [verifyPCRDigestParsed_ok, pcrString_eq] at h
    exact ⟨_, List.length_map _, h⟩
  · rintro ⟨vs, hlen, h⟩
    obtain ⟨t, ht⟩ := exists_pcrString hlen
    exact ⟨t, verifyPCRDigestParsed_ok.mpr (ht ▸ h)⟩

/-- **Mask and selection.** The digest check ties the mask to the signed
selection, whatever values are reported, exactly when the blob does not
parse, the selection already is the mask, or the blob is no SHA-256 quote
over as many values as the mask has PCR indices. -/
theorem digest_binds_selection_iff (data : Bytes) (m : UInt32) :
    (∀ a t, parseTPMSAttest data = .ok a → verifyPCRDigestParsed a t m = .ok () → SelectsExactly a m) ↔
      (∀ a, parseTPMSAttest data = .ok a → SelectsExactly a m ∨
        ¬ ∃ vs : List Hash, vs.length = (maskPCRs m).length ∧
          SignsString a (vs.flatMap List.Vector.toList)) := by
  constructor
  · intro h a ha
    by_cases hex : ∃ t, verifyPCRDigestParsed a t m = .ok ()
    · obtain ⟨t, ht⟩ := hex
      exact .inl (h a t ha ht)
    · exact .inr (by rwa [← exists_accepted_iff])
  · intro h a t ha ht
    rcases h a ha with hs | hn
    · exact hs
    · exact absurd ((exists_accepted_iff a m).mp ⟨t, ht⟩) hn

/-- A quote over PCR 1 alone, with PCR 1 zero. -/
def quoteInfoPCR1 : QuoteInfo where
  pcrSelect := wireSelections tpmAlgSHA256 [[2, 0, 0]]
  pcrDigest := (sha256 (Blob.zero 32).toList).toList
  pcrHashAlg := tpmAlgSHA256

def quotePCR1 : TPMSAttest where
  magic := tpmGeneratedValue
  type := tpmSTAttestQuote
  qualifiedSigner := []
  extraData := []
  clockInfo := { clock := 0, resetCount := 0, restartCount := 0, safe := true }
  firmwareVersion := 0
  quoteInfo := some quoteInfoPCR1

theorem quotePCR1_encodes : quoteInfoPCR1.Encodes [[2, 0, 0]] where
  pcrSelect := rfl
  count := by decide
  size := by decide
  nonempty := by decide
  digest := by simp [quoteInfoPCR1]

theorem quotePCR1_wellFormed : quotePCR1.WellFormed where
  magic := rfl
  signer := by decide
  extraData := by decide
  quote := by decide
  quoteInfo := by
    rintro q ⟨⟩
    exact ⟨_, quotePCR1_encodes⟩

/-- A quote over PCR 1 passes the digest check under the mask of PCR 0. -/
theorem digest_accepts_other_index :
    ∃ a t, parseTPMSAttest (wireAttest quotePCR1) = .ok a ∧ verifyPCRDigestParsed a t 1 = .ok () ∧
      ¬ SelectsExactly a 1 := by
  refine ⟨quotePCR1, List.Vector.replicate 24 (Blob.zero 32),
    parseTPMSAttest_wireAttest quotePCR1_wellFormed, ?_, ?_⟩
  · rw [verifyPCRDigestParsed_ok]
    refine ⟨rfl, _, rfl, rfl, ?_⟩
    have hs : pcrString (List.Vector.replicate 24 (Blob.zero 32)) 1 = (Blob.zero 32).toList := by decide
    rw [hs]
    rfl
  · rintro ⟨q, hq, hsel⟩
    have h0 := hsel 0
    cases hq
    rw [selects_of_encodes quotePCR1_encodes] at h0
    exact absurd h0 (by decide)

end Lota.L1.Attest

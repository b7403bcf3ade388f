import Lota.L3Verifier.Policy

/-!
# Spelling of hex values in a policy (`verifier/verify/pcr.go`)

A policy writes its registers and its allowed hashes in hexadecimal. The two
are compared in different ways: a pinned register is decoded and compared as
bytes, a kernel or agent hash is encoded in lower case and compared as text. So
the letter case of a register does not matter and that of an allowed hash does.

* `verifyAgainstPolicy_ok`: when a report passes.
* `meets_congr`: what a policy asks for by value does not depend on spelling.
* `verdict_by_value_iff`: the verdicts on two spellings of a policy agree with
  the values exactly if a report that meets them finds its hashes spelled in
  lower case in both.
-/
namespace Lota.L3.Policy
open Lota.Core Lota.L1.Report

/-! ## Letter case -/

/-- The two texts differ at most in the case of letters. -/
def SameLetters (s t : String) : Prop := s.toList.map Char.toLower = t.toList.map Char.toLower

theorem hexVal_toLower (c : Char) : hexVal c.toLower = hexVal c := by
  unfold Char.toLower
  split
  · rename_i h
    obtain ⟨hlo, hhi⟩ := h
    have hge : 65 ≤ c.toNat := UInt32.le_iff_toNat_le.mp hlo
    have hle : c.toNat ≤ 90 := UInt32.le_iff_toNat_le.mp hhi
    have hadd : (c.val + ('a'.val - 'A'.val)).toNat = c.toNat + 32 := by
      rw [UInt32.toNat_add]
      show (c.toNat + 32) % 2 ^ 32 = c.toNat + 32
      omega
    unfold hexVal
    simp only [Char.toNat] at hge hle hadd ⊢
    rw [hadd]
    by_cases hf : c.val.toNat ≤ 70
    · rw [if_neg (by omega), if_pos (by omega), if_neg (by omega), if_neg (by omega), if_pos (by omega)]
      congr 1
    · rw [if_neg (by omega), if_neg (by omega), if_neg (by omega), if_neg (by omega), if_neg (by omega),
        if_neg (by omega)]
  · rfl

theorem hexByte_toLower {c d : Char} {b : UInt8} :
    hexByte c.toLower d.toLower = .ok b ↔ hexByte c d = .ok b := by
  unfold hexByte
  rw [hexVal_toLower, hexVal_toLower]
  cases hexVal c with
  | none => simp
  | some hi =>
    cases hexVal d with
    | none => simp
    | some lo => rfl

theorem hexDecodeChars_toLower (cs : List Char) (bs : Bytes) :
    hexDecodeChars (cs.map Char.toLower) = .ok bs ↔ hexDecodeChars cs = .ok bs := by
  induction cs using hexDecodeChars.induct generalizing bs with
  | case1 => rfl
  | case2 c => simp [hexDecodeChars]
  | case3 c d rest e he =>
    have hlow : ∀ b, hexByte c.toLower d.toLower ≠ .ok b := by
      intro b hb
      rw [hexByte_toLower.mp hb] at he
      cases he
    simp only [List.map_cons, hexDecodeChars, he]
    cases hb : hexByte c.toLower d.toLower with
    | error e' => simp
    | ok b => exact absurd hb (hlow b)
  | case4 c d rest b hb ih =>
    simp only [List.map_cons, hexDecodeChars, hb, hexByte_toLower.mpr hb]
    rw [except_map_ok, except_map_ok]
    exact exists_congr fun tail => and_congr_left fun _ => ih tail

theorem hexDecode_congr {s t : String} (h : SameLetters s t) (bs : Bytes) :
    hexDecode s = .ok bs ↔ hexDecode t = .ok bs := by
  unfold hexDecode
  rw [← hexDecodeChars_toLower s.toList, ← hexDecodeChars_toLower t.toList, h]

/-! ## What a policy asks for -/

theorem ValidIndex.toNat_lt {pcrIdx : Int} (h : ValidIndex pcrIdx) : pcrIdx.toNat < pcrCount :=
  (Int.toNat_lt h.1).mpr h.2

/-- A pinned register by value. -/
def PinMet (report : AttestationReport) (pcrIdx : Int) (expectedHex : String) : Prop :=
  ∃ h : ValidIndex pcrIdx, hasBit report.tpm.pcrMask pcrIdx.toNat = true ∧
    hexDecode expectedHex = .ok (report.tpm.pcrValues.get ⟨pcrIdx.toNat, h.toNat_lt⟩).toList

/-- A list of allowed hashes by value. -/
def AllowedMet (allowed : List String) (hash : Hash) : Prop :=
  allowed ≠ [] → ∃ s ∈ allowed, hexDecode s = .ok hash.toList

/-- The list has the hash in lower case, if it has anything. -/
def Spelled (allowed : List String) (hash : Hash) : Prop :=
  allowed ≠ [] → hexEncode hash.toList ∈ allowed

/-- Every required feature is there. -/
structure FeaturesMet (report : AttestationReport) (policy : PCRPolicy) : Prop where
  iommu : policy.requireIOMMU = true → hasFlag report.system.iommu.flags 0x04 = true
  enforce : policy.requireEnforce = true → hasFlag report.header.flags flagEnforce = true
  moduleSig : policy.requireModuleSig = true → hasFlag report.header.flags flagModuleSig = true
  secureBoot : policy.requireSecureBoot = true → hasFlag report.header.flags flagSecureBoot = true
  lockdown : policy.requireLockdown = true → hasFlag report.header.flags flagLockdown = true

/-- What the policy asks for, by value. -/
structure Meets (report : AttestationReport) (policy : PCRPolicy) : Prop where
  pcrs : ∀ pcrIdx expectedHex, policy.pcrs.lookup pcrIdx = some expectedHex →
    PinMet report pcrIdx expectedHex
  kernel : AllowedMet policy.kernelHashes report.system.kernelHash
  agent : AllowedMet policy.agentHashes report.system.agentHash
  features : FeaturesMet report policy

/-- Both lists have the reported hash in lower case, if they have anything. -/
def SpelledLower (report : AttestationReport) (policy : PCRPolicy) : Prop :=
  Spelled policy.kernelHashes report.system.kernelHash ∧
    Spelled policy.agentHashes report.system.agentHash

/-- Two policies that differ only in the letter case of hex values. -/
structure SameButCase (p q : PCRPolicy) : Prop where
  name : p.name = q.name
  description : p.description = q.description
  pcrs : ∀ pcrIdx, Option.Rel SameLetters (p.pcrs.lookup pcrIdx) (q.pcrs.lookup pcrIdx)
  kernelHashes : List.Forall₂ SameLetters p.kernelHashes q.kernelHashes
  agentHashes : List.Forall₂ SameLetters p.agentHashes q.agentHashes
  requireIOMMU : p.requireIOMMU = q.requireIOMMU
  requireEnforce : p.requireEnforce = q.requireEnforce
  requireModuleSig : p.requireModuleSig = q.requireModuleSig
  requireSecureBoot : p.requireSecureBoot = q.requireSecureBoot
  requireLockdown : p.requireLockdown = q.requireLockdown

/-- The report passes. -/
def Accepts (report : AttestationReport) (policy : PCRPolicy) : Prop :=
  policy.verifyAgainstPolicy report = .ok ()

/-! ## When a report passes -/

theorem forM_ok_iff {α : Type} {f : α → Except String Unit} {l : List α} :
    l.forM f = .ok () ↔ ∀ a ∈ l, f a = .ok () := by
  refine ⟨forM_ok, fun h => ?_⟩
  induction l with
  | nil => rfl
  | cons a l ih =>
    exact except_bind_ok.mpr ⟨(), h a List.mem_cons_self,
      ih fun b hb => h b (List.mem_cons_of_mem a hb)⟩

theorem checkPCR_ok {policy : PCRPolicy} {report : AttestationReport} {pcrIdx : Int}
    {expectedHex : String} :
    policy.checkPCR report pcrIdx expectedHex = .ok () ↔ PinMet report pcrIdx expectedHex := by
  unfold PCRPolicy.checkPCR PinMet
  by_cases h : ValidIndex pcrIdx
  · rw [dif_pos h]
    by_cases hb : hasBit report.tpm.pcrMask pcrIdx.toNat = true
    · cases hd : hexDecode expectedHex with
      | error e => simp [hb, h]
      | ok expected =>
        by_cases he : (report.tpm.pcrValues.get ⟨pcrIdx.toNat, (Int.toNat_lt h.1).mpr h.2⟩).toList =
          expected
        · simp [hb, h, he]
        · simp [hb, h, he, Ne.symm he]
    · simp [hb]
  · simp [h]

theorem checkAllowed_ok {what : String} {allowed : List String} {hash : Hash} :
    PCRPolicy.checkAllowed what allowed hash = .ok () ↔ Spelled allowed hash := by
  unfold PCRPolicy.checkAllowed Spelled
  by_cases h : allowed ≠ [] ∧ hexEncode hash.toList ∉ allowed
  · simp [h]
  · simp only [if_neg h, true_iff]
    intro hne
    by_contra hnot
    exact h ⟨hne, hnot⟩

theorem checkFeature_ok {required : Bool} {flags flag : UInt32} {err : String} :
    PCRPolicy.checkFeature required flags flag err = .ok () ↔
    (required = true → hasFlag flags flag = true) := by
  unfold PCRPolicy.checkFeature
  cases required <;> cases hasFlag flags flag <;> simp

/-- **Verdict.** Registers and features by value, hashes by spelling. -/
theorem verifyAgainstPolicy_ok {report : AttestationReport} {policy : PCRPolicy} :
    Accepts report policy ↔
      (∀ pcrIdx expectedHex, policy.pcrs.lookup pcrIdx = some expectedHex →
        PinMet report pcrIdx expectedHex) ∧
      SpelledLower report policy ∧ FeaturesMet report policy := by
  unfold Accepts PCRPolicy.verifyAgainstPolicy
  have hentries : (∀ e ∈ policy.pcrs.entries, PinMet report e.1 e.2) ↔
      ∀ pcrIdx expectedHex, policy.pcrs.lookup pcrIdx = some expectedHex →
      PinMet report pcrIdx expectedHex :=
    ⟨fun h i s hs => h ⟨i, s⟩ (AList.mem_lookup_iff.mp hs),
      fun h e he => h e.1 e.2 (AList.mem_lookup_iff.mpr he)⟩
  simp only [except_then_ok, forM_ok_iff, checkPCR_ok, checkAllowed_ok, checkFeature_ok, hentries]
  constructor
  · intro h
    obtain ⟨hpcrs, hkernel, hagent, h1, h2, h3, h4, h5⟩ := h
    exact ⟨hpcrs, ⟨hkernel, hagent⟩, h1, h2, h3, h4, h5⟩
  · intro h
    exact ⟨h.1, h.2.1.1, h.2.1.2, h.2.2.iommu, h.2.2.enforce, h.2.2.moduleSig, h.2.2.secureBoot,
      h.2.2.lockdown⟩

/-! ## Spelling -/

theorem Spelled.allowedMet {allowed : List String} {hash : Hash} (h : Spelled allowed hash) :
    AllowedMet allowed hash :=
  fun hne => ⟨_, h hne, hexDecode_hexEncode _⟩

/-- A report that passes meets the policy. -/
theorem accepts_iff {report : AttestationReport} {policy : PCRPolicy} :
    Accepts report policy ↔ Meets report policy ∧ SpelledLower report policy := by
  rw [verifyAgainstPolicy_ok]
  constructor
  · intro h
    exact ⟨⟨h.1, h.2.1.1.allowedMet, h.2.1.2.allowedMet, h.2.2⟩, h.2.1⟩
  · intro h
    exact ⟨h.1.pcrs, h.2, h.1.features⟩

theorem PinMet.congr {report : AttestationReport} {pcrIdx : Int} {s t : String} (hst : SameLetters s t)
    (h : PinMet report pcrIdx s) : PinMet report pcrIdx t := by
  obtain ⟨hv, hb, hd⟩ := h
  exact ⟨hv, hb, (hexDecode_congr hst _).mp hd⟩

theorem exists_sameLetters {l m : List String} (h : List.Forall₂ SameLetters l m) {s : String}
    (hs : s ∈ l) : ∃ t ∈ m, SameLetters s t := by
  induction h with
  | nil => cases hs
  | cons hab _ ih =>
    rcases List.mem_cons.mp hs with heq | hs
    · exact ⟨_, List.mem_cons_self, heq ▸ hab⟩
    · obtain ⟨t, ht, hst⟩ := ih hs
      exact ⟨t, List.mem_cons_of_mem _ ht, hst⟩

theorem AllowedMet.congr {l m : List String} {hash : Hash} (hlm : List.Forall₂ SameLetters l m)
    (h : AllowedMet l hash) : AllowedMet m hash := by
  intro hne
  have hl : l ≠ [] := by
    intro hnil
    subst hnil
    cases hlm
    exact hne rfl
  obtain ⟨s, hs, hd⟩ := h hl
  obtain ⟨t, ht, hst⟩ := exists_sameLetters hlm hs
  exact ⟨t, ht, (hexDecode_congr hst _).mp hd⟩

theorem SameButCase.symm {p q : PCRPolicy} (h : SameButCase p q) : SameButCase q p where
  name := h.name.symm
  description := h.description.symm
  pcrs i := by
    have hi := h.pcrs i
    revert hi
    cases p.pcrs.lookup i <;> cases q.pcrs.lookup i <;> intro hi <;> cases hi
    · exact Option.Rel.none
    · rename_i hst
      exact Option.Rel.some hst.symm
  kernelHashes := (h.kernelHashes.imp fun _ _ hst => hst.symm).flip
  agentHashes := (h.agentHashes.imp fun _ _ hst => hst.symm).flip
  requireIOMMU := h.requireIOMMU.symm
  requireEnforce := h.requireEnforce.symm
  requireModuleSig := h.requireModuleSig.symm
  requireSecureBoot := h.requireSecureBoot.symm
  requireLockdown := h.requireLockdown.symm

theorem Meets.congr {report : AttestationReport} {p q : PCRPolicy} (hpq : SameButCase p q)
    (h : Meets report p) : Meets report q where
  pcrs i t ht := by
    have hi := hpq.pcrs i
    rw [ht] at hi
    cases hs : p.pcrs.lookup i with
    | none => rw [hs] at hi; cases hi
    | some s =>
      rw [hs] at hi
      cases hi with
      | some hst => exact (h.pcrs i s hs).congr hst
  kernel := h.kernel.congr hpq.kernelHashes
  agent := h.agent.congr hpq.agentHashes
  features :=
    ⟨hpq.requireIOMMU ▸ h.features.iommu, hpq.requireEnforce ▸ h.features.enforce,
      hpq.requireModuleSig ▸ h.features.moduleSig, hpq.requireSecureBoot ▸ h.features.secureBoot,
      hpq.requireLockdown ▸ h.features.lockdown⟩

/-- What is asked for by value is the same for both spellings. -/
theorem meets_congr {report : AttestationReport} {p q : PCRPolicy} (h : SameButCase p q) :
    Meets report p ↔ Meets report q := ⟨Meets.congr h, Meets.congr h.symm⟩

/-- The verdict is the same for both spellings, and it is the one by value. -/
def VerdictByValue (report : AttestationReport) (p q : PCRPolicy) : Prop :=
  (Accepts report p ↔ Accepts report q) ∧ (Accepts report p ↔ Meets report p)

/-- **Spelling.** Two spellings of a policy get the verdict by value exactly if
a report that meets the policy finds its kernel and agent hash in lower case in
the lists of both. -/
theorem verdict_by_value_iff (report : AttestationReport) (p q : PCRPolicy) (h : SameButCase p q) :
    VerdictByValue report p q ↔ (Meets report p → SpelledLower report p ∧ SpelledLower report q) := by
  unfold VerdictByValue
  rw [accepts_iff, accepts_iff, ← meets_congr h]
  constructor
  · intro hv hm
    have hp := (hv.2.mpr hm).2
    exact ⟨hp, (hv.1.mp ⟨hm, hp⟩).2⟩
  · intro hs
    refine ⟨⟨fun hp => ⟨hp.1, (hs hp.1).2⟩, fun hq => ⟨hq.1, (hs hq.1).1⟩⟩,
      ⟨fun hp => hp.1, fun hm => ⟨hm, (hs hm).1⟩⟩⟩

/-! ## One hash in upper case -/

/-- Every byte of the registers is `cd`, every byte of the hashes `ab`. -/
def abReport : AttestationReport where
  header := { magic := reportMagic, version := reportVersion, reportSize := 8024, flags := 0 }
  tpm :=
    { pcrValues := List.Vector.replicate 24 (List.Vector.replicate 32 0xcd), pcrMask := 0x4083
      quoteSignature := Blob.zero 512, quoteSigSize := 0, attestData := Blob.zero 1024, attestSize := 0
      aikPublic := Blob.zero 512, aikPublicSize := 0, aikCertificate := Blob.zero 2048, aikCertSize := 0
      ekCertificate := Blob.zero 2048, ekCertSize := 0, nonce := Blob.zero 32,
      hardwareID := Blob.zero 32
      aikGeneration := 0, prevAIKPublic := Blob.zero 512, prevAIKSize := 0, quoteSigAlg := 0,
      quoteSigHashAlg := 0 }
  system :=
    { kernelHash := List.Vector.replicate 32 0xab, agentHash := List.Vector.replicate 32 0xab
      kernelPath := Blob.zero 256
      iommu := { vendor := 0, flags := 0, unitCount := 0, cmdlineParam := Blob.zero 64 } }
  bpf := { totalExecEvents := 0, uniqueBinaries := 0, firstEventTS := 0, lastEventTS := 0 }
  eventLog := []

/-- A policy that pins register 0 and allows one kernel. -/
def kernelPolicy (pcr0 kernel : String) : PCRPolicy where
  name := "kernel"
  pcrs := AList.insert 0 pcr0 ∅
  kernelHashes := [kernel]

def cdLower : String := "cdcdcdcdcdcdcdcdcdcdcdcdcdcdcdcdcdcdcdcdcdcdcdcdcdcdcdcdcdcdcdcd"
def cdUpper : String := "CDCDCDCDCDCDCDCDCDCDCDCDCDCDCDCDCDCDCDCDCDCDCDCDCDCDCDCDCDCDCDCD"
def abLower : String := "abababababababababababababababababababababababababababababababab"
def abUpper : String := "ABABABABABABABABABABABABABABABABABABABABABABABABABABABABABABABAB"

theorem kernelPolicy_sameButCase {a b c d : String} (hab : SameLetters a b) (hcd : SameLetters c d) :
    SameButCase (kernelPolicy a c) (kernelPolicy b d) where
  name := rfl
  description := rfl
  pcrs i := by
    show Option.Rel SameLetters ((AList.insert 0 a ∅ : GoMap Int String).lookup i) _
    rw [lookup_insert_ite]
    show Option.Rel SameLetters _ ((AList.insert 0 b ∅ : GoMap Int String).lookup i)
    rw [lookup_insert_ite]
    by_cases hi : i = 0
    · rw [if_pos hi, if_pos hi]
      exact Option.Rel.some hab
    · rw [if_neg hi, if_neg hi]
      exact Option.Rel.none
  kernelHashes := .cons hcd .nil
  agentHashes := .nil
  requireIOMMU := rfl
  requireEnforce := rfl
  requireModuleSig := rfl
  requireSecureBoot := rfl
  requireLockdown := rfl

theorem cd_sameLetters : SameLetters cdUpper cdLower := by unfold SameLetters; decide +kernel

theorem ab_sameLetters : SameLetters abUpper abLower := by unfold SameLetters; decide +kernel

theorem abReport_meets (pcr0 kernel : String) (h0 : hexDecode pcr0 = .ok (List.replicate 32 0xcd))
    (hk : hexDecode kernel = .ok (List.replicate 32 0xab)) :
    Meets abReport (kernelPolicy pcr0 kernel) where
  pcrs i s hs := by
    change (AList.insert 0 pcr0 ∅ : GoMap Int String).lookup i = some s at hs
    rw [lookup_insert_ite] at hs
    split at hs
    · rename_i hi
      subst hi
      cases hs
      exact ⟨by decide, by decide, h0⟩
    · cases hs
  kernel _ := ⟨kernel, List.mem_singleton_self _, hk⟩
  agent h := absurd rfl h
  features := ⟨nofun, nofun, nofun, nofun, nofun⟩

/-- The register in upper and in lower case, the kernel hash in lower case. -/
theorem verdict_by_value_lower :
    VerdictByValue abReport (kernelPolicy cdUpper abLower) (kernelPolicy cdLower abLower) := by
  refine (verdict_by_value_iff abReport _ _ (kernelPolicy_sameButCase cd_sameLetters rfl)).mpr
    fun _ => ?_
  have hs : hexEncode abReport.system.kernelHash.toList ∈ [abLower] := by decide +kernel
  exact ⟨⟨fun _ => hs, fun h => absurd rfl h⟩, fun _ => hs, fun h => absurd rfl h⟩

/-- **Upper case.** A report of an allowed kernel is refused when the policy
writes the hash in upper case. -/
theorem upper_case_refused : SameButCase (kernelPolicy cdUpper abUpper) (kernelPolicy cdLower abLower) ∧
    ¬ VerdictByValue abReport (kernelPolicy cdUpper abUpper) (kernelPolicy cdLower abLower) := by
  refine ⟨kernelPolicy_sameButCase cd_sameLetters ab_sameLetters, fun h => ?_⟩
  have hm : Meets abReport (kernelPolicy cdUpper abUpper) :=
    abReport_meets _ _ (by decide +kernel) (by decide +kernel)
  have hs := (accepts_iff.mp (h.2.mpr hm)).2.1 (by decide)
  exact absurd hs (by decide +kernel)

end Lota.L3.Policy

import Lota.L1Wire.Report

/-!
# PCR policies (`verifier/verify/pcr.go`)

A `PCRVerifier` holds policies by name and compares reports with the active
one. The policy also decides which registers a challenge asks for.

The source walks the `pcrs` map in no fixed order; which of several
mismatches is reported depends on it, whether the report passes does not.

* `verifyReport_listed`: a report that passes quotes every register the
  active policy lists.
* `getRequiredMask_bit`: the registers a challenge asks for.
-/
namespace Lota.L3.Policy
open Lota.Core Lota.L1.Report

/-- mirrors src/verifier/verify/pcr.go:24-55 -/
structure PCRPolicy where
  name : String
  description : String := ""
  pcrs : GoMap Int String := ∅
  kernelHashes : List String := []
  agentHashes : List String := []
  requireIOMMU : Bool := false
  requireEnforce : Bool := false
  requireModuleSig : Bool := false
  requireSecureBoot : Bool := false
  requireLockdown : Bool := false

/-- mirrors src/verifier/verify/pcr.go:58-67; the fields `LoadPolicy` reads
are not part of the model. -/
structure PCRVerifier where
  policies : GoMap String PCRPolicy := ∅
  active : String := ""

/-- mirrors src/verifier/verify/pcr.go:394-409 -/
def defaultPolicy : PCRPolicy where
  name := "default"
  description := "Built-in baseline policy - enforces security requirements without specific PCR values"
  requireIOMMU := true
  requireEnforce := true
  requireModuleSig := true

def ValidIndex (pcrIdx : Int) : Prop := 0 ≤ pcrIdx ∧ pcrIdx < pcrCount

instance (pcrIdx : Int) : Decidable (ValidIndex pcrIdx) := inferInstanceAs (Decidable (_ ∧ _))

namespace PCRPolicy

/-- mirrors src/verifier/verify/pcr.go:134-145 -/
def validatePolicyPCRIndices (policy : PCRPolicy) : Except String Unit :=
  match policy.pcrs.keys.find? fun pcrIdx => ¬ ValidIndex pcrIdx with
  | some pcrIdx =>
    .error s!"invalid PCR index in policy '{policy.name}': {pcrIdx} (valid range: 0..{pcrCount - 1})"
  | none => .ok ()

/-- mirrors src/verifier/verify/pcr.go:431-448 (`GetRequiredMask`) -/
def getRequiredMask (p : PCRPolicy) : UInt32 :=
  p.pcrs.keys.foldl (fun mask pcrIdx =>
    if ValidIndex pcrIdx then mask ||| ((1 : UInt32) <<< UInt32.ofNat pcrIdx.toNat) else mask) 0
  ||| (((1 : UInt32) <<< 14) ||| ((1 : UInt32) <<< 0) ||| ((1 : UInt32) <<< 1) ||| ((1 : UInt32) <<< 7))

/-! ## Comparing a report -/

/-- One round of the loop over `policy.PCRs`.
mirrors src/verifier/verify/pcr.go:247-267 -/
def checkPCR (policy : PCRPolicy) (report : AttestationReport) (pcrIdx : Int) (expectedHex : String) :
    Except String Unit :=
  if h : ValidIndex pcrIdx then
    if ¬ hasBit report.tpm.pcrMask pcrIdx.toNat then .error s!"PCR {pcrIdx} not included in quote"
    else
      match hexDecode expectedHex with
      | .error e => .error (s!"invalid expected hash for PCR {pcrIdx}: " ++ e)
      | .ok expected =>
        let actual := (report.tpm.pcrValues.get ⟨pcrIdx.toNat, (Int.toNat_lt h.1).mpr h.2⟩).toList
        if actual ≠ expected then
          .error (s!"PCR {pcrIdx} mismatch: got {hexEncode actual}, expected {expectedHex}")
        else .ok ()
  else .error s!"invalid PCR index in policy '{policy.name}': {pcrIdx}"

/-- An allowlist of hashes; an empty one allows everything.
mirrors src/verifier/verify/pcr.go:270-282 and 285-297 -/
def checkAllowed (what : String) (allowed : List String) (hash : Hash) : Except String Unit :=
  if allowed ≠ [] ∧ hexEncode hash.toList ∉ allowed then
    .error (what ++ " hash not in allowed list: " ++ hexEncode hash.toList)
  else .ok ()

/-- A feature that has to be there if the policy asks for it. -/
def checkFeature (required : Bool) (flags flag : UInt32) (err : String) : Except String Unit :=
  if required ∧ ¬ hasFlag flags flag then .error err else .ok ()

/-- mirrors src/verifier/verify/pcr.go:245-335 (`verifyAgainstPolicy`) -/
def verifyAgainstPolicy (report : AttestationReport) (policy : PCRPolicy) : Except String Unit := do
  policy.pcrs.entries.forM fun e => policy.checkPCR report e.1 e.2
  checkAllowed "kernel" policy.kernelHashes report.system.kernelHash
  checkAllowed "agent" policy.agentHashes report.system.agentHash
  checkFeature policy.requireIOMMU report.system.iommu.flags 0x04 "IOMMU DMA remapping not enabled"
  checkFeature policy.requireEnforce report.header.flags flagEnforce "LSM enforce mode not active"
  checkFeature policy.requireModuleSig report.header.flags flagModuleSig
    "kernel module signature enforcement not enabled"
  checkFeature policy.requireSecureBoot report.header.flags flagSecureBoot "Secure Boot not enabled"
  checkFeature policy.requireLockdown report.header.flags flagLockdown "kernel lockdown not active"

end PCRPolicy

namespace PCRVerifier

/-- mirrors src/verifier/verify/pcr.go:199-217 (`AddPolicy`) -/
def addPolicy (v : PCRVerifier) (policy : PCRPolicy) : PCRVerifier × Except String Unit :=
  match policy.validatePolicyPCRIndices with
  | .error e => (v, .error e)
  | .ok () =>
    ({ policies := v.policies.insert policy.name policy
       active := if v.active = "" then policy.name else v.active }, .ok ())

/-- mirrors src/verifier/verify/pcr.go:220-230 (`SetActivePolicy`) -/
def setActivePolicy (v : PCRVerifier) (name : String) : PCRVerifier × Except String Unit :=
  match v.policies.lookup name with
  | none => (v, .error ("policy not found: " ++ name))
  | some _ => ({ v with active := name }, .ok ())

/-- mirrors src/verifier/verify/pcr.go:346-351 (`GetActivePolicyConfig`) -/
def getActivePolicyConfig (v : PCRVerifier) : Option PCRPolicy := v.policies.lookup v.active

/-- mirrors src/verifier/verify/pcr.go:233-243 (`VerifyReport`) -/
def verifyReport (v : PCRVerifier) (report : AttestationReport) : Except String Unit :=
  match v.getActivePolicyConfig with
  | none => .error "no active policy configured"
  | some policy => policy.verifyAgainstPolicy report

/-- The active policy has an entry for register `i`. -/
def lists (v : PCRVerifier) (i : Nat) : Bool :=
  match v.getActivePolicyConfig with
  | none => false
  | some policy => (policy.pcrs.lookup (i : Int)).isSome

/-- mirrors src/verifier/verify/pcr.go:359-376 (`ActivePolicyDeclaresBootPCRs`) -/
def activePolicyDeclaresBootPCRs (v : PCRVerifier) : Bool := v.lists 0 && v.lists 1 && v.lists 7

/-- mirrors src/verifier/verify/pcr.go:451-461 (`GetActivePolicyMask`) -/
def getActivePolicyMask (v : PCRVerifier) : UInt32 :=
  (v.getActivePolicyConfig.getD defaultPolicy).getRequiredMask

end PCRVerifier

/-! ## What a challenge asks for -/

/-- Bit `i` of an accumulated mask comes from the start or from an index. -/
theorem foldl_mask_bit (l : List Int) (m : UInt32) {i : Nat} (hi : i < 24) :
    hasBit (l.foldl (fun mask pcrIdx =>
      if ValidIndex pcrIdx then mask ||| ((1 : UInt32) <<< UInt32.ofNat pcrIdx.toNat)
        else mask) m) i = true ↔
    hasBit m i = true ∨ (i : Int) ∈ l := by
  induction l generalizing m with
  | nil => simp
  | cons a l ih =>
    rw [List.foldl_cons, ih, List.mem_cons]
    by_cases ha : ValidIndex a
    · rw [if_pos ha]
      have hlt : a.toNat < 32 := by
        obtain ⟨h1, h2⟩ := ha
        have : (pcrCount : Int) = 24 := rfl
        omega
      rw [hasBit_or (by omega), hasBit_one_shiftLeft (by omega) hlt]
      have hai : (i : Int) = a ↔ a.toNat = i := by
        obtain ⟨h1, -⟩ := ha
        omega
      rw [hai]
      tauto
    · rw [if_neg ha]
      have hai : (i : Int) ≠ a := by
        intro h
        apply ha
        subst h
        exact ⟨by omega, by exact_mod_cast hi⟩
      tauto

/-- A challenge asks for registers 0, 1, 7 and 14 and those of the policy. -/
theorem PCRPolicy.getRequiredMask_bit (p : PCRPolicy) {i : Nat} (hi : i < 24) :
    hasBit p.getRequiredMask i = true ↔
      i = 0 ∨ i = 1 ∨ i = 7 ∨ i = 14 ∨ (p.pcrs.lookup (i : Int)).isSome = true := by
  unfold PCRPolicy.getRequiredMask
  rw [hasBit_or (by omega), foldl_mask_bit _ _ hi]
  have hfix : hasBit (((1 : UInt32) <<< 14) ||| ((1 : UInt32) <<< 0) ||| ((1 : UInt32) <<< 1) |||
      ((1 : UInt32) <<< 7)) i = true ↔ i = 0 ∨ i = 1 ∨ i = 7 ∨ i = 14 := by
    have : ∀ j < 24, hasBit (((1 : UInt32) <<< 14) ||| ((1 : UInt32) <<< 0) ||| ((1 : UInt32) <<< 1) |||
        ((1 : UInt32) <<< 7)) j = true ↔ j = 0 ∨ j = 1 ∨ j = 7 ∨ j = 14 := by decide
    exact this i hi
  have hzero : hasBit 0 i = false := by
    rw [hasBit_eq (by omega)]
    simp
  rw [hfix, hzero, AList.lookup_isSome, AList.mem_keys]
  simp only [Bool.false_eq_true, false_or]
  tauto

theorem PCRVerifier.getActivePolicyMask_bit (v : PCRVerifier) {i : Nat} (hi : i < 24) :
    hasBit v.getActivePolicyMask i = true ↔ i = 0 ∨ i = 1 ∨ i = 7 ∨ i = 14 ∨ v.lists i = true := by
  unfold PCRVerifier.getActivePolicyMask PCRVerifier.lists
  rw [PCRPolicy.getRequiredMask_bit _ hi]
  cases v.getActivePolicyConfig with
  | none => simp [defaultPolicy]
  | some policy => rfl

/-! ## What a passed comparison means -/

theorem PCRPolicy.checkPCR_quoted {policy : PCRPolicy} {report : AttestationReport} {pcrIdx : Int}
    {hex : String}
    (h : policy.checkPCR report pcrIdx hex = .ok ()) :
    hasBit report.tpm.pcrMask pcrIdx.toNat = true := by
  unfold PCRPolicy.checkPCR at h
  split at h
  · split at h
    · cases h
    · rename_i hb
      simpa using hb
  · cases h

theorem forM_ok {α : Type} {f : α → Except String Unit} {l : List α} (h : l.forM f = .ok ()) :
    ∀ a ∈ l, f a = .ok () := by
  induction l with
  | nil => simp
  | cons a l ih =>
    obtain ⟨u, hf, hl⟩ := except_bind_ok.mp h
    intro b hb
    rcases List.mem_cons.mp hb with hb | hb
    · rw [hb, hf]
    · exact ih hl b hb

/-- A report that passes quotes every register the active policy lists. -/
theorem PCRVerifier.verifyReport_listed {v : PCRVerifier} {report : AttestationReport}
    (h : v.verifyReport report = .ok ()) {i : Nat} (hl : v.lists i = true) :
    hasBit report.tpm.pcrMask i = true := by
  unfold PCRVerifier.verifyReport at h
  unfold PCRVerifier.lists at hl
  cases hp : v.getActivePolicyConfig with
  | none => rw [hp] at hl; cases hl
  | some policy =>
    rw [hp] at h hl
    obtain ⟨hex, hx⟩ := Option.isSome_iff_exists.mp hl
    obtain ⟨u, hall, -⟩ := except_bind_ok.mp h
    have hmem : (⟨(i : Int), hex⟩ : Sigma fun _ : Int => String) ∈ policy.pcrs.entries :=
      AList.mem_lookup_iff.mp hx
    have hcheck : policy.checkPCR report (i : Int) hex = .ok () := forM_ok hall _ hmem
    have hq := PCRPolicy.checkPCR_quoted hcheck
    rwa [Int.toNat_natCast] at hq

/-- A policy that lists nothing and requires nothing lets every report pass. -/
theorem PCRPolicy.verifyAgainstPolicy_empty (name : String) (report : AttestationReport) :
    PCRPolicy.verifyAgainstPolicy report { name } = .ok () := rfl

end Lota.L3.Policy

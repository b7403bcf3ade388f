import Lota.L3Verifier.Policy

/-!
# Loading policies from disk (`LoadPolicy`, `verifier/verify/policy_sign.go`)

`LoadPolicy` reads the policy file and parses what it read. The signature is
checked by `VerifyPolicyFile`, which reads the file again. The file may change
in between, so a call meets four independent answers of the file system.

The YAML parser and Ed25519 are the parameter `L`; nothing is assumed about
them.

* `loadPolicy_ok`, `loadPolicy_of_admissible`: when a call succeeds and what it
  installs.
* `installs_signed_iff`: the bytes installed are bytes whose signature the
  call verified exactly when both reads returned the same bytes, or the call
  fails for another reason.
* `swapped_policy_installed`: an unsigned policy that is installed.
-/
namespace Lota.L3.Policy
open Lota.Core

/-- `yaml.Unmarshal` into a `PCRPolicy` and `ed25519.Verify`. -/
structure PolicyLib where
  unmarshal : Bytes → Except String PCRPolicy
  ed25519Verify : (pubKey data sig : Bytes) → Bool

/-- A `PCRVerifier` with the fields `LoadPolicy` reads. -/
structure PolicyLoader extends PCRVerifier where
  policyPubKey : Option Bytes := none
  allowPermissivePolicy : Bool := false

def policySigSize : Nat := 64
def policyMaxFileSize : Nat := 64 * 1024

/-- What the file system answers during one call, in the order of the
questions: the read of `LoadPolicy`, then in `VerifyPolicyFile` the size, the
second read and the read of the signature file. -/
structure Reads where
  first : Except String Bytes
  size : Except String Nat
  second : Except String Bytes
  sig : Except String Bytes

/-- mirrors src/verifier/verify/pcr.go:127-132 -/
def isMeasurementEmptyPolicy (policy : PCRPolicy) : Bool :=
  policy.pcrs.keys.length = 0 ∧ policy.kernelHashes.length = 0 ∧ policy.agentHashes.length = 0

section
variable (L : PolicyLib)

/-- mirrors src/verifier/verify/policy_sign.go:73-83 -/
def verifyPolicySignature (data sig pubKey : Bytes) : Except String Unit :=
  if sig.length ≠ policySigSize then .error "signature must be exactly 64 bytes"
  else if L.ed25519Verify pubKey data sig = false then .error "invalid Ed25519 signature"
  else .ok ()

/-- mirrors src/verifier/verify/policy_sign.go:108-119 -/
def readBoundedFile (size : Except String Nat) (file : Except String Bytes) : Except String Bytes :=
  match size with
  | .error e => .error e
  | .ok n => if n > policyMaxFileSize then .error "file exceeds maximum size" else file

/-- The result and, behind it, the byte strings whose signature was found
valid.
mirrors src/verifier/verify/policy_sign.go:89-102 -/
def verifyPolicyFile (reads : Reads) (pubKey : Bytes) : Except String Unit × List Bytes :=
  match readBoundedFile reads.size reads.second with
  | .error e => (.error ("read policy: " ++ e), [])
  | .ok data =>
    match reads.sig with
    | .error e => (.error ("read signature file: " ++ e), [])
    | .ok sig =>
      match verifyPolicySignature L data sig pubKey with
      | .error e => (.error e, [])
      | .ok () => (.ok (), [data])

/-- One call of `LoadPolicy`: the loader after it, the result, and the byte
strings whose signature the call verified. -/
structure LoadCall where
  loader : PolicyLoader
  result : Except String Unit
  verified : List Bytes

/-- The part behind the signature check.
mirrors src/verifier/verify/pcr.go:166-195 -/
def PolicyLoader.install (v : PolicyLoader) (data : Bytes) : Except String PolicyLoader :=
  match L.unmarshal data with
  | .error e => .error ("failed to parse policy: " ++ e)
  | .ok policy =>
    match policy.validatePolicyPCRIndices with
    | .error e => .error e
    | .ok () =>
      if isMeasurementEmptyPolicy policy ∧ v.allowPermissivePolicy = false then
        .error ("refusing to load measurement-empty PCR policy '" ++ policy.name ++
          "' (no pcrs and no kernel_hashes/agent_hashes)")
      else .ok { v with
        policies := v.policies.insert policy.name policy
        active := if v.active = "" then policy.name else v.active }

/-- mirrors src/verifier/verify/pcr.go:156-164 -/
def PolicyLoader.checkSignature (v : PolicyLoader) (reads : Reads) : Except String Unit × List Bytes :=
  match v.policyPubKey with
  | none => (.ok (), [])
  | some pubKey => verifyPolicyFile L reads pubKey

/-- mirrors src/verifier/verify/pcr.go:150-196 -/
def PolicyLoader.loadPolicy (v : PolicyLoader) (reads : Reads) : LoadCall :=
  match reads.first with
  | .error e => ⟨v, .error ("failed to read policy file: " ++ e), []⟩
  | .ok data =>
    match v.checkSignature L reads with
    | (.error e, verified) => ⟨v, .error ("policy signature verification failed: " ++ e), verified⟩
    | (.ok (), verified) =>
      match v.install L data with
      | .error e => ⟨v, .error e, verified⟩
      | .ok v' => ⟨v', .ok (), verified⟩

end

/-! ## What a successful call did -/

variable {L : PolicyLib}

/-- The second read and the signature file are a validly signed pair. -/
structure SignedPair (L : PolicyLib) (reads : Reads) (pubKey data : Bytes) : Prop where
  size : ∃ n, reads.size = .ok n ∧ n ≤ policyMaxFileSize
  second : reads.second = .ok data
  sig : ∃ sig, reads.sig = .ok sig ∧ sig.length = policySigSize ∧ L.ed25519Verify pubKey data sig = true

/-- The bytes are a policy that the loader admits. -/
structure Admissible (L : PolicyLib) (v : PolicyLoader) (data : Bytes) (policy : PCRPolicy) : Prop where
  parsed : L.unmarshal data = .ok policy
  indices : policy.validatePolicyPCRIndices = .ok ()
  measured : isMeasurementEmptyPolicy policy = true → v.allowPermissivePolicy = true

theorem verifyPolicySignature_ok {data sig pubKey : Bytes} :
    verifyPolicySignature L data sig pubKey = .ok () ↔
      sig.length = policySigSize ∧ L.ed25519Verify pubKey data sig = true := by
  unfold verifyPolicySignature
  rw [except_guard_ok, except_guard_ok]
  simp

theorem readBoundedFile_ok {size : Except String Nat} {file : Except String Bytes} {data : Bytes} :
    readBoundedFile size file = .ok data ↔ (∃ n, size = .ok n ∧ n ≤ policyMaxFileSize) ∧
    file = .ok data := by
  unfold readBoundedFile
  cases size with
  | error e => simp
  | ok n =>
    simp only [except_guard_ok, Except.ok.injEq]
    constructor
    · intro ⟨hn, hf⟩
      exact ⟨⟨n, rfl, Nat.not_lt.mp hn⟩, hf⟩
    · intro ⟨⟨m, hm, hle⟩, hf⟩
      subst hm
      exact ⟨Nat.not_lt.mpr hle, hf⟩

theorem verifyPolicyFile_ok {reads : Reads} {pubKey : Bytes} {verified : List Bytes} :
    verifyPolicyFile L reads pubKey = (.ok (), verified) ↔ ∃ data, SignedPair L reads pubKey data ∧
    verified = [data] := by
  unfold verifyPolicyFile
  cases hr : readBoundedFile reads.size reads.second with
  | error e =>
    have hno : ∀ data, ¬ SignedPair L reads pubKey data := by
      intro data h
      have hok := readBoundedFile_ok.mpr ⟨h.size, h.second⟩
      rw [hr] at hok
      cases hok
    simp [hno]
  | ok data =>
    obtain ⟨hsize, hsecond⟩ := readBoundedFile_ok.mp hr
    cases hs : reads.sig with
    | error e =>
      have hno : ∀ data, ¬ SignedPair L reads pubKey data := by
        intro data h
        obtain ⟨sig, hsig, -⟩ := h.sig
        rw [hs] at hsig
        cases hsig
      simp [hno]
    | ok sig =>
      cases hv : verifyPolicySignature L data sig pubKey with
      | error e =>
        have hno : ∀ data, ¬ SignedPair L reads pubKey data := by
          intro data' h
          obtain ⟨sig', hsig, hok⟩ := h.sig
          cases hs.symm.trans hsig
          cases hsecond.symm.trans h.second
          rw [verifyPolicySignature_ok.mpr hok] at hv
          cases hv
        simp [hno, hv]
      | ok u =>
        simp only [hv, Prod.mk.injEq, true_and]
        constructor
        · intro h
          exact ⟨data, ⟨hsize, hsecond, sig, hs, verifyPolicySignature_ok.mp hv⟩, h.symm⟩
        · intro ⟨data', h, hverified⟩
          cases hsecond.symm.trans h.second
          exact hverified.symm

/-- The loader with the policy in place. -/
def PolicyLoader.withPolicy (v : PolicyLoader) (policy : PCRPolicy) : PolicyLoader :=
  { v with
    policies := v.policies.insert policy.name policy
    active := if v.active = "" then policy.name else v.active }

theorem install_ok_iff {v v' : PolicyLoader} {data : Bytes} :
    v.install L data = .ok v' ↔ ∃ policy, Admissible L v data policy ∧
      v' = v.withPolicy policy := by
  unfold PolicyLoader.install
  cases hp : L.unmarshal data with
  | error e =>
    have hno : ∀ policy, ¬ Admissible L v data policy := by
      intro policy h
      have := h.parsed
      rw [hp] at this
      cases this
    simp [hno]
  | ok policy =>
    cases hi : policy.validatePolicyPCRIndices with
    | error e =>
      have hno : ∀ policy, ¬ Admissible L v data policy := by
        intro policy' h
        cases hp.symm.trans h.parsed
        have := h.indices
        rw [hi] at this
        cases this
      simp [hi, hno]
    | ok u =>
      simp only [hi, except_guard_ok, Except.ok.injEq]
      constructor
      · intro ⟨hm, hv'⟩
        refine ⟨policy, ⟨hp, hi, ?_⟩, hv'.symm⟩
        intro hempty
        rw [← Bool.not_eq_false]
        exact fun hallow => hm ⟨hempty, hallow⟩
      · intro ⟨policy', ha, hv'⟩
        cases hp.symm.trans ha.parsed
        refine ⟨?_, hv'.symm⟩
        intro ⟨hempty, hallow⟩
        rw [ha.measured hempty] at hallow
        cases hallow

/-- A call that succeeds under a configured key: the second read was signed,
the first read was admissible, and the policy of the first read is in place. -/
structure Loads (L : PolicyLib) (v : PolicyLoader) (reads : Reads) (pubKey first second : Bytes)
    (policy : PCRPolicy) : Prop where
  readFirst : reads.first = .ok first
  signed : SignedPair L reads pubKey second
  admissible : Admissible L v first policy
  call : v.loadPolicy L reads = ⟨v.withPolicy policy, .ok (), [second]⟩

theorem loadPolicy_ok {v : PolicyLoader} {pubKey : Bytes} (hkey : v.policyPubKey = some pubKey)
    {reads : Reads}
    (h : (v.loadPolicy L reads).result = .ok ()) :
    ∃ first second policy, Loads L v reads pubKey first second policy := by
  cases hf : reads.first with
  | error e =>
    unfold PolicyLoader.loadPolicy at h
    rw [hf] at h
    cases h
  | ok first =>
    have hsig : v.checkSignature L reads = verifyPolicyFile L reads pubKey := by
      unfold PolicyLoader.checkSignature
      rw [hkey]
    cases hv : verifyPolicyFile L reads pubKey with
    | mk result verified =>
      cases result with
      | error e =>
        unfold PolicyLoader.loadPolicy at h
        simp only [hf, hsig, hv] at h
        cases h
      | ok u =>
        obtain ⟨second, hpair, rfl⟩ := verifyPolicyFile_ok.mp hv
        cases hi : v.install L first with
        | error e =>
          unfold PolicyLoader.loadPolicy at h
          simp only [hf, hsig, hv, hi] at h
          cases h
        | ok v' =>
          obtain ⟨policy, ha, rfl⟩ := install_ok_iff.mp hi
          refine ⟨first, second, policy, hf, hpair, ha, ?_⟩
          unfold PolicyLoader.loadPolicy
          simp only [hf, hsig, hv, hi]

theorem loadPolicy_of_admissible {v : PolicyLoader} {pubKey : Bytes}
    (hkey : v.policyPubKey = some pubKey)
    {reads : Reads} {first second : Bytes} {policy : PCRPolicy} (hf : reads.first = .ok first)
    (hpair : SignedPair L reads pubKey second) (ha : Admissible L v first policy) :
    Loads L v reads pubKey first second policy := by
  have hsig : v.checkSignature L reads = (.ok (), [second]) := by
    unfold PolicyLoader.checkSignature
    rw [hkey]
    exact verifyPolicyFile_ok.mpr ⟨second, hpair, rfl⟩
  have hi : v.install L first = .ok (v.withPolicy policy) := install_ok_iff.mpr ⟨policy, ha, rfl⟩
  refine ⟨hf, hpair, ha, ?_⟩
  unfold PolicyLoader.loadPolicy
  simp only [hf, hsig, hi]

/-- If the call succeeds, the bytes it parsed are bytes whose signature it
verified. -/
def InstallsSigned (L : PolicyLib) (v : PolicyLoader) (reads : Reads) : Prop :=
  (v.loadPolicy L reads).result = .ok () → ∃ data ∈ (v.loadPolicy L reads).verified,
    reads.first = .ok data

/-- **Signed policies only.** With a key configured, and whatever the file
system answers during the call, the installed bytes are verified bytes
exactly when the second read returned what the first did, or the first was
no admissible policy, or the second was not signed. -/
theorem installs_signed_iff {v : PolicyLoader} {pubKey : Bytes}
    (hkey : v.policyPubKey = some pubKey) (reads : Reads) : InstallsSigned L v reads ↔
      reads.first = reads.second ∨
      (∀ first policy, reads.first = .ok first → ¬ Admissible L v first policy) ∨
        ∀ second, ¬ SignedPair L reads pubKey second := by
  constructor
  · intro h
    by_cases hok : ∃ first second policy, Loads L v reads pubKey first second policy
    · obtain ⟨first, second, policy, hl⟩ := hok
      have hcall := hl.call
      unfold InstallsSigned at h
      rw [hcall] at h
      obtain ⟨data, hmem, hfirst⟩ := h rfl
      rw [List.mem_singleton.mp hmem] at hfirst
      refine .inl ?_
      rw [hfirst, hl.signed.second]
    · refine .inr ?_
      by_contra hcon
      rw [not_or] at hcon
      obtain ⟨hadm, hsigned⟩ := hcon
      simp only [not_forall, not_not] at hadm hsigned
      obtain ⟨first, policy, hf, ha⟩ := hadm
      obtain ⟨second, hpair⟩ := hsigned
      exact hok ⟨first, second, policy, loadPolicy_of_admissible hkey hf hpair ha⟩
  · intro hcond hres
    obtain ⟨first, second, policy, hl⟩ := loadPolicy_ok hkey hres
    rcases hcond with heq | hadm | hsigned
    · refine ⟨second, ?_, ?_⟩
      · rw [hl.call]
        exact List.mem_singleton_self second
      · rw [heq, hl.signed.second]
    · exact absurd hl.admissible (hadm first policy hl.readFirst)
    · exact absurd hl.signed (hsigned second)

/-! ## A policy that is swapped -/

def goodYaml : Bytes := ascii "name: good\nagent_hashes: [\"aa\"]\n"

def evilYaml : Bytes := ascii "name: evil\nagent_hashes: [\"bb\"]\n"

def operatorKey : Bytes :=
  [0x71, 0xe6, 0x79, 0xa3, 0xc5, 0x7c, 0xa8, 0x9f, 0x99, 0xe3, 0xcd, 0xd5, 0x63, 0x16, 0xbd, 0xaa,
   0x2b, 0xbb, 0x2e, 0xa6, 0x9d, 0x10, 0x70, 0x0a, 0x13, 0xe4, 0x37, 0x2d, 0xc9, 0x04, 0x5c, 0xc6]

/-- The Ed25519 signature of `goodYaml` under `operatorKey`. -/
def goodSig : Bytes :=
  [0x66, 0x71, 0x10, 0x9f, 0xc8, 0x48, 0x36, 0x95, 0x3b, 0x70, 0x35, 0xfa, 0xcd, 0x11, 0x9d, 0xc7,
   0x0a, 0xc1, 0x1d, 0x93, 0x5c, 0x58, 0x23, 0xd6, 0x9a, 0xf1, 0x22, 0x09, 0x6d, 0xa4, 0xd5, 0x51,
   0x9b, 0x8c, 0x52, 0xd0, 0xab, 0xc4, 0x14, 0x30, 0x39, 0x8c, 0x4a, 0xc4, 0x11, 0xb7, 0x14, 0x83,
   0x87, 0x88, 0xef, 0xc1, 0x49, 0xff, 0x4c, 0xb7, 0x93, 0x62, 0x15, 0x4b, 0xe7, 0xf8, 0x71, 0x0b]

/-- The library as it answers on these bytes. -/
def sampleLib : PolicyLib where
  unmarshal := fun data =>
    if data = goodYaml then .ok { name := "good", agentHashes := ["aa"] }
    else if data = evilYaml then .ok { name := "evil", agentHashes := ["bb"] }
    else .error "yaml: unmarshal errors"
  ed25519Verify := fun pubKey data sig => pubKey = operatorKey ∧ data = goodYaml ∧ sig = goodSig

/-- A verifier that requires signed policies. -/
def signedLoader : PolicyLoader := { policyPubKey := some operatorKey }

/-- The file holds `first` when `LoadPolicy` reads it and the signed policy
afterwards. -/
def readsOf (first : Bytes) : Reads where
  first := .ok first
  size := .ok 32
  second := .ok goodYaml
  sig := .ok goodSig

theorem readsOf_signed (first : Bytes) : SignedPair sampleLib (readsOf first) operatorKey goodYaml :=
  ⟨⟨32, rfl, by decide⟩, rfl, goodSig, rfl, rfl, by decide +kernel⟩

theorem good_admissible :
    Admissible sampleLib signedLoader goodYaml { name := "good", agentHashes := ["aa"] } :=
  ⟨by simp [sampleLib], rfl, by decide⟩

theorem evil_admissible :
    Admissible sampleLib signedLoader evilYaml { name := "evil", agentHashes := ["bb"] } := by
  have hne : evilYaml ≠ goodYaml := by decide
  exact ⟨by simp [sampleLib, hne], rfl, by decide⟩

/-- Without a change of the file the signed policy is installed. -/
theorem installs_signed_good :
    (signedLoader.loadPolicy sampleLib (readsOf goodYaml)).result = .ok () ∧
      InstallsSigned sampleLib signedLoader (readsOf goodYaml) := by
  refine ⟨?_, (installs_signed_iff rfl _).mpr (.inl rfl)⟩
  rw [(loadPolicy_of_admissible rfl rfl (readsOf_signed goodYaml) good_admissible).call]

/-- **Counterexample.** The file holds `evilYaml` at the first read and the
signed policy at the second: the call succeeds and the active policy is the
unsigned one. -/
theorem swapped_policy_installed :
    (signedLoader.loadPolicy sampleLib (readsOf evilYaml)).result = .ok () ∧
      (signedLoader.loadPolicy sampleLib (readsOf evilYaml)).loader.active = "evil" ∧
      ¬ InstallsSigned sampleLib signedLoader (readsOf evilYaml) := by
  have hcall := (loadPolicy_of_admissible rfl rfl (readsOf_signed evilYaml) evil_admissible).call
  unfold InstallsSigned
  rw [hcall]
  refine ⟨rfl, rfl, ?_⟩
  intro h
  obtain ⟨data, hmem, hfirst⟩ := h rfl
  rw [List.mem_singleton.mp hmem] at hfirst
  exact absurd (Except.ok.inj hfirst) (by decide)

end Lota.L3.Policy

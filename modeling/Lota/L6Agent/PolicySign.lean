import Lota.L3Verifier.LoadPolicy
import Lota.L6Agent.Reload

/-!
# Signed policy files on both sides (`agent/policy_sign.c`, `verifier/verify/policy_sign.go`)

The agent and the verifier each check the detached Ed25519 signature of a
policy file. The verifier wants a signature file of exactly 64 bytes; the
agent reads the first 64 and never looks for more, unlike its own reload.

* `policyVerifyBuffer_reload`: the reload's check is this one, apart from an
  empty file.
* `policyVerifyFile_ok`, `verifyPolicyFile_iff`: what each side accepts.
* `same_files_accepted_iff`: the two agree exactly when the signature file has
  no bytes behind a valid signature.
* `trailing_byte_accepted`: a signature with a line end behind it.
-/
namespace Lota.L6.PolicySign
open Lota.Core Lota.L6.ConfigFile

inductive Errno where
  | enoent | efbig | eagain | eauth
  /-- Another error of a system call. -/
  | other
  deriving DecidableEq, Repr

def policySigSize : Nat := 64
def maxSignedObjectSize : Nat := 4 * 1024 * 1024

/-- What the file system answers: the size and the contents of the policy
file, and the contents of the signature file. -/
structure Files where
  stat : Except Errno Nat
  contents : Bytes
  sig : Except Errno Bytes

/-- A file that grows or shrinks after `fstat` is refused.
mirrors src/agent/policy_sign.c:32-117 -/
def readFileContents (files : Files) : Except Errno Bytes :=
  match files.stat with
  | .error e => .error e
  | .ok expectedSize =>
    if expectedSize > maxSignedObjectSize then .error .efbig
    else if (files.contents.take expectedSize).length ≠ expectedSize then .error .eagain
    else if files.contents.drop expectedSize ≠ [] then .error .eagain
    else .ok files.contents

section
variable {Key : Type} (C : Reload.Crypto Key)

/-- The buffer is there even for an empty file.
mirrors src/agent/policy_sign.c:297-331 -/
def policyVerifyBuffer (data : Bytes) (pubkeyPath : Text) (sig : Bytes) : Except Errno Unit :=
  match C.loadPubkey pubkeyPath with
  | none => .error .enoent
  | some key => if C.ed25519Verify key data sig = false then .error .eauth else .ok ()

/-- mirrors src/agent/policy_sign.c:379-413 -/
def policyVerifyFile (files : Files) (pubkeyPath : Text) : Except Errno Unit :=
  match files.sig with
  | .error e => .error e
  | .ok sigFile =>
    let sig := sigFile.take policySigSize
    if sig.length ≠ policySigSize then .error .eauth
    else match readFileContents files with
      | .error e => .error e
      | .ok data => policyVerifyBuffer C data pubkeyPath sig

end

/-- The answers of a file system without errors, to the agent. -/
def filesOf (data sig : Bytes) : Files := ⟨.ok data.length, data, .ok sig⟩

/-- The same, to the verifier. -/
def readsOf (data sig : Bytes) : L3.Policy.Reads := ⟨.ok data, .ok data.length, .ok data, .ok sig⟩

section
variable {Key : Type} {C : Reload.Crypto Key} {data sig : Bytes} {path : Text} {key : Key}

theorem policyVerifyBuffer_reload (hdata : data ≠ []) :
    policyVerifyBuffer C data path sig = .ok () ↔
    Reload.policyVerifyBuffer C data path sig = .ok () := by
  unfold policyVerifyBuffer Reload.policyVerifyBuffer
  rw [if_neg hdata]
  cases C.loadPubkey path with
  | none => simp
  | some key => simp only [except_guard_ok]

theorem readFileContents_whole (hsize : data.length ≤ maxSignedObjectSize) :
    readFileContents (filesOf data sig) = .ok data := by
  have h : ¬ data.length > maxSignedObjectSize := Nat.not_lt.mpr hsize
  simp [readFileContents, filesOf, h]

/-- The agent accepts a file whose signature is valid, whatever comes behind
it. -/
theorem policyVerifyFile_ok (hkey : C.loadPubkey path = some key)
    (hsize : data.length ≤ maxSignedObjectSize) :
    policyVerifyFile C (filesOf data sig) path = .ok () ↔
      policySigSize ≤ sig.length ∧ C.ed25519Verify key data (sig.take policySigSize) = true := by
  have hlen : (sig.take policySigSize).length ≠ policySigSize ↔ ¬ policySigSize ≤ sig.length := by
    rw [List.length_take]
    omega
  have hread : readFileContents (filesOf data sig) = .ok data := readFileContents_whole hsize
  unfold policyVerifyFile
  simp only [show (filesOf data sig).sig = .ok sig from rfl, hread, policyVerifyBuffer, hkey]
  rw [except_guard_ok, except_guard_ok, hlen]
  simp

end

/-- The verifier accepts a file whose signature is valid, with nothing behind
it. -/
theorem verifyPolicyFile_iff {L : L3.Policy.PolicyLib} {data sig pubKey : Bytes}
    (hsize : data.length ≤ L3.Policy.policyMaxFileSize) :
    (L3.Policy.verifyPolicyFile L (readsOf data sig) pubKey).1 = .ok () ↔
      sig.length = policySigSize ∧ L.ed25519Verify pubKey data sig = true := by
  constructor
  · intro h
    obtain ⟨data', hpair, -⟩ := L3.Policy.verifyPolicyFile_ok.mp (Prod.ext h rfl)
    have hdata : data = data' := Except.ok.inj hpair.second
    obtain ⟨sig', hsig, hlen, hv⟩ := hpair.sig
    have hsame : sig = sig' := Except.ok.inj hsig
    subst hdata hsame
    exact ⟨hlen, hv⟩
  · intro ⟨hlen, hv⟩
    have hpair : L3.Policy.SignedPair L (readsOf data sig) pubKey data :=
      ⟨⟨_, rfl, hsize⟩, rfl, ⟨sig, rfl, hlen, hv⟩⟩
    rw [L3.Policy.verifyPolicyFile_ok.mpr ⟨data, hpair, rfl⟩]

/-- **Both sides.** For a policy file within both limits and a key that both
hold, the agent and the verifier give the same answer exactly when the
signature file has at most 64 bytes, or the first 64 are not a signature of
the policy. -/
theorem same_files_accepted_iff {L : L3.Policy.PolicyLib} {C : Reload.Crypto Bytes}
    (data sig : Bytes) (path : Text) (key : Bytes)
    (hkey : C.loadPubkey path = some key) (hverify : C.ed25519Verify = L.ed25519Verify)
    (hagent : data.length ≤ maxSignedObjectSize)
    (hverifier : data.length ≤ L3.Policy.policyMaxFileSize) :
    (policyVerifyFile C (filesOf data sig) path = .ok () ↔
        (L3.Policy.verifyPolicyFile L (readsOf data sig) key).1 = .ok ()) ↔
      (sig.length ≤ policySigSize ∨ L.ed25519Verify key data (sig.take policySigSize) = false) := by
  rw [policyVerifyFile_ok hkey hagent, verifyPolicyFile_iff hverifier, hverify]
  rcases Nat.lt_trichotomy sig.length policySigSize with hlt | heq | hgt
  · have h1 : ¬ policySigSize ≤ sig.length := by omega
    have h2 : sig.length ≠ policySigSize := by omega
    simp [h1, h2, Nat.le_of_lt hlt]
  · have htake : sig.take policySigSize = sig := List.take_of_length_le (Nat.le_of_eq heq)
    simp [heq, htake]
  · have h1 : ¬ sig.length ≤ policySigSize := by omega
    have h2 : sig.length ≠ policySigSize := by omega
    simp [h1, h2, Nat.le_of_lt hgt]

/-- The verifier's library where Ed25519 answers as it does on these bytes. -/
def sampleLib : L3.Policy.PolicyLib where
  unmarshal := fun _ => .error "not a policy"
  ed25519Verify := Reload.sampleCrypto.ed25519Verify

/-- The signature alone is accepted by both. -/
theorem same_files_accepted_operator :
    policyVerifyFile Reload.sampleCrypto (filesOf Reload.monitorConf Reload.operatorSig)
    "/etc/lota/policy.pub".toList = .ok () ∧
      (L3.Policy.verifyPolicyFile sampleLib (readsOf Reload.monitorConf Reload.operatorSig)
        Reload.operatorPub).1 = .ok () := by
  have hboth :=
    (same_files_accepted_iff (L := sampleLib) (C := Reload.sampleCrypto) Reload.monitorConf
      Reload.operatorSig
    "/etc/lota/policy.pub".toList Reload.operatorPub (by decide) rfl (by decide) (by decide)).mpr
    (.inl (by decide))
  have hagent : policyVerifyFile Reload.sampleCrypto (filesOf Reload.monitorConf Reload.operatorSig)
      "/etc/lota/policy.pub".toList = .ok () := by decide
  exact ⟨hagent, hboth.mp hagent⟩

/-- With a line end behind it, the agent accepts and the verifier refuses. -/
theorem trailing_byte_accepted :
    policyVerifyFile Reload.sampleCrypto (filesOf Reload.monitorConf (Reload.operatorSig ++ [10]))
        "/etc/lota/policy.pub".toList = .ok () ∧
      (L3.Policy.verifyPolicyFile sampleLib
        (readsOf Reload.monitorConf (Reload.operatorSig ++ [10])) Reload.operatorPub).1 ≠
        .ok () := by
  decide

end Lota.L6.PolicySign

import Lota.Core.Sha256
import Lota.L1Wire.Report

/-!
# The PCR 14 boot commitment (`verifier/verify/baseline.go`)

The agent extends PCR 14 once at startup with its own hash and the TPM's
reset and restart counters, on top of the initramfs lock where there is one.
The verifier derives the same value and looks a bounded number of restarts
back.

`matchPCR14` is `none` when the scan of the source never ends.

* `matchPCR14_matched`: a match is a derivation of the target.
-/
namespace Lota.L3.BootCommitment
open Lota.Core Lota.L1.Report

def bootCommitmentTag : String := "LOTA-PCR14-BOOT-COMMITMENT-v1"
def initramfsLockTag : String := "LOTA-PCR14-INITRAMFS-LOCK-v1"

/-- mirrors src/verifier/verify/baseline.go:45-60 (`DeriveInitramfsLockPCR14`) -/
def deriveInitramfsLockPCR14 (_resetCount _restartCount : UInt32) : Hash :=
  sha256 ((Blob.zero 32).toList ++ (sha256 (ascii initramfsLockTag)).toList)

/-- `SHA256(tag || agentHash || resetCount_be || restartCount_be)`. -/
def bootCommit (agentHash : Hash) (resetCount restartCount : UInt32) : Hash :=
  sha256 (ascii bootCommitmentTag ++ agentHash.toList ++ toBE 4 resetCount.toNat ++
    toBE 4 restartCount.toNat)

/-- mirrors src/verifier/verify/baseline.go:73-95 (`DeriveLockedBootCommitmentPCR14`) -/
def deriveLockedBootCommitmentPCR14 (agentHash : Hash) (resetCount restartCount : UInt32) : Hash :=
  sha256 ((deriveInitramfsLockPCR14 resetCount restartCount).toList ++
    (bootCommit agentHash resetCount restartCount).toList)

/-- mirrors src/verifier/verify/baseline.go:104-125 (`DeriveBootCommitmentPCR14`) -/
def deriveBootCommitmentPCR14 (agentHash : Hash) (resetCount restartCount : UInt32) : Hash :=
  sha256 ((Blob.zero 32).toList ++ (bootCommit agentHash resetCount restartCount).toList)

section Match

variable (derive : Hash → UInt32 → UInt32 → Hash) (agentHash : Hash)
  (resetCount quoteRestartCount : UInt32)
  (target : Hash) (maxRestartSkew : UInt32)

/-- The `for` loop from counter `d` on, for at most `fuel` rounds; `d` wraps
as the source's `uint32` does.
mirrors src/verifier/verify/baseline.go:193-198 -/
def matchLoop : (fuel : Nat) → (d : UInt32) → Option (Option (Hash × UInt32))
  | 0, _ => none
  | fuel + 1, d =>
    if d ≤ maxRestartSkew ∧ d ≤ quoteRestartCount then
      let cand := derive agentHash resetCount (quoteRestartCount - d)
      if cand = target then some (some (cand, d)) else matchLoop fuel (d + 1)
    else some none

/-- After `2^32` rounds the counter has been everywhere; a loop that still
runs then runs forever.
mirrors src/verifier/verify/baseline.go:181-200 (`matchPCR14`) -/
def matchPCR14 : Option (Hash × UInt32 × Bool) :=
  let expected := derive agentHash resetCount quoteRestartCount
  if expected = target then some (expected, 0, true)
  else
    match matchLoop derive agentHash resetCount quoteRestartCount target maxRestartSkew (2 ^ 32) 1 with
    | none => none
    | some (some (cand, d)) => some (cand, d, true)
    | some none => some (expected, 0, false)

/-- An exact match needs no scan. -/
theorem matchPCR14_exact (h : derive agentHash resetCount quoteRestartCount = target) :
    matchPCR14 derive agentHash resetCount quoteRestartCount target maxRestartSkew =
    some (target, 0, true) := by
  unfold matchPCR14
  simp only [h, if_true]

variable {derive agentHash resetCount quoteRestartCount target maxRestartSkew}

theorem matchLoop_matched {fuel : Nat} {d d' : UInt32} {h : Hash}
    (hm : matchLoop derive agentHash resetCount quoteRestartCount target maxRestartSkew fuel d =
      some (some (h, d'))) :
    h = target ∧ derive agentHash resetCount (quoteRestartCount - d') = target := by
  induction fuel generalizing d with
  | zero => cases hm
  | succ fuel ih =>
    unfold matchLoop at hm
    simp only at hm
    split at hm
    · split at hm
      · rename_i hc
        cases hm
        exact ⟨hc, hc⟩
      · exact ih hm
    · cases hm

/-- A match is a derivation of the target, `drift` restarts back. -/
theorem matchPCR14_matched {h : Hash} {drift : UInt32}
    (hm : matchPCR14 derive agentHash resetCount quoteRestartCount target maxRestartSkew =
      some (h, drift, true)) :
    h = target ∧ derive agentHash resetCount (quoteRestartCount - drift) = target := by
  unfold matchPCR14 at hm
  simp only at hm
  split at hm
  · rename_i he
    cases hm
    rw [UInt32.sub_zero]
    exact ⟨he, he⟩
  · split at hm
    · cases hm
    · rename_i hl
      cases hm
      exact matchLoop_matched hl
    · cases hm

end Match

/-- mirrors src/verifier/verify/baseline.go:153-161 -/
def matchBootCommitmentPCR14 := matchPCR14 deriveBootCommitmentPCR14

/-- mirrors src/verifier/verify/baseline.go:168-176 -/
def matchLockedBootCommitmentPCR14 := matchPCR14 deriveLockedBootCommitmentPCR14

end Lota.L3.BootCommitment

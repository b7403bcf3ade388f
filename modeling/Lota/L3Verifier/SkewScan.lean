import Lota.L3Verifier.BootCommitment
import Mathlib.Order.Nat

/-!
# The restart scan of the boot commitment (`verifier/verify/baseline.go`)

`matchPCR14` tries the quoted restart counter and then the counters before
it, one derivation each, down to a bound from the configuration. Counter and
bounds are `uint32`, and `main.go` lets the bound be any of them: with the
bound and the quoted counter both at the maximum, the condition of the loop
is true of every counter and the increment wraps.

`scan` is `matchPCR14` with the number of derivations, for a given number of
rounds.

* `scan_found`, `scan_missed`: the scan stops at the nearest hit, or at the
  bound.
* `scan_diverges`: at the maximum a scan without a hit stops after no number
  of rounds.
* `skew_scan_iff`: the scan is total and right exactly away from that case.
* `scan_finds`: a commitment within the bound is found.
-/
namespace Lota.L3.BootCommitment
open Lota.Core Lota.L1.Report

def maxUInt32 : UInt32 := UInt32.ofNat (2 ^ 32 - 1)

section Scan

variable (derive : Hash → UInt32 → UInt32 → Hash) (agentHash : Hash)
  (resetCount quoteRestartCount : UInt32)
  (target : Hash) (maxRestartSkew : UInt32)

/-- The loop of `matchPCR14` with the number of its derivations.
mirrors src/verifier/verify/baseline.go:193-198 -/
def scanLoop : (fuel : Nat) → (d : UInt32) → Option (Option (Hash × UInt32) × Nat)
  | 0, _ => none
  | fuel + 1, d =>
    if d ≤ maxRestartSkew ∧ d ≤ quoteRestartCount then
      let cand := derive agentHash resetCount (quoteRestartCount - d)
      if cand = target then some (some (cand, d), 1)
      else (scanLoop fuel (d + 1)).map fun r => (r.1, r.2 + 1)
    else some (none, 0)

/-- mirrors src/verifier/verify/baseline.go:181-200 (`matchPCR14`) -/
def scan (fuel : Nat) : Option ((Hash × UInt32 × Bool) × Nat) :=
  let expected := derive agentHash resetCount quoteRestartCount
  if expected = target then some ((expected, 0, true), 1)
  else
    match scanLoop derive agentHash resetCount quoteRestartCount target maxRestartSkew fuel 1 with
    | none => none
    | some (some (cand, d), n) => some ((cand, d, true), n + 1)
    | some (none, n) => some ((expected, 0, false), n + 1)

/-- The commitment `d` restarts back is the target. -/
def Hit (d : UInt32) : Prop := derive agentHash resetCount (quoteRestartCount - d) = target

/-- The restart counters `[quoteRestartCount - maxRestartSkew, quoteRestartCount]`, cut off at 0. -/
def InWindow (c : UInt32) : Prop :=
  quoteRestartCount.toNat - maxRestartSkew.toNat ≤ c.toNat ∧ c ≤ quoteRestartCount

/-- The scan ends within its number of derivations. It reports a match
exactly when a counter of the window derives the target, with the target and
the smallest drift. -/
def ScanCorrect : Prop :=
  ∃ fuel expected drift matched n,
    scan derive agentHash resetCount quoteRestartCount target maxRestartSkew fuel =
    some ((expected, drift, matched), n) ∧
    n ≤ min maxRestartSkew.toNat quoteRestartCount.toNat + 1 ∧
    (matched = true ↔
      ∃ c, InWindow quoteRestartCount maxRestartSkew c ∧ derive agentHash resetCount c = target) ∧
    (matched = true → expected = target ∧ drift ≤ maxRestartSkew ∧ drift ≤ quoteRestartCount ∧
      Hit derive agentHash resetCount quoteRestartCount target drift ∧
      ∀ d, d ≤ maxRestartSkew → d ≤ quoteRestartCount →
        Hit derive agentHash resetCount quoteRestartCount target d → drift ≤ d)

variable {derive agentHash resetCount quoteRestartCount target maxRestartSkew}

theorem toNat_succ {d : UInt32} (h : d.toNat + 1 < 2 ^ 32) : (d + 1).toNat = d.toNat + 1 := by
  rw [UInt32.toNat_add]
  exact Nat.mod_eq_of_lt h

theorem matchLoop_scanLoop (fuel : Nat) (d : UInt32) :
    matchLoop derive agentHash resetCount quoteRestartCount target maxRestartSkew fuel d =
      (scanLoop derive agentHash resetCount quoteRestartCount target maxRestartSkew fuel d).map
      Prod.fst := by
  induction fuel generalizing d with
  | zero => rfl
  | succ fuel ih =>
    unfold matchLoop scanLoop
    split
    · simp only
      split
      · rfl
      · rw [ih, Option.map_map]
        rfl
    · rfl

/-- The model without a count is the scan with `2^32` rounds. -/
theorem matchPCR14_scan :
    matchPCR14 derive agentHash resetCount quoteRestartCount target maxRestartSkew =
      (scan derive agentHash resetCount quoteRestartCount target maxRestartSkew (2 ^ 32)).map
      Prod.fst := by
  unfold matchPCR14 scan
  simp only
  split
  · rfl
  · rw [matchLoop_scanLoop]
    rcases scanLoop derive agentHash resetCount quoteRestartCount target maxRestartSkew (2 ^ 32) 1 with
      _ | ⟨_ | ⟨cand, d⟩, n⟩
    · rfl
    · rfl
    · rfl

/-! ## What a scan does -/

theorem scanLoop_hit {fuel : Nat} {d : UInt32} (hin : d ≤ maxRestartSkew ∧ d ≤ quoteRestartCount)
    (hit : Hit derive agentHash resetCount quoteRestartCount target d) :
    scanLoop derive agentHash resetCount quoteRestartCount target maxRestartSkew (fuel + 1) d =
      some (some (target, d), 1) := by
  unfold Hit at hit
  simp only [scanLoop, if_pos hin, hit, if_true]

theorem scanLoop_miss {fuel : Nat} {d : UInt32} (hin : d ≤ maxRestartSkew ∧ d ≤ quoteRestartCount)
    (hmiss : ¬ Hit derive agentHash resetCount quoteRestartCount target d) :
    scanLoop derive agentHash resetCount quoteRestartCount target maxRestartSkew (fuel + 1) d =
      (scanLoop derive agentHash resetCount quoteRestartCount target maxRestartSkew fuel (d + 1)).map
        fun r => (r.1, r.2 + 1) := by
  unfold Hit at hmiss
  simp only [scanLoop, if_pos hin, if_neg hmiss]

/-- The loop stops at the first hit. -/
theorem scanLoop_found {k : UInt32} (hit : Hit derive agentHash resetCount quoteRestartCount target k)
    (hskew : k ≤ maxRestartSkew) (hquote : k ≤ quoteRestartCount) {fuel : Nat} {d : UInt32} (hd : d ≤ k)
    (hfirst : ∀ j, d ≤ j → j < k → ¬ Hit derive agentHash resetCount quoteRestartCount target j)
    (hfuel : k.toNat - d.toNat < fuel) :
    scanLoop derive agentHash resetCount quoteRestartCount target maxRestartSkew fuel d =
      some (some (target, k), k.toNat - d.toNat + 1) := by
  induction fuel generalizing d with
  | zero => omega
  | succ fuel ih =>
    have hin : d ≤ maxRestartSkew ∧ d ≤ quoteRestartCount :=
      ⟨UInt32.le_trans hd hskew, UInt32.le_trans hd hquote⟩
    by_cases hdk : d = k
    · subst hdk
      rw [scanLoop_hit hin hit, Nat.sub_self]
    · have hlt : d < k := UInt32.lt_of_le_of_ne hd hdk
      have hlt' : d.toNat < k.toNat := UInt32.lt_iff_toNat_lt.mp hlt
      have hsucc : (d + 1).toNat = d.toNat + 1 := toNat_succ (by have := k.toNat_lt; omega)
      have hle : d ≤ d + 1 := UInt32.le_iff_toNat_le.mpr (by omega)
      rw [scanLoop_miss hin (hfirst d (UInt32.le_refl d) hlt),
        ih (UInt32.le_iff_toNat_le.mpr (by omega)) (fun j hj => hfirst j (UInt32.le_trans hle hj))
        (by omega)]
      simp only [Option.map_some, Option.some.injEq, Prod.mk.injEq, true_and]
      omega

/-- Without a hit the loop stops at the bound, if the counter can get past
it. -/
theorem scanLoop_missed {m : Nat} (hm : m = min maxRestartSkew.toNat quoteRestartCount.toNat)
    (hroom : m + 1 < 2 ^ 32)
    {fuel : Nat} {d : UInt32} (hd : d.toNat ≤ m + 1)
    (hmiss : ∀ j, d ≤ j → j ≤ maxRestartSkew → j ≤ quoteRestartCount →
      ¬ Hit derive agentHash resetCount quoteRestartCount target j)
    (hfuel : m + 1 - d.toNat < fuel) :
    scanLoop derive agentHash resetCount quoteRestartCount target maxRestartSkew fuel d =
    some (none, m + 1 - d.toNat) := by
  induction fuel generalizing d with
  | zero => omega
  | succ fuel ih =>
    by_cases hin : d ≤ maxRestartSkew ∧ d ≤ quoteRestartCount
    · have h1 := UInt32.le_iff_toNat_le.mp hin.1
      have h2 := UInt32.le_iff_toNat_le.mp hin.2
      have hsucc : (d + 1).toNat = d.toNat + 1 := toNat_succ (by omega)
      have hle : d ≤ d + 1 := UInt32.le_iff_toNat_le.mpr (by omega)
      rw [scanLoop_miss hin (hmiss d (UInt32.le_refl d) hin.1 hin.2),
        ih (by omega) (fun j hj => hmiss j (UInt32.le_trans hle hj)) (by omega)]
      simp only [Option.map_some, Option.some.injEq, Prod.mk.injEq, true_and]
      omega
    · have hend : m + 1 - d.toNat = 0 := by
        have hout : ¬ (d.toNat ≤ maxRestartSkew.toNat ∧ d.toNat ≤ quoteRestartCount.toNat) := by
          rwa [← UInt32.le_iff_toNat_le, ← UInt32.le_iff_toNat_le]
        omega
      rw [scanLoop, if_neg hin, hend]

theorem le_maxUInt32 (d : UInt32) : d ≤ maxUInt32 := by
  have h := d.toNat_lt
  have hmax : maxUInt32.toNat = 2 ^ 32 - 1 := rfl
  exact UInt32.le_iff_toNat_le.mpr (by omega)

/-- At the maximum the condition of the loop never fails. -/
theorem scanLoop_diverges (hskew : maxRestartSkew = maxUInt32) (hquote : quoteRestartCount = maxUInt32)
    (hmiss : ∀ j, ¬ Hit derive agentHash resetCount quoteRestartCount target j) (fuel : Nat)
    (d : UInt32) :
    scanLoop derive agentHash resetCount quoteRestartCount target maxRestartSkew fuel d = none := by
  induction fuel generalizing d with
  | zero => rfl
  | succ fuel ih =>
    rw [scanLoop_miss ⟨hskew ▸ le_maxUInt32 d, hquote ▸ le_maxUInt32 d⟩ (hmiss d), ih]
    rfl

theorem hit_zero : Hit derive agentHash resetCount quoteRestartCount target 0 ↔
    derive agentHash resetCount quoteRestartCount = target := by
  unfold Hit
  rw [UInt32.sub_zero]

/-- **Found.** The scan reports the nearest hit within the bounds. -/
theorem scan_found {k : UInt32} (hit : Hit derive agentHash resetCount quoteRestartCount target k)
    (hskew : k ≤ maxRestartSkew) (hquote : k ≤ quoteRestartCount)
    (hfirst : ∀ j, j < k → ¬ Hit derive agentHash resetCount quoteRestartCount target j) {fuel : Nat}
    (hfuel : k.toNat ≤ fuel) :
    scan derive agentHash resetCount quoteRestartCount target maxRestartSkew fuel =
      some ((target, k, true), k.toNat + 1) := by
  unfold scan
  by_cases h0 : k = 0
  · subst h0
    rw [hit_zero] at hit
    simp only [hit, if_true]
    rfl
  · have hpos : (0 : UInt32).toNat < k.toNat := by
      have hne : k.toNat ≠ (0 : UInt32).toNat := fun h => h0 (UInt32.toNat_inj.mp h)
      have hz : (0 : UInt32).toNat = 0 := rfl
      omega
    have hone : (1 : UInt32).toNat = 1 := rfl
    have hz : (0 : UInt32).toNat = 0 := rfl
    have hexact := hfirst 0 (UInt32.lt_iff_toNat_lt.mpr hpos)
    rw [hit_zero] at hexact
    simp only [if_neg hexact]
    rw [scanLoop_found hit hskew hquote (UInt32.le_iff_toNat_le.mpr (by omega))
      (fun j _ => hfirst j) (by omega)]
    simp only [Option.some.injEq, Prod.mk.injEq, true_and]
    omega

/-- **Missed.** Without a hit the scan tries every counter once and reports no
match. -/
theorem scan_missed (hroom : min maxRestartSkew.toNat quoteRestartCount.toNat + 1 < 2 ^ 32)
    (hmiss : ∀ j, j ≤ maxRestartSkew → j ≤ quoteRestartCount →
      ¬ Hit derive agentHash resetCount quoteRestartCount target j) :
    scan derive agentHash resetCount quoteRestartCount target maxRestartSkew (2 ^ 32) =
      some ((derive agentHash resetCount quoteRestartCount, 0, false),
        min maxRestartSkew.toNat quoteRestartCount.toNat + 1) := by
  have hzero : ∀ c : UInt32, 0 ≤ c := fun c => UInt32.le_iff_toNat_le.mpr (Nat.zero_le _)
  have hone : (1 : UInt32).toNat = 1 := rfl
  have hexact := hmiss 0 (hzero _) (hzero _)
  rw [hit_zero] at hexact
  unfold scan
  simp only [if_neg hexact]
  rw [scanLoop_missed rfl hroom (by omega) (fun j _ => hmiss j) (by omega)]
  simp only [Option.some.injEq, Prod.mk.injEq, true_and]
  omega

/-- **Diverges.** With both bounds at the maximum and no hit anywhere the scan
does not end. -/
theorem scan_diverges (hskew : maxRestartSkew = maxUInt32) (hquote : quoteRestartCount = maxUInt32)
    (hmiss : ∀ j, ¬ Hit derive agentHash resetCount quoteRestartCount target j) (fuel : Nat) :
    scan derive agentHash resetCount quoteRestartCount target maxRestartSkew fuel = none := by
  have hexact := hmiss 0
  rw [hit_zero] at hexact
  unfold scan
  simp only [if_neg hexact, scanLoop_diverges hskew hquote hmiss]

/-! ## Total correctness -/

theorem sub_sub_cancel {c q : UInt32} (h : c ≤ q) : q - (q - c) = c := by
  have hle := UInt32.le_iff_toNat_le.mp h
  have hsub := UInt32.toNat_sub_of_le _ _ h
  apply UInt32.toNat_inj.mp
  rw [UInt32.toNat_sub_of_le _ _ (UInt32.le_iff_toNat_le.mpr (by omega)), hsub]
  omega

/-- A counter of the window is a drift within the bounds. -/
theorem window_iff_hit :
    (∃ c, InWindow quoteRestartCount maxRestartSkew c ∧ derive agentHash resetCount c = target) ↔
      ∃ d, d ≤ maxRestartSkew ∧ d ≤ quoteRestartCount ∧
        Hit derive agentHash resetCount quoteRestartCount target d := by
  constructor
  · rintro ⟨c, ⟨hlow, hle⟩, hc⟩
    have hsub := UInt32.toNat_sub_of_le _ _ hle
    refine ⟨quoteRestartCount - c, UInt32.le_iff_toNat_le.mpr (by omega),
      UInt32.le_iff_toNat_le.mpr (by omega), ?_⟩
    rw [Hit, sub_sub_cancel hle]
    exact hc
  · rintro ⟨d, hskew, hquote, hit⟩
    have hsub := UInt32.toNat_sub_of_le _ _ hquote
    have hs := UInt32.le_iff_toNat_le.mp hskew
    exact ⟨quoteRestartCount - d, ⟨by omega, UInt32.le_iff_toNat_le.mpr (by omega)⟩, hit⟩

/-- The nearest hit within the bounds. -/
theorem exists_first {d : UInt32} (hit : Hit derive agentHash resetCount quoteRestartCount target d) :
    ∃ k, k ≤ d ∧ Hit derive agentHash resetCount quoteRestartCount target k ∧
      ∀ j, j < k → ¬ Hit derive agentHash resetCount quoteRestartCount target j := by
  classical
  have hex : ∃ n, ∃ k : UInt32, k.toNat = n ∧
      Hit derive agentHash resetCount quoteRestartCount target k := ⟨_, d, rfl, hit⟩
  obtain ⟨k, hk, hhit⟩ := Nat.find_spec hex
  refine ⟨k, UInt32.le_iff_toNat_le.mpr ?_, hhit, fun j hj hjhit => ?_⟩
  · rw [hk]
    exact Nat.find_min' hex ⟨d, rfl, hit⟩
  · have hlt := UInt32.lt_iff_toNat_lt.mp hj
    rw [hk] at hlt
    exact Nat.find_min hex hlt ⟨j, rfl, hjhit⟩

theorem scanCorrect_of_hit {d : UInt32} (hskew : d ≤ maxRestartSkew) (hquote : d ≤ quoteRestartCount)
    (hit : Hit derive agentHash resetCount quoteRestartCount target d) :
    ScanCorrect derive agentHash resetCount quoteRestartCount target maxRestartSkew := by
  obtain ⟨k, hkd, hk, hfirst⟩ := exists_first hit
  have hks := UInt32.le_trans hkd hskew
  have hkq := UInt32.le_trans hkd hquote
  refine ⟨k.toNat, target, k, true, k.toNat + 1, scan_found hk hks hkq hfirst (Nat.le_refl _), ?_,
    ?_, ?_⟩
  · have h1 := UInt32.le_iff_toNat_le.mp hks
    have h2 := UInt32.le_iff_toNat_le.mp hkq
    omega
  · exact iff_of_true rfl (window_iff_hit.mpr ⟨d, hskew, hquote, hit⟩)
  · intro _
    refine ⟨rfl, hks, hkq, hk, fun j _ _ hj => ?_⟩
    exact UInt32.not_lt.mp fun hlt => hfirst j hlt hj

theorem scanCorrect_of_miss (hroom : min maxRestartSkew.toNat quoteRestartCount.toNat + 1 < 2 ^ 32)
    (hmiss : ∀ j, j ≤ maxRestartSkew → j ≤ quoteRestartCount →
      ¬ Hit derive agentHash resetCount quoteRestartCount target j) :
    ScanCorrect derive agentHash resetCount quoteRestartCount target maxRestartSkew := by
  refine ⟨2 ^ 32, _, 0, false, _, scan_missed hroom hmiss, Nat.le_refl _, ?_, fun h => by cases h⟩
  refine iff_of_false (by decide) fun hwin => ?_
  obtain ⟨d, h1, h2, hit⟩ := window_iff_hit.mp hwin
  exact hmiss d h1 h2 hit

end Scan

/-- **Skew scan.** For every derivation, hash, counters, target and bound, the
scan ends within `min maxRestartSkew quoteRestartCount + 1` derivations with
the right answer exactly when the bound and the quoted counter are not both
the largest `uint32`, or some restart counter derives the target. -/
theorem skew_scan_iff (derive : Hash → UInt32 → UInt32 → Hash) (agentHash : Hash)
    (resetCount quoteRestartCount : UInt32) (target : Hash) (maxRestartSkew : UInt32) :
    ScanCorrect derive agentHash resetCount quoteRestartCount target maxRestartSkew ↔
      ¬ (maxRestartSkew = maxUInt32 ∧ quoteRestartCount = maxUInt32) ∨
        ∃ c, derive agentHash resetCount c = target := by
  constructor
  · rintro ⟨fuel, expected, drift, matched, n, hscan, -, -, -⟩
    by_contra hbad
    obtain ⟨hmax, hnone⟩ := not_or.mp hbad
    obtain ⟨hskew, hquote⟩ := not_not.mp hmax
    rw [scan_diverges hskew hquote (fun j hj => hnone ⟨_, hj⟩)] at hscan
    cases hscan
  · intro hgood
    by_cases hhit : ∃ d, d ≤ maxRestartSkew ∧ d ≤ quoteRestartCount ∧
        Hit derive agentHash resetCount quoteRestartCount target d
    · obtain ⟨d, hskew, hquote, hit⟩ := hhit
      exact scanCorrect_of_hit hskew hquote hit
    · have hmiss : ∀ j, j ≤ maxRestartSkew → j ≤ quoteRestartCount →
          ¬ Hit derive agentHash resetCount quoteRestartCount target j :=
        fun j h1 h2 hit => hhit ⟨j, h1, h2, hit⟩
      refine scanCorrect_of_miss ?_ hmiss
      -- both bounds at the maximum leave no counter untried
      by_contra hroom
      have h1 := maxRestartSkew.toNat_lt
      have h2 := quoteRestartCount.toNat_lt
      have hmax : maxUInt32.toNat = 2 ^ 32 - 1 := rfl
      have hskew : maxRestartSkew = maxUInt32 := UInt32.toNat_inj.mp (by omega)
      have hquote : quoteRestartCount = maxUInt32 := UInt32.toNat_inj.mp (by omega)
      rcases hgood with hgood | ⟨c, hc⟩
      · exact hgood ⟨hskew, hquote⟩
      · refine hhit (window_iff_hit.mp ⟨c, ⟨?_, hquote ▸ le_maxUInt32 c⟩, hc⟩)
        rw [hskew, hquote, Nat.sub_self]
        exact Nat.zero_le _

/-- A suspended machine whose counter is at the maximum, against a verifier
started with `--max-restart-count-skew 4294967295`: a PCR 14 that no restart
derives keeps the verifier busy for ever. -/
theorem skew_scan_never_ends :
    (∀ fuel, scan (fun _ _ _ => Blob.zero 32) (Blob.zero 32) 0 maxUInt32 (toBlob 32 [1]) maxUInt32
      fuel = none) ∧
      ¬ ScanCorrect (fun _ _ _ => Blob.zero 32) (Blob.zero 32) 0 maxUInt32
      (toBlob 32 [1]) maxUInt32 := by
  have hmiss : ∀ j, ¬ Hit (fun _ _ _ => Blob.zero 32) (Blob.zero 32) 0 maxUInt32 (toBlob 32 [1]) j := by
    intro j
    change ¬ (Blob.zero 32 : Hash) = toBlob 32 [1]
    decide
  refine ⟨scan_diverges rfl rfl hmiss, ?_⟩
  rintro ⟨fuel, expected, drift, matched, n, hscan, -⟩
  rw [scan_diverges rfl rfl hmiss fuel] at hscan
  cases hscan

/-- A commitment `k` restarts back is found when `k` is within the bound. -/
theorem scan_finds {derive : Hash → UInt32 → UInt32 → Hash} {agentHash : Hash}
    {resetCount quoteRestartCount first : UInt32} {target : Hash} {maxRestartSkew : UInt32} {k : Nat}
    (hfirst : first.toNat + k = quoteRestartCount.toNat)
    (hk : derive agentHash resetCount first = target) (hskew : k ≤ maxRestartSkew.toNat) :
    ∃ expected drift,
      matchPCR14 derive agentHash resetCount quoteRestartCount target maxRestartSkew =
      some (expected, drift, true) := by
  have hwin : InWindow quoteRestartCount maxRestartSkew first :=
    ⟨by omega, UInt32.le_iff_toNat_le.mpr (by omega)⟩
  obtain ⟨d, hds, hdq, hit⟩ := window_iff_hit.mp ⟨first, hwin, hk⟩
  obtain ⟨j, hjd, hj, hnear⟩ := exists_first hit
  have hlt := j.toNat_lt
  refine ⟨target, j, ?_⟩
  rw [matchPCR14_scan, scan_found hj (UInt32.le_trans hjd hds) (UInt32.le_trans hjd hdq)
    hnear (by omega)]
  rfl

end Lota.L3.BootCommitment

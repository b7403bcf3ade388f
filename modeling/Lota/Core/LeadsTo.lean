import Lota.Core.Machine
import Mathlib.Data.Nat.Init

/-!
# Infinite runs and what they lead to

`Machine.trace` is the state after the first `n` inputs of an infinite
sequence. `LeadsTo P Q` says that every time with `P` is followed by a time
with `Q`, perhaps the same one.

* `trace_inv`: the invariant rule for infinite runs.
* `holds_until`: a property that only `Q` can end holds up to the first `Q`.
* `leadsTo_of_variant`: a variant that never grows and keeps falling is used
  up.
-/
namespace Lota.Core

namespace Machine

variable {S I O : Type}

def trace (M : Machine S I O) (s : S) (σ : Nat → I) : Nat → S
  | 0 => s
  | n + 1 => (M.step (M.trace s σ n) (σ n)).1

theorem trace_succ (M : Machine S I O) (s : S) (σ : Nat → I) (n : Nat) :
    M.trace s σ (n + 1) = (M.step (M.trace s σ n) (σ n)).1 := rfl

/-- **Invariant rule.** The invariant may speak about the time. -/
theorem trace_inv {M : Machine S I O} {s : S} {σ : Nat → I} {J : Nat → S → Prop} (h0 : J 0 s)
    (hstep : ∀ n, J n (M.trace s σ n) → J (n + 1) (M.step (M.trace s σ n) (σ n)).1) (n : Nat) :
    J n (M.trace s σ n) := by
  induction n with
  | zero => exact h0
  | succ n ih => exact hstep n ih

end Machine

def LeadsTo (P Q : Nat → Prop) : Prop := ∀ n, P n → ∃ m, n ≤ m ∧ Q m

variable {P Q : Nat → Prop}

theorem holds_until (hstep : ∀ n, P n → Q (n + 1) ∨ P (n + 1)) {n m : Nat} (hnm : n ≤ m) (hn : P n) :
    (∃ i, n ≤ i ∧ i ≤ m ∧ Q i) ∨ P m := by
  induction m, hnm using Nat.le_induction with
  | base => exact .inr hn
  | succ m hnm ih =>
    rcases ih with ⟨i, hni, him, hi⟩ | hm
    · exact .inl ⟨i, hni, by omega, hi⟩
    · rcases hstep m hm with hq | hp
      · exact .inl ⟨m + 1, by omega, by omega, hq⟩
      · exact .inr hp

/-- **Variant rule.** From `P` on every step keeps `P` without raising the
variant, or reaches `Q`; and every time with `P` is followed by a step that
lowers the variant. -/
theorem leadsTo_of_variant (μ : Nat → Nat)
    (hstep : ∀ n, P n → Q (n + 1) ∨ (P (n + 1) ∧ μ (n + 1) ≤ μ n))
    (hfall : ∀ n, P n → ∃ m, n ≤ m ∧ (P m → Q (m + 1) ∨ μ (m + 1) < μ m)) : LeadsTo P Q := by
  intro n hn
  induction hv : μ n using Nat.strongRecOn generalizing n with
  | ind v ih =>
    obtain ⟨m, hnm, hm⟩ := hfall n hn
    -- Up to `m` the variant stays at `v` or below.
    have hkeep : ∀ k, P k ∧ μ k ≤ v → Q (k + 1) ∨ (P (k + 1) ∧ μ (k + 1) ≤ v) := by
      rintro k ⟨hk, hle⟩
      rcases hstep k hk with hq | ⟨hp, hle'⟩
      · exact .inl hq
      · exact .inr ⟨hp, by omega⟩
    rcases holds_until hkeep hnm ⟨hn, by omega⟩ with ⟨i, hni, -, hi⟩ | ⟨hpm, hle⟩
    · exact ⟨i, hni, hi⟩
    · rcases hstep m hpm with hq | ⟨hp, -⟩
      · exact ⟨m + 1, by omega, hq⟩
      · rcases hm hpm with hq | hlt
        · exact ⟨m + 1, by omega, hq⟩
        · obtain ⟨k, hmk, hk⟩ := ih (μ (m + 1)) (by omega) (m + 1) hp rfl
          exact ⟨k, by omega, hk⟩

end Lota.Core

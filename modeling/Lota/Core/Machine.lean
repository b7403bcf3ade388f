import Mathlib.Logic.Basic

/-!
# Machines: deterministic steps with an output

A `Machine` takes a state and an input to a new state and an output. Clock
readings, random draws and faults are part of the input, so one machine
covers every environment.

* `run` is the state after a list of inputs, `outs` the outputs, `hist` the
  inputs paired with their outputs.
* `AllSteps P` says that every step of a run meets `P`, a condition on the
  state before the step and the input.
* `run_inv` is the invariant rule, `hist_inv` the same with the history at
  hand, `outs_eq_of_sim` the simulation rule, `run_purge` the rule for inputs
  that leave no trace.
-/
namespace Lota.Core

structure Machine (S I O : Type) where
  step : S → I → S × O

namespace Machine

variable {S T I O : Type}

def run (M : Machine S I O) (s : S) : List I → S
  | [] => s
  | i :: is => M.run (M.step s i).1 is

def outs (M : Machine S I O) (s : S) : List I → List O
  | [] => []
  | i :: is => (M.step s i).2 :: M.outs (M.step s i).1 is

def hist (M : Machine S I O) (s : S) : List I → List (I × O)
  | [] => []
  | i :: is => (i, (M.step s i).2) :: M.hist (M.step s i).1 is

/-- Every step of the run from `s` meets `P`. -/
def AllSteps (M : Machine S I O) (P : S → I → Prop) (s : S) : List I → Prop
  | [] => True
  | i :: is => P s i ∧ M.AllSteps P (M.step s i).1 is

instance decidableAllSteps (M : Machine S I O) (P : S → I → Prop) [∀ s i, Decidable (P s i)] :
    (s : S) → (is : List I) → Decidable (M.AllSteps P s is)
  | _, [] => .isTrue trivial
  | s, i :: is =>
    have := decidableAllSteps M P (M.step s i).1 is
    inferInstanceAs (Decidable (_ ∧ _))

theorem run_append (M : Machine S I O) (s : S) (xs ys : List I) :
    M.run s (xs ++ ys) = M.run (M.run s xs) ys := by
  induction xs generalizing s with
  | nil => rfl
  | cons x xs ih => exact ih (M.step s x).1

theorem allSteps_append {M : Machine S I O} {P : S → I → Prop} {s : S} {xs ys : List I} :
    M.AllSteps P s (xs ++ ys) ↔ M.AllSteps P s xs ∧ M.AllSteps P (M.run s xs) ys := by
  induction xs generalizing s with
  | nil => simp [AllSteps, run]
  | cons x xs ih => simp only [List.cons_append, AllSteps, run, ih, and_assoc]

/-- Every step is the step after the inputs before it. -/
theorem allSteps_iff {M : Machine S I O} {P : S → I → Prop} {s : S} {is : List I} :
    M.AllSteps P s is ↔ ∀ pre i post, is = pre ++ i :: post → P (M.run s pre) i := by
  constructor
  · rintro h pre i post rfl
    exact (allSteps_append.mp h).2.1
  · intro h
    induction is generalizing s with
    | nil => trivial
    | cons i is ih =>
      refine ⟨h [] i is rfl, ih fun pre j post he => ?_⟩
      exact h (i :: pre) j post (by rw [he, List.cons_append])

theorem hist_append (M : Machine S I O) (s : S) (xs ys : List I) :
    M.hist s (xs ++ ys) = M.hist s xs ++ M.hist (M.run s xs) ys := by
  induction xs generalizing s with
  | nil => rfl
  | cons x xs ih => exact congrArg (_ :: ·) (ih (M.step s x).1)

theorem hist_fst (M : Machine S I O) (s : S) (is : List I) : (M.hist s is).map Prod.fst = is := by
  induction is generalizing s with
  | nil => rfl
  | cons i is ih => exact congrArg (i :: ·) (ih (M.step s i).1)

theorem allSteps_mono {M : Machine S I O} {P Q : S → I → Prop} (h : ∀ s i, P s i → Q s i) {s : S}
    {is : List I} (hp : M.AllSteps P s is) : M.AllSteps Q s is := by
  induction is generalizing s with
  | nil => trivial
  | cons i is ih => exact ⟨h s i hp.1, ih hp.2⟩

theorem allSteps_and {M : Machine S I O} {P Q : S → I → Prop} {s : S} {is : List I}
    (hp : M.AllSteps P s is)
    (hq : M.AllSteps Q s is) : M.AllSteps (fun s i => P s i ∧ Q s i) s is := by
  induction is generalizing s with
  | nil => trivial
  | cons i is ih => exact ⟨⟨hp.1, hq.1⟩, ih hp.2 hq.2⟩

/-- Conditions that agree wherever the invariant `J` holds. -/
theorem allSteps_congr {M : Machine S I O} {P Q : S → I → Prop} {J : S → Prop}
    (hstep : ∀ s i, J s → J (M.step s i).1) (h : ∀ s i, J s → (P s i ↔ Q s i)) {s : S}
    {is : List I} (h0 : J s) : M.AllSteps P s is ↔ M.AllSteps Q s is := by
  induction is generalizing s with
  | nil => exact Iff.rfl
  | cons i is ih => exact and_congr (h s i h0) (ih (hstep s i h0))

/-- **Invariant rule.** A property that every step meeting `P` preserves
holds after every run of such steps. -/
theorem run_inv {M : Machine S I O} {P : S → I → Prop} {J : S → Prop}
    (hstep : ∀ s i, J s → P s i → J (M.step s i).1) {s : S} {is : List I} (h0 : J s)
    (hp : M.AllSteps P s is) : J (M.run s is) := by
  induction is generalizing s with
  | nil => exact h0
  | cons i is ih => exact ih (hstep s i h0 hp.1) hp.2

/-- **Invariant rule with history.** The invariant speaks about the state
and about everything that happened before it. -/
theorem hist_inv {M : Machine S I O} {J : List (I × O) → S → Prop}
    (hstep : ∀ h s i, J h s → J (h ++ [(i, (M.step s i).2)]) (M.step s i).1)
    {s : S} (is : List I) {h : List (I × O)} (h0 : J h s) : J (h ++ M.hist s is) (M.run s is) := by
  induction is generalizing s h with
  | nil => simpa [hist, run] using h0
  | cons i is ih =>
    have := ih (hstep h s i h0)
    rwa [List.append_assoc] at this

/-- An entry of the history is the output of a step after the inputs before
it. -/
theorem hist_split {M : Machine S I O} {s : S} {is : List I} {pre post : List (I × O)} {i : I} {o : O}
    (h : M.hist s is = pre ++ (i, o) :: post) :
    ∃ is₁ is₂, is = is₁ ++ i :: is₂ ∧ pre = M.hist s is₁ ∧ o = (M.step (M.run s is₁) i).2 := by
  induction is generalizing s pre with
  | nil => exact absurd h (by simp [hist])
  | cons x xs ih =>
    cases pre with
    | nil =>
      obtain ⟨hx, -⟩ := List.cons.inj h
      obtain ⟨rfl, ho⟩ := Prod.mk.inj hx
      exact ⟨[], xs, rfl, rfl, ho.symm⟩
    | cons e pre =>
      obtain ⟨he, htl⟩ := List.cons.inj h
      obtain ⟨is₁, is₂, his, hpre, ho⟩ := ih htl
      refine ⟨x :: is₁, is₂, ?_, ?_, ho⟩
      · rw [his]
        rfl
      · rw [← he, hpre]
        rfl

/-- **Simulation rule.** If related states give equal outputs and related
states on every step that meets `P`, the two machines cannot be told apart
by a run of such steps. -/
theorem outs_eq_of_sim {M : Machine S I O} {N : Machine T I O} {R : S → T → Prop}
    {P : S → I → Prop}
    (hstep : ∀ s t i, R s t → P s i →
      (M.step s i).2 = (N.step t i).2 ∧ R (M.step s i).1 (N.step t i).1)
    {s : S} {t : T} {is : List I} (h0 : R s t) (hp : M.AllSteps P s is) :
    M.outs s is = N.outs t is := by
  induction is generalizing s t with
  | nil => rfl
  | cons i is ih =>
    obtain ⟨ho, hr⟩ := hstep s t i h0 hp.1
    simp only [outs, ho, ih hr hp.2]

end Machine

/-- An entry of a list that grew at its end is the new one or an old one. -/
theorem append_singleton_split {α : Type} {l pre post : List α} {x y : α}
    (h : l ++ [x] = pre ++ y :: post) :
    (post = [] ∧ l = pre ∧ x = y) ∨ ∃ post', l = pre ++ y :: post' := by
  rcases List.eq_nil_or_concat post with hpost | ⟨post', z, hpost⟩
  · subst hpost
    obtain ⟨hl, hx⟩ := List.append_inj' h rfl
    exact .inl ⟨rfl, hl, List.singleton_inj.mp hx⟩
  · subst hpost
    rw [List.concat_eq_append, ← List.cons_append, ← List.append_assoc] at h
    exact .inr ⟨post', (List.append_inj' h rfl).1⟩

end Lota.Core

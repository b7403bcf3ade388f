import Mathlib.Data.List.Nodup
import Mathlib.Data.List.Perm.Basic

/-!
# Sorted lists without repeats

`qsort` over a three-way comparison, and the pass that keeps an entry of a
sorted array when it differs from the one before it. Both give a canonical
form: the sorted array stands for the multiset of its entries, the pass over
it for their set.

* `qsort_eq_iff`: two lists sort to one array iff one is a permutation of the
  other.
* `sortUnique_eq_iff`: two lists have one canonical array iff they have the
  same entries.
-/
namespace Lota.Core

variable {α : Type} {cmp : α → α → Ordering}

/-- `qsort` with the comparison `cmp`. -/
def qsort (cmp : α → α → Ordering) (l : List α) : List α := l.mergeSort fun a b => (cmp a b).isLE

theorem qsort_perm (cmp : α → α → Ordering) (l : List α) : (qsort cmp l).Perm l :=
  List.mergeSort_perm l _

theorem qsort_sorted (cmp : α → α → Ordering) [Std.TransCmp cmp] (l : List α) :
    (qsort cmp l).Pairwise fun a b => (cmp a b).isLE = true := by
  refine List.pairwise_mergeSort (fun a b c => Std.TransCmp.isLE_trans) (fun a b => ?_) l
  cases hab : cmp a b with
  | lt => rfl
  | eq => rfl
  | gt =>
    have hba : cmp b a = .lt := Std.OrientedCmp.lt_of_gt hab
    rw [hba]
    rfl

/-- Two entries that are each at most the other compare equal. -/
theorem eq_of_isLE_isLE [Std.TransCmp cmp] {a b : α} (hab : (cmp a b).isLE = true)
    (hba : (cmp b a).isLE = true) : cmp a b = .eq := by
  cases h : cmp a b with
  | eq => rfl
  | lt =>
    rw [Std.OrientedCmp.gt_of_lt h] at hba
    cases hba
  | gt =>
    rw [h] at hab
    cases hab

/-- **Sorting.** The entries need not be equal when they compare equal in
general, only those of the list. -/
theorem qsort_eq_iff [Std.TransCmp cmp] {l m : List α} (heq : ∀ a ∈ l, ∀ b ∈ m, cmp a b = .eq → a = b) :
    qsort cmp l = qsort cmp m ↔ l.Perm m := by
  constructor
  · intro h
    exact (qsort_perm cmp l).symm.trans (h ▸ qsort_perm cmp m)
  · intro h
    refine List.Perm.eq_of_pairwise ?_ (qsort_sorted cmp l) (qsort_sorted cmp m)
      ((qsort_perm cmp l).trans (h.trans (qsort_perm cmp m).symm))
    intro a b ha hb hab hba
    exact heq a ((qsort_perm cmp l).mem_iff.mp ha) b ((qsort_perm cmp m).mem_iff.mp hb)
      (eq_of_isLE_isLE hab hba)

/-! ## Without repeats -/

section
variable [DecidableEq α]

/-- The entries that differ from the one before them. `prev` is the entry
before the first one, if there is one. -/
def newEntries (prev : Option α) : List α → List α
  | [] => []
  | a :: l => if prev = some a then newEntries (some a) l else a :: newEntries (some a) l

/-- How many entries differ from the one before them. -/
def countNew (prev : Option α) : List α → Nat
  | [] => 0
  | a :: l => (if prev = some a then 0 else 1) + countNew (some a) l

theorem countNew_eq (prev : Option α) (l : List α) : countNew prev l = (newEntries prev l).length := by
  induction l generalizing prev with
  | nil => rfl
  | cons a l ih =>
    rw [countNew, newEntries, ih]
    by_cases h : prev = some a
    · simp [h]
    · simp [h]
      omega

theorem newEntries_sublist (prev : Option α) (l : List α) : (newEntries prev l).Sublist l := by
  induction l generalizing prev with
  | nil => exact List.Sublist.refl _
  | cons a l ih =>
    rw [newEntries]
    split
    · exact (ih _).cons a
    · exact (ih _).cons_cons a

theorem mem_newEntries (prev : Option α) {l : List α} {x : α} (h : x ∈ l) :
    prev = some x ∨ x ∈ newEntries prev l := by
  induction l generalizing prev with
  | nil => cases h
  | cons a l ih =>
    rw [newEntries]
    rcases List.mem_cons.mp h with rfl | h
    · by_cases hp : prev = some x
      · exact Or.inl hp
      · rw [if_neg hp]
        exact Or.inr List.mem_cons_self
    · by_cases hp : prev = some a
      · rw [if_pos hp, hp]
        exact ih (some a) h
      · rw [if_neg hp]
        rcases ih (some a) h with hxa | hx
        · rw [Option.some.inj hxa]
          exact Or.inr List.mem_cons_self
        · exact Or.inr (List.mem_cons_of_mem a hx)

variable [Std.TransCmp cmp] [Std.LawfulEqCmp cmp]

/-- In a sorted list the entry before the first one does not come back. -/
theorem newEntries_nodup {prev : Option α} {l : List α}
    (hl : l.Pairwise fun a b => (cmp a b).isLE = true)
    (hp : ∀ p, prev = some p → ∀ a ∈ l, (cmp p a).isLE = true) :
    (newEntries prev l).Nodup ∧ ∀ p, prev = some p → p ∉ newEntries prev l := by
  induction l generalizing prev with
  | nil => exact ⟨List.nodup_nil, fun p _ h => by cases h⟩
  | cons a l ih =>
    obtain ⟨ha, hl⟩ := List.pairwise_cons.mp hl
    obtain ⟨hnd, hna⟩ := @ih (some a) hl (fun p hpa => Option.some.inj hpa ▸ ha)
    rw [newEntries]
    by_cases h : prev = some a
    · rw [if_pos h]
      exact ⟨hnd, fun p hpp => hna p (h ▸ hpp)⟩
    · rw [if_neg h]
      refine ⟨List.nodup_cons.mpr ⟨hna a rfl, hnd⟩, fun p hpp hmem => ?_⟩
      rcases List.mem_cons.mp hmem with rfl | hmem
      · exact h hpp
      · -- `p ≤ a ≤ p`, so the entry before the first one is the first one
        have hpa := hp p hpp a List.mem_cons_self
        have hap := ha p ((newEntries_sublist _ _).subset hmem)
        exact h (Std.LawfulEqCmp.eq_of_compare (eq_of_isLE_isLE hpa hap) ▸ hpp)

/-- Sort, then keep what differs from its left neighbour. -/
def sortUnique (cmp : α → α → Ordering) (l : List α) : List α := newEntries none (qsort cmp l)

theorem mem_sortUnique (cmp : α → α → Ordering) {l : List α} {x : α} :
    x ∈ sortUnique cmp l ↔ x ∈ l := by
  constructor
  · intro h
    exact (qsort_perm cmp l).mem_iff.mp ((newEntries_sublist _ _).subset h)
  · intro h
    rcases mem_newEntries none ((qsort_perm cmp l).mem_iff.mpr h) with hx | hx
    · cases hx
    · exact hx

theorem sortUnique_nodup (l : List α) : (sortUnique cmp l).Nodup :=
  (newEntries_nodup (qsort_sorted cmp l) (fun p h => by cases h)).1

omit [Std.LawfulEqCmp cmp] in
theorem sortUnique_sorted (l : List α) : (sortUnique cmp l).Pairwise fun a b => (cmp a b).isLE = true :=
  (qsort_sorted cmp l).sublist (newEntries_sublist _ _)

omit [Std.TransCmp cmp] [Std.LawfulEqCmp cmp] in
theorem sortUnique_length_le (l : List α) : (sortUnique cmp l).length ≤ l.length := by
  have h := (newEntries_sublist none (qsort cmp l)).length_le
  rwa [(qsort_perm cmp l).length_eq] at h

/-- **Canonical form.** -/
theorem sortUnique_eq_iff {l m : List α} :
    sortUnique cmp l = sortUnique cmp m ↔ ∀ x, x ∈ l ↔ x ∈ m := by
  constructor
  · intro h x
    rw [← mem_sortUnique cmp, h, mem_sortUnique]
  · intro h
    refine List.Perm.eq_of_pairwise ?_ (sortUnique_sorted l) (sortUnique_sorted m) ?_
    · intro a b _ _ hab hba
      exact Std.LawfulEqCmp.eq_of_compare (eq_of_isLE_isLE hab hba)
    · refine (List.perm_ext_iff_of_nodup (sortUnique_nodup l) (sortUnique_nodup m)).mpr fun x => ?_
      rw [mem_sortUnique, mem_sortUnique]
      exact h x

end

end Lota.Core

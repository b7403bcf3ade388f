import Mathlib.Order.Defs.PartialOrder
import Mathlib.Data.List.Basic

/-!
# Lists joined with separators

* `cut_unique`, `intercalate_inj`: what was joined can be told from the result
  when no part contains the separator.
* `eq_of_filter_eq`: two lists in the order of a key are equal when the entries
  of each key come in the same order.
-/
namespace Lota.Core

variable {α κ : Type}

/-- The first separator ends the first part. -/
theorem cut_unique {sep : α} {x y r s : List α} (hx : sep ∉ x) (hy : sep ∉ y)
    (h : x ++ sep :: r = y ++ sep :: s) : x = y ∧ r = s := by
  induction x generalizing y with
  | nil =>
    cases y with
    | nil => exact ⟨rfl, (List.cons.inj h).2⟩
    | cons b y =>
      obtain ⟨hb, -⟩ := List.cons.inj h
      exact absurd (hb ▸ List.mem_cons_self) hy
  | cons a x ih =>
    cases y with
    | nil =>
      obtain ⟨ha, -⟩ := List.cons.inj h
      exact absurd (ha ▸ List.mem_cons_self) hx
    | cons b y =>
      obtain ⟨hab, htl⟩ := List.cons.inj h
      obtain ⟨hxy, hrs⟩ :=
        ih (fun hm => hx (List.mem_cons_of_mem _ hm)) (fun hm => hy (List.mem_cons_of_mem _ hm)) htl
      exact ⟨by rw [hab, hxy], hrs⟩

theorem mem_intercalate {sep x : α} {ls : List (List α)} (h : x ∈ [sep].intercalate ls) :
    x = sep ∨ ∃ l ∈ ls, x ∈ l := by
  induction ls with
  | nil => cases h
  | cons l ls ih =>
    cases ls with
    | nil =>
      rw [List.intercalate_singleton] at h
      exact .inr ⟨l, List.mem_cons_self, h⟩
    | cons m ls =>
      rw [List.intercalate_cons_cons, List.mem_append, List.mem_append] at h
      rcases h with (h | h) | h
      · exact .inr ⟨l, List.mem_cons_self, h⟩
      · exact .inl (List.mem_singleton.mp h)
      · rcases ih h with h | ⟨k, hk, hx⟩
        · exact .inl h
        · exact .inr ⟨k, List.mem_cons_of_mem _ hk, hx⟩

/-- Nonempty parts with the separator between them. -/
theorem intercalate_inj [DecidableEq α] {sep : α} {ls ms : List (List α)}
    (hl : ∀ l ∈ ls, l ≠ [] ∧ sep ∉ l)
    (hm : ∀ m ∈ ms, m ≠ [] ∧ sep ∉ m) (h : [sep].intercalate ls = [sep].intercalate ms) : ls = ms := by
  have hempty : ∀ {ks : List (List α)}, (∀ k ∈ ks, k ≠ [] ∧ sep ∉ k) →
      [sep].intercalate ks = [] → ks = [] := by
    intro ks hk hnil
    cases ks with
    | nil => rfl
    | cons k ks =>
      have hsplit := List.splitOn_intercalate sep (fun l hl => (hk l hl).2) (List.cons_ne_nil k ks)
      rw [hnil, List.splitOn_nil] at hsplit
      exact absurd (List.cons.inj hsplit).1.symm (hk k List.mem_cons_self).1
  by_cases hls : ls = []
  · subst hls
    rw [List.intercalate_nil] at h
    exact (hempty hm h.symm).symm
  · by_cases hms : ms = []
    · subst hms
      rw [List.intercalate_nil] at h
      exact hempty hl h
    · rw [← List.splitOn_intercalate sep (fun l hl' => (hl l hl').2) hls, h,
        List.splitOn_intercalate sep (fun m hm' => (hm m hm').2) hms]

/-- Lists in the order of a key, compared key by key. -/
theorem eq_of_filter_eq [PartialOrder κ] [DecidableEq κ] {key : α → κ} {l m : List α}
    (hl : l.Pairwise fun a b => key a ≤ key b)
    (hm : m.Pairwise fun a b => key a ≤ key b)
    (h : ∀ k, l.filter (key · = k) = m.filter (key · = k)) : l = m := by
  have hmem : ∀ {l m : List α}, (∀ k, l.filter (key · = k) = m.filter (key · = k)) →
      ∀ x ∈ l, x ∈ m := by
    intro l m h x hx
    have hf : x ∈ l.filter (key · = key x) := List.mem_filter.mpr ⟨hx, by simp⟩
    rw [h] at hf
    exact (List.mem_filter.mp hf).1
  induction l generalizing m with
  | nil =>
    cases m with
    | nil => rfl
    | cons y m => exact absurd (hmem (fun k => (h k).symm) y List.mem_cons_self) List.not_mem_nil
  | cons x l ih =>
    cases m with
    | nil => exact absurd (hmem h x List.mem_cons_self) List.not_mem_nil
    | cons y m =>
      obtain ⟨hxl, hl'⟩ := List.pairwise_cons.mp hl
      obtain ⟨hym, hm'⟩ := List.pairwise_cons.mp hm
      -- both heads have the least key
      have hxy : key x = key y := by
        refine le_antisymm ?_ ?_
        · rcases List.mem_cons.mp (hmem (fun k => (h k).symm) y List.mem_cons_self) with he | he
          · rw [he]
          · exact hxl y he
        · rcases List.mem_cons.mp (hmem h x List.mem_cons_self) with he | he
          · rw [he]
          · exact hym x he
      have hhead := h (key x)
      rw [List.filter_cons_of_pos (by simp), List.filter_cons_of_pos (by simp [hxy])] at hhead
      have heq := (List.cons.inj hhead).1
      subst heq
      refine congrArg (x :: ·) (ih hl' hm' fun k => ?_)
      have hk := h k
      by_cases hkx : key x = k
      · rw [List.filter_cons_of_pos (by simp [hkx]), List.filter_cons_of_pos (by simp [hkx])] at hk
        exact (List.cons.inj hk).2
      · rw [List.filter_cons_of_neg (by simp [hkx]), List.filter_cons_of_neg (by simp [hkx])] at hk
        exact hk

end Lota.Core

import Mathlib.Data.List.Induction

/-!
# Text taken apart at a separator

`segments sep s` are the non-empty pieces of `s` between separators, and
`unsegment sep` puts pieces together again, each behind a separator. Segments
that are put together come apart into themselves (`segments_unsegment`), and
are no longer than the text they came from (`length_unsegment_segments`).
-/
namespace Lota.Core

variable {α : Type}

def unsegment (sep : α) (cs : List (List α)) : List α := cs.flatMap (sep :: ·)

theorem unsegment_append {sep : α} (as bs : List (List α)) :
    unsegment sep (as ++ bs) = unsegment sep as ++ unsegment sep bs := List.flatMap_append

theorem length_unsegment_cons {sep : α} (c : List α) (cs : List (List α)) :
    (unsegment sep (c :: cs)).length = (c.length + 1) + (unsegment sep cs).length := by
  simp only [unsegment, List.flatMap_cons, List.length_append, List.length_cons]

theorem length_unsegment_filter {sep : α} (p : List α → Bool) (cs : List (List α)) :
    (unsegment sep (cs.filter p)).length ≤ (unsegment sep cs).length := by
  induction cs with
  | nil => exact Nat.le_refl _
  | cons c cs ih =>
    by_cases hc : p c = true
    · rw [List.filter_cons_of_pos hc, length_unsegment_cons, length_unsegment_cons]
      omega
    · rw [List.filter_cons_of_neg hc, length_unsegment_cons]
      omega

variable [DecidableEq α] {sep : α}

def segments (sep : α) (s : List α) : List (List α) := (s.splitOnP (· = sep)).filter (· ≠ [])

theorem segments_append (a b : List α) :
    segments sep (a ++ sep :: b) = segments sep a ++ segments sep b := by
  unfold segments
  rw [List.splitOnP_append_cons a b (by simp), List.filter_append]

theorem segments_sep_cons (s : List α) : segments sep (sep :: s) = segments sep s :=
  segments_append [] s

theorem segments_piece {c : List α} (hne : c ≠ []) (h : sep ∉ c) : segments sep c = [c] := by
  unfold segments
  have hnone : ∀ x ∈ c, decide (x = sep) = false := by
    intro x hx
    simp only [decide_eq_false_iff_not]
    exact fun he => h (he ▸ hx)
  rw [List.splitOnP_eq_singleton hnone]
  simp [hne]

theorem sep_not_mem_splitOnP {s c : List α} (h : c ∈ s.splitOnP (· = sep)) : sep ∉ c := by
  induction s generalizing c with
  | nil =>
    rw [List.splitOnP_nil, List.mem_singleton] at h
    rw [h]
    exact List.not_mem_nil
  | cons x s ih =>
    rw [List.splitOnP_cons_eq_if_modifyHead] at h
    by_cases hx : x = sep
    · rw [if_pos (decide_eq_true hx), List.mem_cons] at h
      rcases h with rfl | h
      · exact List.not_mem_nil
      · exact ih h
    · rw [if_neg (by simpa using hx)] at h
      obtain ⟨d, ds, hd⟩ := List.exists_cons_of_ne_nil (List.splitOnP_ne_nil (· = sep) s)
      rw [hd] at ih h
      rw [List.modifyHead_cons, List.mem_cons] at h
      rcases h with rfl | h
      · simp only [List.mem_cons, not_or]
        exact ⟨Ne.symm hx, ih (List.mem_cons_self ..)⟩
      · exact ih (List.mem_cons_of_mem _ h)

theorem mem_segments {s c : List α} (h : c ∈ segments sep s) : c ≠ [] ∧ sep ∉ c := by
  obtain ⟨hc, hne⟩ := List.mem_filter.mp h
  exact ⟨by simpa using hne, sep_not_mem_splitOnP hc⟩

theorem segments_unsegment {cs : List (List α)} (h : ∀ c ∈ cs, c ≠ [] ∧ sep ∉ c) :
    segments sep (unsegment sep cs) = cs := by
  induction cs using List.reverseRecOn with
  | nil => simp [segments, unsegment]
  | append_singleton cs c ih =>
    obtain ⟨hne, hc⟩ := h c (List.mem_append_right _ (List.mem_singleton.mpr rfl))
    have hlast : unsegment sep [c] = sep :: c := by simp [unsegment]
    rw [unsegment_append, hlast, segments_append, segments_piece hne hc,
      ih fun d hd => h d (List.mem_append_left _ hd)]

theorem length_unsegment_splitOnP (s : List α) :
    (unsegment sep (s.splitOnP (· = sep))).length = s.length + 1 := by
  induction s with
  | nil => simp [unsegment]
  | cons x s ih =>
    rw [List.splitOnP_cons_eq_if_modifyHead]
    by_cases hx : x = sep
    · rw [if_pos (decide_eq_true hx)]
      simpa [unsegment] using ih
    · rw [if_neg (by simpa using hx)]
      obtain ⟨d, ds, hd⟩ := List.exists_cons_of_ne_nil (List.splitOnP_ne_nil (· = sep) s)
      rw [hd] at ih ⊢
      simp only [unsegment, List.modifyHead_cons, List.flatMap_cons, List.length_append,
        List.length_cons] at ih ⊢
      omega

theorem length_unsegment_segments (s : List α) :
    (unsegment sep (segments sep s)).length ≤ s.length + 1 := by
  calc (unsegment sep (segments sep s)).length
      ≤ (unsegment sep (s.splitOnP (· = sep))).length :=
        length_unsegment_filter (· ≠ []) (s.splitOnP (· = sep))
    _ = s.length + 1 := length_unsegment_splitOnP s

end Lota.Core

import Mathlib.Data.List.Basic
import Mathlib.Data.List.Infix

/-!
# Records that tell their length

The first `head` elements of a record tell how long it is. So a sequence of
records can be cut into pieces anywhere and is still read in one way.

* `Whole.unique`: two records at the front of one sequence are the same.
* `prefix_of_flatten`: records that are the front of a sequence of records are
  its first ones.
* `first_of_flatten`: what is read behind them is the next one.
-/
namespace Lota.Core

/-- `size` tells the length of a record from its first `head` elements. -/
structure Delimited (α : Type) where
  head : Nat
  size : List α → Nat
  head_pos : 0 < head

namespace Delimited
variable {α : Type} {D : Delimited α} {b z rest more : List α} {xs ys : List (List α)}

structure Whole (D : Delimited α) (b : List α) : Prop where
  head : D.head ≤ b.length
  size : b.length = D.size (b.take D.head)

theorem Whole.ne_nil (h : D.Whole b) : b ≠ [] := by
  have hpos := D.head_pos
  have hhead := h.head
  apply List.ne_nil_of_length_pos
  omega

/-- **One way to read.** -/
theorem Whole.unique (hb : D.Whole b) (hz : D.Whole z) (h : b <+: z ++ more) : b = z := by
  have hfront : b.take D.head = z.take D.head := by
    obtain ⟨rest, hrest⟩ := h
    have hcut : (b ++ rest).take D.head = b.take D.head := List.take_append_of_le_length hb.head
    rw [← hcut, hrest, List.take_append_of_le_length hz.head]
  have hlen : b.length = z.length := by rw [hb.size, hz.size, hfront]
  exact (List.prefix_of_prefix_length_le h (List.prefix_append z more)
    (Nat.le_of_eq hlen)).eq_of_length hlen

/-- A record at the front of a sequence of records is the first of them. -/
theorem first_of_flatten (hb : D.Whole b) (hys : ∀ y ∈ ys, D.Whole y) (h : b <+: ys.flatten) :
    ∃ ys', ys = b :: ys' := by
  cases ys with
  | nil => exact absurd (List.prefix_nil.mp h) hb.ne_nil
  | cons y ys =>
    rw [List.flatten_cons] at h
    rw [hb.unique (hys y (List.mem_cons_self ..)) h]
    exact ⟨ys, rfl⟩

theorem prefix_of_flatten (hxs : ∀ x ∈ xs, D.Whole x) (hys : ∀ y ∈ ys, D.Whole y)
    (h : xs.flatten <+: ys.flatten) : xs <+: ys := by
  induction xs generalizing ys with
  | nil => exact List.nil_prefix
  | cons x xs ih =>
    rw [List.flatten_cons] at h
    obtain ⟨ys', rfl⟩ :=
      first_of_flatten (hxs x (List.mem_cons_self ..)) hys ((List.prefix_append _ _).trans h)
    rw [List.flatten_cons, List.prefix_append_right_inj] at h
    have hrest :=
      ih (fun z hz => hxs z (List.mem_cons_of_mem _ hz))
        (fun z hz => hys z (List.mem_cons_of_mem _ hz)) h
    exact List.prefix_cons_inj x |>.mpr hrest

/-- A sequence of records that ends inside of the record `z` has only what is
before it. -/
theorem prefix_of_part (hxs : ∀ x ∈ xs, D.Whole x) (hys : ∀ y ∈ ys, D.Whole y) (hz : D.Whole z)
    (hpart : rest <+: z)
    (hlt : rest.length < z.length) (h : xs.flatten <+: ys.flatten ++ rest) : xs <+: ys := by
  have hlong : xs.flatten <+: (ys ++ [z]).flatten := by
    rw [List.flatten_append, List.flatten_singleton]
    exact h.trans ((List.prefix_append_right_inj _).mpr hpart)
  have hall : ∀ y ∈ ys ++ [z], D.Whole y := by
    intro y hy
    rcases List.mem_append.mp hy with hy | hy
    · exact hys y hy
    · rw [List.mem_singleton.mp hy]
      exact hz
  rcases List.prefix_concat_iff.mp (prefix_of_flatten hxs hall hlong) with heq | hpre
  · have hlen := h.length_le
    rw [heq, List.flatten_append, List.flatten_singleton, List.length_append,
      List.length_append] at hlen
    omega
  · exact hpre

end Delimited

end Lota.Core

import Mathlib.Data.List.Basic
import Mathlib.Data.List.Infix

/-!
# Streams: records one after another

`Stream req bs` says that `bs` is the start of the records `req 0`, `req 1`
and so on, cut anywhere.

* `stream_drop`: behind the first records comes a stream of the others.
* `stream_front`: what was received first is a stream.
* `stream_head`: a stream has its first record in full, or a proper part of it.
-/
namespace Lota.Core

variable {α : Type} {req : Nat → List α} {bs rest : List α}

def firsts (req : Nat → List α) (k : Nat) : List (List α) := (List.range k).map req

def Stream (req : Nat → List α) (bs : List α) : Prop := ∃ k, bs <+: (firsts req k).flatten

@[simp] theorem firsts_length (req : Nat → List α) (k : Nat) : (firsts req k).length = k := by
  simp [firsts]

theorem firsts_add (req : Nat → List α) (j k : Nat) :
    firsts req (j + k) = firsts req j ++ firsts (fun i => req (j + i)) k := by
  unfold firsts
  rw [List.range_add, List.map_append, List.map_map]
  rfl

theorem firsts_succ (req : Nat → List α) (k : Nat) : firsts req (k + 1) = firsts req k ++ [req k] := by
  simp [firsts, List.range_succ]

theorem stream_drop {j : Nat} (h : Stream req ((firsts req j).flatten ++ rest)) :
    Stream (fun i => req (j + i)) rest := by
  obtain ⟨k, hk⟩ := h
  refine ⟨k, ?_⟩
  have hlong : (firsts req k).flatten <+: (firsts req (j + k)).flatten := by
    rw [Nat.add_comm, firsts_add, List.flatten_append]
    exact List.prefix_append _ _
  have := hk.trans hlong
  rwa [firsts_add, List.flatten_append, List.prefix_append_right_inj] at this

theorem stream_front (h : Stream req (bs ++ rest)) : Stream req bs := by
  obtain ⟨k, hk⟩ := h
  exact ⟨k, (List.prefix_append bs rest).trans hk⟩

theorem stream_head (h : Stream req bs) : req 0 <+: bs ∨ ∃ c, c ≠ [] ∧ bs ++ c = req 0 := by
  obtain ⟨k, hk⟩ := h
  have hlong : bs <+: (firsts req (1 + k)).flatten := by
    rw [Nat.add_comm, firsts_add, List.flatten_append]
    exact hk.trans (List.prefix_append _ _)
  have hfront : req 0 <+: (firsts req (1 + k)).flatten := by
    rw [firsts_add, List.flatten_append]
    simp [firsts]
  rcases List.prefix_or_prefix_of_prefix hfront hlong with hreq | ⟨c, hc⟩
  · exact .inl hreq
  · by_cases hnil : c = []
    · subst hnil
      rw [List.append_nil] at hc
      exact .inl (hc ▸ List.prefix_refl _)
    · exact .inr ⟨c, hnil, hc⟩

end Lota.Core

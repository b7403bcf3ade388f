import Lota.Core.Bytes

/-!
# Cursors: reading a buffer from front to back

A cursor is a buffer with a position. `Ate c bs c'` says that going from `c`
to `c'` consumes exactly the bytes `bs`. A reader of a wire format is
characterised by what it eats; readers then compose as their bytes do.

* `ate_append`: eating two pieces is eating one after the other.
* `ate_from_start`: what can be eaten from the start is a front part of the
  buffer.
-/
namespace Lota.Core

structure Cursor where
  buf : Bytes
  off : Nat
  deriving DecidableEq

namespace Cursor

def rest (c : Cursor) : Bytes := c.buf.drop c.off

def advance (c : Cursor) (n : Nat) : Cursor := { c with off := c.off + n }

@[simp] theorem advance_buf (c : Cursor) (n : Nat) : (c.advance n).buf = c.buf := rfl

theorem advance_advance (c : Cursor) (m n : Nat) : (c.advance m).advance n = c.advance (m + n) := by
  unfold advance
  simp only [Nat.add_assoc]

theorem advance_rest (c : Cursor) (n : Nat) : (c.advance n).rest = c.rest.drop n := by
  unfold advance rest
  rw [List.drop_drop]

/-- From `c` to `c'` exactly `bs` is consumed. -/
structure Ate (c : Cursor) (bs : Bytes) (c' : Cursor) : Prop where
  next : c' = c.advance bs.length
  front : bs <+: c.rest

variable {c c' c'' : Cursor} {xs ys : Bytes}

theorem Ate.rest_eq (h : Ate c xs c') : c.rest = xs ++ c'.rest := by
  obtain ⟨tail, htail⟩ := h.front
  rw [h.next, advance_rest, ← htail, List.drop_left' rfl]

theorem Ate.trans (h : Ate c xs c') (h' : Ate c' ys c'') : Ate c (xs ++ ys) c'' := by
  constructor
  · rw [h'.next, h.next, advance_advance, List.length_append]
  · rw [h.rest_eq]
    exact (List.prefix_append_right_inj xs).mpr h'.front

/-- **Pieces.** -/
theorem ate_append : Ate c (xs ++ ys) c'' ↔ ∃ c', Ate c xs c' ∧ Ate c' ys c'' := by
  constructor
  · intro h
    obtain ⟨tail, htail⟩ := h.front
    rw [List.append_assoc] at htail
    refine ⟨c.advance xs.length, ⟨rfl, ⟨ys ++ tail, htail⟩⟩, ?_, ?_⟩
    · rw [h.next, advance_advance, List.length_append]
    · rw [advance_rest, ← htail, List.drop_left' rfl]
      exact List.prefix_append ys tail
  · intro ⟨c', h, h'⟩
    exact h.trans h'

/-- The bytes in front of the position, if there are that many. -/
theorem ate_take {n : Nat} (h : c.off + n ≤ c.buf.length) : Ate c (c.rest.take n) (c.advance n) := by
  have hlen : (c.rest.take n).length = n := by
    unfold rest
    rw [List.length_take, List.length_drop]
    omega
  exact ⟨by rw [hlen], List.take_prefix n c.rest⟩

theorem Ate.bound (h : Ate c xs c') (h0 : xs ≠ []) : c.off + xs.length ≤ c.buf.length := by
  have hle := h.front.length_le
  have hpos := List.length_pos_iff.mpr h0
  unfold rest at hle
  rw [List.length_drop] at hle
  omega

theorem Ate.take_eq (h : Ate c xs c') : c.rest.take xs.length = xs := by
  rw [h.rest_eq, List.take_left' rfl]

/-- **From the start.** -/
theorem ate_from_start {b : Bytes} : (∃ c', Ate ⟨b, 0⟩ xs c') ↔ xs <+: b := by
  constructor
  · intro ⟨c', h⟩
    exact h.front
  · intro h
    exact ⟨_, rfl, h⟩

end Cursor

end Lota.Core

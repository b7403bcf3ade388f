import Mathlib.Algebra.Group.Nat.Defs
import Mathlib.Data.List.Count
import Mathlib.Logic.Function.Basic

/-!
# Reference counts in a table of 32 bit words

A table from keys to stored words, where a count of zero is not stored.
`Counts m f` says that the table `m` holds the counts `f`: it then determines
`m` (`Counts.unique`), so what two operations do to the counts is what they do
to the table. Counting up may overflow; counting down stops at zero.
-/
namespace Lota.Core.RefCount

variable {κ : Type}

abbrev Table (κ : Type) := κ → Option UInt32

/-- The stored count, zero if there is none. -/
def get (m : Table κ) (k : κ) : UInt32 := (m k).getD 0

/-- Counting up; `none` at the largest word. -/
def incr [DecidableEq κ] (m : Table κ) (k : κ) : Option (Table κ) :=
  if get m k = 0xFFFFFFFF then none else some (Function.update m k (some (get m k + 1)))

def decr [DecidableEq κ] (m : Table κ) (k : κ) : Table κ :=
  if get m k = 0 then m
  else if get m k = 1 then Function.update m k none
  else Function.update m k (some (get m k - 1))

structure Counts (m : Table κ) (f : κ → Nat) : Prop where
  lt : ∀ k, f k < 2 ^ 32
  eq : ∀ k, m k = if f k = 0 then none else some (UInt32.ofNat (f k))

namespace Counts

variable {m m' : Table κ} {f : κ → Nat} {k : κ}

theorem empty : Counts (fun _ : κ => none) fun _ => 0 := ⟨fun _ => by decide, fun _ => rfl⟩

theorem unique (h : Counts m f) (h' : Counts m' f) : m = m' := by
  funext k
  rw [h.eq, h'.eq]

theorem toNat_get (h : Counts m f) (k : κ) : (get m k).toNat = f k := by
  unfold get
  rw [h.eq]
  by_cases hk : f k = 0
  · rw [if_pos hk, hk]
    rfl
  · rw [if_neg hk, Option.getD_some, UInt32.toNat_ofNat', Nat.mod_eq_of_lt (h.lt k)]

theorem get_eq (h : Counts m f) (k : κ) : get m k = UInt32.ofNat (f k) := by
  rw [← h.toNat_get k, UInt32.ofNat_toNat]

variable [DecidableEq κ]

/-- One entry of the table changes with its count. -/
theorem update (h : Counts m f) {n : Nat} (hn : n < 2 ^ 32) {v : Option UInt32}
    (hv : v = if n = 0 then none else some (UInt32.ofNat n)) :
    Counts (Function.update m k v) (Function.update f k n) := by
  constructor
  · intro k'
    by_cases hk : k' = k
    · rw [hk, Function.update_self]
      exact hn
    · rw [Function.update_of_ne hk]
      exact h.lt k'
  · intro k'
    by_cases hk : k' = k
    · rw [hk, Function.update_self, Function.update_self]
      exact hv
    · rw [Function.update_of_ne hk, Function.update_of_ne hk]
      exact h.eq k'

theorem incr (h : Counts m f) (hm : RefCount.incr m k = some m') :
    Counts m' (Function.update f k (f k + 1)) := by
  unfold RefCount.incr at hm
  by_cases hmax : get m k = 0xFFFFFFFF
  · rw [if_pos hmax] at hm
    cases hm
  rw [if_neg hmax] at hm
  cases hm
  have hlt : f k + 1 < 2 ^ 32 := by
    have hk := h.lt k
    have hne : f k ≠ 2 ^ 32 - 1 := by
      intro he
      apply hmax
      rw [h.get_eq, he]
      rfl
    omega
  refine h.update hlt ?_
  rw [if_neg (Nat.succ_ne_zero _), h.get_eq, UInt32.ofNat_add]
  rfl

theorem decr (h : Counts m f) (k : κ) : Counts (RefCount.decr m k) (Function.update f k (f k - 1)) := by
  have hk := h.toNat_get k
  have hlt := h.lt k
  unfold RefCount.decr
  by_cases h0 : get m k = 0
  · have hf : f k = 0 := by
      rw [← hk, h0]
      rfl
    rw [if_pos h0, hf, Nat.zero_sub, ← hf, Function.update_eq_self]
    exact h
  · rw [if_neg h0]
    have hpos : f k ≠ 0 := fun he => h0 (UInt32.toNat_inj.mp (hk.trans he))
    by_cases h1 : get m k = 1
    · have hf : f k = 1 := by
        rw [← hk, h1]
        rfl
      rw [if_pos h1]
      exact h.update (by omega) (by rw [if_pos (by omega)])
    · have hne : f k ≠ 1 := fun he => h1 (UInt32.toNat_inj.mp (hk.trans he))
      rw [if_neg h1]
      refine h.update (by omega) ?_
      rw [if_neg (by omega), h.get_eq]
      congr 1
      apply UInt32.toNat_inj.mp
      have hle : (1 : UInt32) ≤ UInt32.ofNat (f k) := by
        rw [UInt32.le_iff_toNat_le, UInt32.toNat_ofNat', Nat.mod_eq_of_lt hlt]
        exact Nat.pos_of_ne_zero hpos
      rw [UInt32.toNat_sub_of_le _ _ hle, UInt32.toNat_ofNat', UInt32.toNat_ofNat',
        Nat.mod_eq_of_lt hlt, Nat.mod_eq_of_lt (by omega)]
      rfl

/-- Counting down a list of keys. -/
theorem foldl_decr (h : Counts m f) (ks : List κ) :
    Counts (ks.foldl RefCount.decr m) fun k => f k - ks.count k := by
  induction ks generalizing m f with
  | nil => exact h
  | cons k ks ih =>
    have hcount : (fun k' => Function.update f k (f k - 1) k' - ks.count k') = fun k' =>
        f k' - (k :: ks).count k' := by
      funext k'
      by_cases hk : k' = k
      · rw [hk, List.count_cons_self, Function.update_self]
        omega
      · rw [List.count_cons_of_ne (Ne.symm hk), Function.update_of_ne hk]
    rw [← hcount]
    exact ih (h.decr k)

/-- One more key counted up behind a list of keys. -/
theorem incr_append {ks : List κ} (h : Counts m fun k => f k + ks.count k)
    (hm : RefCount.incr m k = some m') : Counts m' fun k' => f k' + (ks ++ [k]).count k' := by
  have hcount : Function.update (fun k' => f k' + ks.count k') k (f k + ks.count k + 1) =
      fun k' => f k' + (ks ++ [k]).count k' := by
    funext k'
    by_cases hk : k' = k
    · rw [hk, Function.update_self, List.count_append, List.count_singleton_self]
      omega
    · rw [Function.update_of_ne hk, List.count_append, List.count_singleton,
        if_neg (by simpa using Ne.symm hk)]
      omega
  rw [← hcount]
  exact h.incr hm

end Counts

end Lota.Core.RefCount

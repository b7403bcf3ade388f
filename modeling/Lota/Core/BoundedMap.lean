import Lota.Core.Bytes

/-!
# Hash maps with a fixed number of slots

A kernel hash map holds at most `cap` entries. An update of a key that is
there always succeeds, one of a new key needs a free slot; a delete of a key
that is not there is an error and changes nothing.

* `get_update`, `get_delete`, `mem_delete`: what the map holds afterwards.
-/
namespace Lota.Core

/-- One value per key. -/
abbrev BoundedMap (K V : Type) := AList (fun _ : K => V)

namespace BoundedMap

variable {K V : Type} [DecidableEq K] {cap : Nat} {m m' : BoundedMap K V} {k k' : K} {v : V}

def get (m : BoundedMap K V) (k : K) : Option V := AList.lookup k m

/-- `BPF_ANY`: insert or replace. -/
def update (cap : Nat) (m : BoundedMap K V) (k : K) (v : V) : Option (BoundedMap K V) :=
  if k ∈ m ∨ m.keys.length < cap then some (AList.insert k v m) else none

def delete (m : BoundedMap K V) (k : K) : Option (BoundedMap K V) :=
  if k ∈ m then some (AList.erase k m) else none

theorem get_update (h : update cap m k v = some m') :
    get m' k' = if k' = k then some v else get m k' := by
  unfold update at h
  split at h
  · rw [← Option.some.inj h]
    exact lookup_insert_ite m k' k v
  · cases h

/-- A key that is gone is gone, whether the delete found it or not. -/
theorem get_delete (m : BoundedMap K V) (k k' : K) :
    get ((delete m k).getD m) k' = if k' = k then none else get m k' := by
  unfold delete get
  by_cases hm : k ∈ m
  · rw [if_pos hm, Option.getD_some]
    exact lookup_erase_ite m k' k
  · rw [if_neg hm, Option.getD_none]
    by_cases hk : k' = k
    · rw [if_pos hk, hk]
      exact AList.lookup_eq_none.mpr hm
    · rw [if_neg hk]

theorem mem_delete (m : BoundedMap K V) (k k' : K) : k' ∈ (delete m k).getD m ↔ k' ≠ k ∧ k' ∈ m := by
  unfold delete
  by_cases hm : k ∈ m
  · rw [if_pos hm, Option.getD_some]
    exact AList.mem_erase
  · rw [if_neg hm, Option.getD_none]
    refine ⟨fun h => ⟨?_, h⟩, fun h => h.2⟩
    intro hk
    exact hm (hk ▸ h)

end BoundedMap

end Lota.Core

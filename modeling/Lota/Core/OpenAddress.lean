import Mathlib.Data.Set.Card
import Mathlib.Data.Fintype.Card
import Mathlib.Data.Fin.Basic

/-!
# Open addressing: linear probing with tombstones

A table has `n` slots. A slot is `empty` (never used), a `tomb` (used and
given up) or `live` for one key. The probes for a key go from its start slot
through the table, wrapping at the end. `Placed` is what a lookup relies on:
no key lives twice, and no probe before a key's slot is empty.

* `Placed.set_live`, `Placed.set_tomb`: taking a slot for a new key and
  giving a slot up keep a table placed.
* `Placed.not_held_of_empty`, `not_held_of_probes`: a search that met an
  empty slot, or all slots, has decided that the key is absent.
* `Placed.ncard_held`: a table whose slots are all live holds `n` keys.
-/
namespace Lota.Core.OpenAddress

inductive Slot (K : Type)
  | empty
  | tomb
  | live (k : K)

variable {K : Type} {n : Nat} [NeZero n]

/-- Slot of probe number `j` of a search that begins at `a`. -/
def probe (a : Fin n) (j : Nat) : Fin n := a + Fin.ofNat n j

theorem probe_zero (a : Fin n) : probe a 0 = a := by
  simp [probe]

theorem probe_succ (a : Fin n) (j : Nat) : probe a (j + 1) = probe a j + 1 := by
  apply Fin.ext
  simp only [probe, Fin.val_add, Fin.val_ofNat, Fin.coe_ofNat_eq_mod, Nat.add_mod_mod, Nat.mod_add_mod]
  rw [Nat.add_assoc]

/-- The probes reach every slot. -/
theorem exists_probe (a i : Fin n) : ∃ j < n, probe a j = i := by
  refine ⟨(i - a).val, (i - a).isLt, ?_⟩
  simp [probe]

/-- Two probes of one search that meet have the same number. -/
theorem probe_inj {a : Fin n} {j l : Nat} (hj : j < n) (hl : l < n) (h : probe a j = probe a l) :
    j = l := by
  have h' : Fin.ofNat n j = Fin.ofNat n l := add_left_cancel h
  simpa [Fin.ext_iff, Nat.mod_eq_of_lt hj, Nat.mod_eq_of_lt hl] using h'

/-- The key lives in some slot. -/
def Held (t : Fin n → Slot K) (k : K) : Prop := ∃ i, t i = .live k

/-- What a search relies on. -/
structure Placed (start : K → Fin n) (t : Fin n → Slot K) : Prop where
  unique : ∀ {k i j}, t i = .live k → t j = .live k → i = j
  reached : ∀ {k j}, j < n → t (probe (start k) j) = .live k → ∀ l < j, t (probe (start k) l) ≠ .empty

variable {start : K → Fin n} {t : Fin n → Slot K} {k : K}

theorem placed_empty : Placed start (fun _ => (.empty : Slot K)) where
  unique h := by cases h
  reached _ h := by cases h

/-- An empty slot ends the search: the key cannot live behind it. -/
theorem Placed.not_held_of_empty (h : Placed start t) {j : Nat} (hj : t (probe (start k) j) = .empty)
    (hpre : ∀ l < j, t (probe (start k) l) ≠ .live k) : ¬Held t k := by
  rintro ⟨i, hi⟩
  obtain ⟨l, hl, rfl⟩ := exists_probe (start k) i
  rcases Nat.lt_trichotomy l j with hlt | rfl | hgt
  · exact hpre l hlt hi
  · rw [hj] at hi
    cases hi
  · exact h.reached hl hi j hgt hj

theorem not_held_of_probes (hall : ∀ l < n, t (probe (start k) l) ≠ .live k) : ¬Held t k := by
  rintro ⟨i, hi⟩
  obtain ⟨l, hl, rfl⟩ := exists_probe (start k) i
  exact hall l hl hi

/-- A new key takes a slot that no key lives in, none of the probes before
it being empty. -/
theorem Placed.set_live (h : Placed start t) (hk : ¬Held t k) {j : Nat} (hj : j < n)
    (hfree : ∀ k', t (probe (start k) j) ≠ .live k') (hpre : ∀ l < j, t (probe (start k) l) ≠ .empty) :
    Placed start (Function.update t (probe (start k) j) (.live k)) where
  unique := by
    intro k' a b ha hb
    by_cases hai : a = probe (start k) j <;> by_cases hbi : b = probe (start k) j
    · rw [hai, hbi]
    · rw [hai, Function.update_self] at ha
      rw [Function.update_of_ne hbi, ← Slot.live.inj ha] at hb
      exact absurd ⟨b, hb⟩ hk
    · rw [hbi, Function.update_self] at hb
      rw [Function.update_of_ne hai, ← Slot.live.inj hb] at ha
      exact absurd ⟨a, ha⟩ hk
    · rw [Function.update_of_ne hai] at ha
      rw [Function.update_of_ne hbi] at hb
      exact h.unique ha hb
  reached := by
    intro k' m hm hlive l hl hempty
    by_cases hli : probe (start k') l = probe (start k) j
    · rw [hli, Function.update_self] at hempty
      cases hempty
    rw [Function.update_of_ne hli] at hempty
    by_cases hmi : probe (start k') m = probe (start k) j
    · rw [hmi, Function.update_self] at hlive
      obtain rfl := Slot.live.inj hlive
      obtain rfl := probe_inj hm hj hmi
      exact hpre l hl hempty
    · rw [Function.update_of_ne hmi] at hlive
      exact h.reached hm hlive l hl hempty

/-- A slot is given up. -/
theorem Placed.set_tomb (h : Placed start t) (i : Fin n) :
    Placed start (Function.update t i .tomb) where
  unique := by
    intro k' a b ha hb
    by_cases hai : a = i
    · rw [hai, Function.update_self] at ha
      cases ha
    by_cases hbi : b = i
    · rw [hbi, Function.update_self] at hb
      cases hb
    rw [Function.update_of_ne hai] at ha
    rw [Function.update_of_ne hbi] at hb
    exact h.unique ha hb
  reached := by
    intro k' m hm hlive l hl hempty
    by_cases hmi : probe (start k') m = i
    · rw [hmi, Function.update_self] at hlive
      cases hlive
    by_cases hli : probe (start k') l = i
    · rw [hli, Function.update_self] at hempty
      cases hempty
    rw [Function.update_of_ne hmi] at hlive
    rw [Function.update_of_ne hli] at hempty
    exact h.reached hm hlive l hl hempty

/-- A table with no free slot holds as many keys as it has slots. -/
theorem Placed.ncard_held (h : Placed start t) (hfull : ∀ i, ∃ k, t i = .live k) :
    {k | Held t k}.ncard = n := by
  choose key hkey using hfull
  have hrange : {k | Held t k} = Set.range key := by
    ext k
    constructor
    · rintro ⟨i, hi⟩
      rw [hkey i] at hi
      exact ⟨i, Slot.live.inj hi⟩
    · rintro ⟨i, rfl⟩
      exact ⟨i, hkey i⟩
  have hinj : Function.Injective key := by
    intro a b hab
    have hb := hkey b
    rw [← hab] at hb
    exact h.unique (hkey a) hb
  rw [hrange, ← Set.image_univ, Set.ncard_image_of_injective _ hinj, Set.ncard_univ,
    Nat.card_eq_fintype_card, Fintype.card_fin]

end Lota.Core.OpenAddress

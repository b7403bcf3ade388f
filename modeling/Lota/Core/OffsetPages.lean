import Mathlib.Data.List.Nodup
import Mathlib.Data.List.Range

/-!
# Offset pagination

A listing read page by page, where a request names the position it starts at.
A reader asks for page after page up to the first empty one. That returns the
listing when every request sees it in one order. When the front of the listing
may come in another order with every request, it does so only if the front
fits the first page.

* `flatMap_page`: the pages of one list.
* `reads_stable`: a listing in one order.
* `reads_front`: a front that fits the first page.
* `not_reads_moved`: an entry that moves behind the first page is read twice.
-/
namespace Lota.Core.OffsetPages

variable {α : Type}

/-- Page `j` of size `n`. -/
def page (l : List α) (n j : Nat) : List α := (l.drop (j * n)).take n

/-- The requests of a reader are answered with pages, up to the first empty
one, and `got` are the entries on them. -/
def Reads (answer : Nat → Option (List α)) (got : List α) : Prop :=
  ∃ k pages, answer k = some [] ∧ (∀ j < k, answer j = some (pages j) ∧ pages j ≠ []) ∧
    got = (List.range k).flatMap pages

/-- How many pages have entries. -/
def pageCount (len n : Nat) : Nat := (len + n - 1) / n

theorem le_pageCount {len n : Nat} (hn : 0 < n) : len ≤ pageCount len n * n := by
  unfold pageCount
  have hdiv := Nat.div_add_mod (len + n - 1) n
  have hmod := Nat.mod_lt (len + n - 1) hn
  have hcomm := Nat.mul_comm n ((len + n - 1) / n)
  omega

theorem lt_of_lt_pageCount {len n j : Nat} (hn : 0 < n) (h : j < pageCount len n) : j * n < len := by
  unfold pageCount at h
  have hle : (j + 1) * n ≤ len + n - 1 := (Nat.le_div_iff_mul_le hn).mp h
  rw [Nat.succ_mul] at hle
  omega

theorem page_eq_nil_iff {l : List α} {n j : Nat} (hn : 0 < n) : page l n j = [] ↔ l.length ≤ j * n := by
  unfold page
  rw [List.take_eq_nil_iff, List.drop_eq_nil_iff]
  omega

theorem flatMap_page (l : List α) (n k : Nat) : (List.range k).flatMap (page l n) = l.take (k * n) := by
  induction k with
  | zero => simp
  | succ k ih => simp [List.range_succ, ih, page, Nat.succ_mul, List.take_add]

/-- **One order.** -/
theorem reads_stable {answer : Nat → Option (List α)} {l : List α} {n : Nat} (hn : 0 < n)
    (h : ∀ j ≤ pageCount l.length n, answer j = some (page l n j)) : Reads answer l := by
  refine ⟨pageCount l.length n, page l n, ?_, fun j hj => ⟨h j (Nat.le_of_lt hj), fun hnil => ?_⟩, ?_⟩
  · rw [h _ (Nat.le_refl _), (page_eq_nil_iff hn).mpr (le_pageCount hn)]
  · have := (page_eq_nil_iff hn).mp hnil
    have := lt_of_lt_pageCount hn hj
    omega
  · rw [flatMap_page, List.take_of_length_le (le_pageCount hn)]

/-- Page 1 and later ones do not see a front that fits page 0. -/
theorem page_front {front front' back : List α} {n j : Nat} (hfront : front.length ≤ n)
    (hlen : front'.length = front.length) (hj : j ≠ 0) :
    page (front' ++ back) n j = page (front ++ back) n j := by
  have hpos : n ≤ j * n := Nat.le_mul_of_pos_left n (Nat.pos_of_ne_zero hj)
  have hdrop : front.drop (j * n) = [] := List.drop_of_length_le (by omega)
  have hdrop' : front'.drop (j * n) = [] := List.drop_of_length_le (by omega)
  unfold page
  rw [List.drop_append, List.drop_append, hdrop, hdrop', hlen]

/-- A front that fits page 0 may come in any order. -/
theorem reads_front {answer : Nat → Option (List α)} {fronts : Nat → List α} {back : List α}
    {n : Nat} (hn : 0 < n)
    (hfit : (fronts 0).length ≤ n) (hlen : ∀ j, (fronts j).length = (fronts 0).length)
    (h : ∀ j ≤ pageCount (fronts 0 ++ back).length n, answer j = some (page (fronts j ++ back) n j)) :
    Reads answer (fronts 0 ++ back) := by
  refine reads_stable hn fun j hj => ?_
  rw [h j hj]
  by_cases hj0 : j = 0
  · rw [hj0]
  · rw [page_front hfit (hlen j) hj0]

/-- The first entry goes to the front of page 1. -/
def moved (x : α) (l : List α) (n : Nat) : List α := l.take n ++ x :: l.drop n

theorem moved_perm (x : α) (l : List α) (n : Nat) : (moved x l n).Perm (x :: l) := by
  have hmid : (l.take n ++ x :: l.drop n).Perm (x :: (l.take n ++ l.drop n)) := List.perm_middle
  rwa [List.take_append_drop] at hmid

theorem mem_page_moved {x : α} {l back : List α} {n : Nat} (hn : 0 < n) (hlen : n ≤ l.length) :
    x ∈ page (moved x l n ++ back) n 1 := by
  obtain ⟨m, rfl⟩ := Nat.exists_eq_succ_of_ne_zero (Nat.pos_iff_ne_zero.mp hn)
  have hdrop : (moved x l (m + 1) ++ back).drop (1 * (m + 1)) = x :: (l.drop (m + 1) ++ back) := by
    unfold moved
    rw [Nat.one_mul, List.append_assoc]
    exact List.drop_left' (by rw [List.length_take]; omega)
  unfold page
  rw [hdrop, List.take_succ_cons]
  exact List.mem_cons_self

/-- **Another order.** A reader whose first page starts with `x` and who finds
`x` behind the first page again has read it twice. -/
theorem not_reads_moved {answer : Nat → Option (List α)} {got p₀ p₁ : List α} {x : α}
    (h₀ : answer 0 = some p₀)
    (h₁ : answer 1 = some p₁) (hx₀ : x ∈ p₀) (hx₁ : x ∈ p₁) (h : Reads answer got) : ¬ got.Nodup := by
  obtain ⟨k, pages, hk, hpages, rfl⟩ := h
  have hk0 : k ≠ 0 := by
    rintro rfl
    rw [h₀] at hk
    rw [Option.some.inj hk] at hx₀
    cases hx₀
  have hk1 : k ≠ 1 := by
    rintro rfl
    rw [h₁] at hk
    rw [Option.some.inj hk] at hx₁
    cases hx₁
  obtain ⟨m, rfl⟩ : ∃ m, k = m + 2 := ⟨k - 2, by omega⟩
  have he₀ : pages 0 = p₀ := Option.some.inj ((hpages 0 (by omega)).1.symm.trans h₀)
  have he₁ : pages 1 = p₁ := Option.some.inj ((hpages 1 (by omega)).1.symm.trans h₁)
  intro hnd
  rw [List.nodup_flatMap] at hnd
  have hpair := hnd.2
  rw [List.range_succ_eq_map, List.range_succ_eq_map, List.map_cons, List.pairwise_cons] at hpair
  have hdis := hpair.1 1 List.mem_cons_self
  simp only [Function.onFun, he₀, he₁] at hdis
  exact hdis hx₀ hx₁

end Lota.Core.OffsetPages

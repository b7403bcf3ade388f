import Mathlib.Data.List.Basic

/-!
# Character classes and digits

The texts of the agent are bytes or characters in the C locale, those of the
verifier and the CA are Go strings. The classes are on code points, so that
one definition serves bytes, runes and characters.

* `isCSpace` is `isspace`, `isUnicodeSpace` is `unicode.IsSpace`.
* `trimBoth` takes both ends off a text; `trimBoth_eq_self`: a text without
  spaces stays.
* `digitValue`: what a digit counts in any base, letters from ten.
-/
namespace Lota.Core

/-- `isspace` in the C locale. -/
def isCSpace (n : Nat) : Bool := n = 0x20 || (9 ≤ n && n ≤ 13)

/-- `unicode.IsSpace`. -/
def isUnicodeSpace (n : Nat) : Bool :=
  (9 ≤ n && n ≤ 13) || n = 0x20 || n = 0x85 || n = 0xA0 || n = 0x1680 || (0x2000 ≤ n && n ≤ 0x200a) ||
    n = 0x2028 || n = 0x2029 || n = 0x202f || n = 0x205f || n = 0x3000

/-- The value of a digit; letters count from ten, and what is no digit is 36. -/
def digitValue (n : Nat) : Nat :=
  if 0x30 ≤ n ∧ n ≤ 0x39 then n - 0x30
  else if 0x61 ≤ n ∧ n ≤ 0x7a then n - 0x57
  else if 0x41 ≤ n ∧ n ≤ 0x5a then n - 0x37
  else 36

section
variable {α : Type} {p : α → Bool}

/-- A text without what `p` accepts at its ends. -/
def trimBoth (p : α → Bool) (s : List α) : List α := ((s.dropWhile p).reverse.dropWhile p).reverse

theorem dropWhile_eq_self_of_none {s : List α} (h : ∀ c ∈ s, p c = false) : s.dropWhile p = s := by
  cases s with
  | nil => rfl
  | cons c s => exact List.dropWhile_cons_of_neg (by simp [h c (List.mem_cons_self ..)])

theorem trimBoth_eq_self {s : List α} (h : ∀ c ∈ s, p c = false) : trimBoth p s = s := by
  unfold trimBoth
  rw [dropWhile_eq_self_of_none h,
    dropWhile_eq_self_of_none fun c hc => h c (List.mem_reverse.mp hc), List.reverse_reverse]

end

end Lota.Core

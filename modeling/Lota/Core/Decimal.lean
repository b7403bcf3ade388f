import Mathlib.Algebra.Group.Nat.Defs
import Mathlib.Data.Int.Notation

/-!
# Decimal numbers in text (`strconv`)

* `parseInt64_toString`: reading a number back that was printed with `%d`.
-/
namespace Lota.Core

def decVal (c : Char) : Option Nat := if '0' ≤ c ∧ c ≤ '9' then some (c.toNat - 48) else none

def readDec (n : Nat) : List Char → Option Nat
  | [] => some n
  | c :: cs =>
    match decVal c with
    | none => none
    | some d => readDec (10 * n + d) cs

def parseDec (cs : List Char) : Option Nat := if cs = [] then none else readDec 0 cs

/-- `strconv.ParseInt(s, 10, 64)`, and `strconv.Atoi`; `none` is a syntax or a
range error. -/
def parseInt64 (s : String) : Option Int :=
  match s.toList with
  | '-' :: cs => (parseDec cs).bind fun n => if n ≤ 2 ^ 63 then some (-n) else none
  | '+' :: cs => (parseDec cs).bind fun n => if n < 2 ^ 63 then some n else none
  | cs => (parseDec cs).bind fun n => if n < 2 ^ 63 then some n else none

theorem decVal_digitChar {d : Nat} (h : d < 10) : decVal (Nat.digitChar d) = some d := by
  have hall : ∀ d < 10, decVal (Nat.digitChar d) = some d := by decide
  exact hall d h

theorem readDec_append (cs ds : List Char) (n : Nat) :
    readDec n (cs ++ ds) = (readDec n cs).bind fun m => readDec m ds := by
  induction cs generalizing n with
  | nil => rfl
  | cons c cs ih =>
    rw [List.cons_append, readDec, readDec]
    cases decVal c with
    | none => rfl
    | some d => exact ih _

theorem readDec_toDigits (n : Nat) : readDec 0 (Nat.toDigits 10 n) = some n := by
  induction n using Nat.strongRecOn with
  | ind n ih =>
    by_cases hn : n < 10
    · rw [Nat.toDigits_of_lt_base hn, readDec, decVal_digitChar hn]
      simp [readDec]
    · rw [Nat.toDigits_of_base_le (by omega) (by omega), readDec_append, ih (n / 10) (by omega),
        Option.bind_some, readDec, decVal_digitChar (Nat.mod_lt n (by omega))]
      simp only [readDec, Option.some.injEq]
      omega

theorem toDigits_ne_nil (n : Nat) : Nat.toDigits 10 n ≠ [] := by
  intro h
  by_cases hn : n < 10
  · rw [Nat.toDigits_of_lt_base hn] at h
    cases h
  · rw [Nat.toDigits_of_base_le (by omega) (by omega)] at h
    simp at h

theorem isDigit_toDigits {n : Nat} {c : Char} (h : c ∈ Nat.toDigits 10 n) : c.isDigit = true :=
  Nat.isDigit_of_mem_toDigits (by omega) (by omega) h

theorem toList_toString (n : Nat) : (toString n).toList = Nat.toDigits 10 n := by
  show (Nat.repr n).toList = _
  rw [Nat.repr, String.toList_ofList]

/-- **Round trip.** -/
theorem parseInt64_toString {n : Nat} (h : n < 2 ^ 63) : parseInt64 (toString n) = some (n : Int) := by
  have hparse : parseDec (Nat.toDigits 10 n) = some n := by
    rw [parseDec, if_neg (toDigits_ne_nil n), readDec_toDigits]
  unfold parseInt64
  rw [toList_toString]
  split
  · rename_i cs heq
    have hd := @isDigit_toDigits n '-' (by rw [heq]; exact List.mem_cons_self)
    exact absurd hd (by decide)
  · rename_i cs heq
    have hd := @isDigit_toDigits n '+' (by rw [heq]; exact List.mem_cons_self)
    exact absurd hd (by decide)
  · rw [hparse, Option.bind_some, if_pos h]

end Lota.Core

import Mathlib.Algebra.Group.Nat.Defs
import Mathlib.Data.Int.Notation

/-!
# Clock readings and durations

Times and durations count nanoseconds. A run gets its clock readings from
outside, one for every place where the code asks for the time; nothing is
assumed about them.

Differences are exact: every subtraction of the verifier is between two
monotonic readings of one process.
-/
namespace Lota.Core

/-- Nanoseconds since the Unix epoch. -/
abbrev Time := Int

abbrev Duration := Int

/-- Go's zero `time.Time`: January 1, year 1. -/
def zeroTime : Time := -62135596800000000000

/-- 64-bit wrap-around, as in a product of durations. -/
def wrap64 (n : Int) : Int := n.bmod (2 ^ 64)

/-! ## `Duration.String` -/

/-- The fraction `v / 10^prec` without trailing zeros, and the integral part. -/
def fmtFrac (v prec : Nat) : String × Nat :=
  let frac := v % 10 ^ prec
  let digits := Nat.toDigits 10 frac
  let padded := List.replicate (prec - digits.length) '0' ++ digits
  let kept := (padded.reverse.dropWhile (· == '0')).reverse
  (if frac = 0 then "" else "." ++ String.ofList kept, v / 10 ^ prec)

def fmtSubSecond (u : Nat) : String :=
  if u = 0 then "0s"
  else
    let (unit, prec) := if u < 1000 then ("ns", 0) else if u < 1000000 then ("µs", 3) else ("ms", 6)
    let (frac, n) := fmtFrac u prec
    toString n ++ frac ++ unit

def fmtSeconds (u : Nat) : String :=
  let (frac, n) := fmtFrac u 9
  let seconds := toString (n % 60) ++ frac ++ "s"
  if n < 60 then seconds
  else if n < 3600 then toString (n / 60) ++ "m" ++ seconds
  else toString (n / 3600) ++ "h" ++ toString (n / 60 % 60) ++ "m" ++ seconds

/-- `%v` of a `time.Duration`. -/
def fmtDuration (d : Duration) : String :=
  let u := d.natAbs
  let text := if u < 1000000000 then fmtSubSecond u else fmtSeconds u
  if d < 0 then "-" ++ text else text

example : fmtDuration 60000000000 = "1m0s" := by decide

/-! ## `time.RFC3339` -/

/-- Year, month and day of a day count since the epoch, in 400-year eras that
start on March 1. -/
def civilDate (days : Int) : Int × Nat × Nat :=
  let z := days + 719468
  let era := z.fdiv 146097
  let doe := (z.fmod 146097).toNat
  let yoe := (doe - doe / 1460 + doe / 36524 - doe / 146096) / 365
  let doy := doe - (365 * yoe + yoe / 4 - yoe / 100)
  let mp := (5 * doy + 2) / 153
  let month := if mp < 10 then mp + 3 else mp - 9
  (era * 400 + yoe + (if month ≤ 2 then 1 else 0), month, doy - (153 * mp + 2) / 5 + 1)

/-- A number with at least two digits. -/
def twoDigits (n : Nat) : String := if n < 10 then "0" ++ toString n else toString n

/-- `t.UTC().Format(time.RFC3339)`, for years of four digits. -/
def fmtRFC3339 (t : Time) : String :=
  let seconds := t.fdiv 1000000000
  let (year, month, day) := civilDate (seconds.fdiv 86400)
  let s := (seconds.fmod 86400).toNat
  toString year ++ "-" ++ twoDigits month ++ "-" ++ twoDigits day ++ "T" ++
    twoDigits (s / 3600) ++ ":" ++ twoDigits (s / 60 % 60) ++ ":" ++ twoDigits (s % 60) ++ "Z"

example : fmtRFC3339 951827696123456789 = "2000-02-29T12:34:56Z" := by decide

end Lota.Core

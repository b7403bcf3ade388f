import Lota.Core.Text
import Lota.L6Agent.RuntimeImage

/-!
# The text of `/proc/<pid>/maps` (`agent/runtime_image_measure.c`)

`lota_rt_collect_exec_maps` reads the file by `getline`, and
`lota_rt_parse_maps_line` takes a line apart with one `sscanf`:
`"%lx-%lx %4s %lx %x:%x %llu %n"`. Numbers are read as `strtoul` reads them.

A line that `sscanf` cannot read becomes one whose permissions are empty,
which is refused in the same way and at the same place.

* `parse_toMapsLine`: a line of text is parsed as the split line is.
-/
namespace Lota.L6.RuntimeImage
open Lota.Core

/-! ## `sscanf` -/

/-- `isspace` -/
def isBlank (b : UInt8) : Bool := isCSpace b.toNat

def skipBlanks (s : Bytes) : Bytes := s.dropWhile isBlank

def isDigitOf (base : Nat) (b : UInt8) : Bool := digitValue b.toNat < base

def digitsOf (base : Nat) (digits : Bytes) : Nat :=
  digits.foldl (fun n b => n * base + digitValue b.toNat) 0

/-- `0x` in front of a hexadecimal number. -/
def dropHexMark (base : Nat) : Bytes → Bytes
  | 0x30 :: x :: s => if base = 16 ∧ (x = 0x78 ∨ x = 0x58) then s else 0x30 :: x :: s
  | s => s

/-- A number after blanks, with a sign or without, and what follows it. Values
over 64 bits are cut to the largest; a sign is applied modulo 2^64. -/
def scanUnsigned (base : Nat) (s : Bytes) : Option (UInt64 × Bytes) :=
  let s := skipBlanks s
  let neg := s.head? = some 0x2d
  let s := if s.head? = some 0x2d ∨ s.head? = some 0x2b then s.tail else s
  let s := dropHexMark base s
  let digits := s.takeWhile (isDigitOf base)
  if digits = [] then none
  else
    let v := digitsOf base digits
    let value : UInt64 :=
      if v ≥ UInt64.size then UInt64.ofNat (UInt64.size - 1) else if neg then 0 - UInt64.ofNat v
        else UInt64.ofNat v
    some (value, s.dropWhile (isDigitOf base))

def scanChar (c : UInt8) : Bytes → Option Bytes
  | b :: s => if b = c then some s else none
  | [] => none

/-- `%4s` -/
def scanWord4 (s : Bytes) : Option (Bytes × Bytes) :=
  let s := skipBlanks s
  let word := (s.take 4).takeWhile (!isBlank ·)
  if word = [] then none else some (word, s.drop word.length)

/-- mirrors src/agent/runtime_image_measure.c:83-86 -/
def scanMapsLine (line : Bytes) : Option MapsLine := do
  let (start, s) ← scanUnsigned 16 line
  let s ← scanChar 0x2d s
  let (stop, s) ← scanUnsigned 16 s
  let (perms, s) ← scanWord4 s
  let (_, s) ← scanUnsigned 16 s
  let (maj, s) ← scanUnsigned 16 s
  let s ← scanChar 0x3a s
  let (min, s) ← scanUnsigned 16 s
  let (ino, s) ← scanUnsigned 10 s
  some {
    start := start
    stop := stop
    perms := perms.map fun b => Char.ofNat b.toNat
    devMajor := maj.toUInt32
    devMinor := min.toUInt32
    ino := ino
    rest := skipBlanks s }

/-! ## Lines -/

/-- `getline` until the end of the file; `cur` is the line so far, reversed. -/
def getLines (cur : Bytes) : Bytes → List Bytes
  | [] => if cur = [] then [] else [cur.reverse]
  | b :: s => if b = 0x0a then (b :: cur).reverse :: getLines [] s else getLines (b :: cur) s

/-- The line as a C string. -/
def lineString (line : Bytes) : Bytes := line.takeWhile (· ≠ 0)

/-- mirrors src/agent/runtime_image_measure.c:67-117 -/
def parseMapsText (line : Bytes) : Except Errno (Option MapEntry) :=
  match scanMapsLine (lineString line) with
  | none => .error .einval
  | some l => parseMapsLine l

/-- What stands for a line that cannot be read. -/
def unreadLine : MapsLine := ⟨0, 0, [], 0, 0, 0, []⟩

def toMapsLine (line : Bytes) : MapsLine := (scanMapsLine (lineString line)).getD unreadLine

theorem parse_toMapsLine (line : Bytes) : parseMapsLine (toMapsLine line) = parseMapsText line := by
  unfold parseMapsText toMapsLine
  cases scanMapsLine (lineString line) with
  | none => rfl
  | some l => rfl

/-- The lines of a file. -/
def mapsOf (content : Bytes) : List MapsLine := (getLines [] content).map toMapsLine

example :
    parseMapsText
    (ascii "7f1c2e400000-7f1c2e428000 r-xp 00028000 fd:01 1573066   /usr/lib/libc.so.6 (deleted)\n") =
    .ok (some ⟨0x7f1c2e400000, 0x7f1c2e428000, 0xfd, 1, 1573066, ascii "libc.so.6"⟩) := by
  decide +kernel

end Lota.L6.RuntimeImage

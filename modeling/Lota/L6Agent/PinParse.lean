import Lota.Core.Bytes
import Mathlib.Data.List.TakeWhile

/-!
# Certificate pins (`agent/net.c`)

`net_parse_pin_sha256` reads the fingerprint of a server certificate as it
stands on the command line: 32 pairs of hex digits, with colons and spaces
anywhere between the pairs. One loop reads the pairs, looking one character
ahead, a second one skips what follows the last of them.

Reads and writes are checked here: a read behind the terminator and a write
behind the 32 bytes are faults, and a loop has as many rounds as it is given.

* `scan` is the same reader on the text that is left.
* `netParsePinSha256_eq`: the loops make no fault and agree with `scan`.
* `scan_iff`: `scan` reads exactly the texts of `Spelled`.
* `net_parse_pin_exact`: the two together.
-/
namespace Lota.L6.PinParse
open Lota.Core

/-- A text in memory: its characters up to the terminator. -/
structure CString where
  bytes : Bytes
  noNul : 0 ∉ bytes

inductive Fault
  | readPastTerminator
  | writePastOutput
  | outOfRounds
  deriving DecidableEq

/-- mirrors src/agent/net.h:15 -/
def netPinSha256Len : Nat := 32

def einval : Int32 := -22

/-- `hex[i]` -/
def CString.read (hex : CString) (i : Nat) : Except Fault UInt8 :=
  if i < hex.bytes.length then .ok (hex.bytes.getD i 0)
  else if i = hex.bytes.length then .ok 0
  else .error .readPastTerminator

/-- `out[i] = b` -/
def write (out : Bytes) (i : Nat) (b : UInt8) : Except Fault Bytes :=
  if i < netPinSha256Len then .ok (out.set i b) else .error .writePastOutput

/-- `':'` and `' '` -/
def isSep (c : UInt8) : Bool := c = 58 || c = 32

/-- mirrors src/agent/net.c:740-747 -/
def nibble (c : UInt8) : Option UInt8 :=
  if 48 ≤ c ∧ c ≤ 57 then some (c - 48)
  else if 97 ≤ c ∧ c ≤ 102 then some (c - 97 + 10)
  else if 65 ≤ c ∧ c ≤ 70 then some (c - 65 + 10)
  else none

/-- The two rounds of the inner loop; `none` is its `-EINVAL`.
mirrors src/agent/net.c:733-753 -/
def readPair (hex : CString) (i : Nat) : Except Fault (Option UInt8) := do
  match nibble (← hex.read i) with
  | none => return none
  | some high =>
    match nibble (← hex.read (i + 1)) with
    | none => return none
    | some low => return some ((high <<< 4) ||| low)

structure Cursor where
  i : Nat
  outIdx : Nat
  out : Bytes

/-- The first loop. `false` is its `-EINVAL`.
mirrors src/agent/net.c:722-757 -/
def pairLoop (hex : CString) : (rounds : Nat) → Cursor → Except Fault (Bool × Cursor)
  | 0, _ => .error .outOfRounds
  | rounds + 1, s => do
    let c ← hex.read s.i
    if c = 0 ∨ netPinSha256Len ≤ s.outIdx then return (true, s)
    if isSep c then pairLoop hex rounds { s with i := s.i + 1 }
    else
      if (← hex.read (s.i + 1)) = 0 then return (false, s)
      match ← readPair hex s.i with
      | none => return (false, s)
      | some byte =>
        let out ← write s.out s.outIdx byte
        pairLoop hex rounds ⟨s.i + 2, s.outIdx + 1, out⟩

/-- The second loop.
mirrors src/agent/net.c:759-760 -/
def skipLoop (hex : CString) : (rounds : Nat) → (i : Nat) → Except Fault Nat
  | 0, _ => .error .outOfRounds
  | rounds + 1, i => do
    if isSep (← hex.read i) then skipLoop hex rounds (i + 1) else return i

/-- What follows the first loop.
mirrors src/agent/net.c:759-765 -/
def finish (hex : CString) : Bool × Cursor → Except Fault (Int32 × Bytes)
  | (false, s) => return (einval, s.out)
  | (true, s) => do
    let i ← skipLoop hex (hex.bytes.length + 1) s.i
    if s.outIdx ≠ netPinSha256Len ∨ (← hex.read i) ≠ 0 then return (einval, s.out)
    return (0, s.out)

/-- Neither pointer is null. The result is the return value and the output
array.
mirrors src/agent/net.c:712-766 -/
def netParsePinSha256 (hex : CString) (out : Blob netPinSha256Len) : Except Fault (Int32 × Bytes) := do
  finish hex (← pairLoop hex (hex.bytes.length + 1) ⟨0, 0, out.1⟩)

/-! ## Memory -/

@[simp] theorem ok_bind {α β : Type} (a : α) (f : α → Except Fault β) : (Except.ok a >>= f) = f a := rfl

@[simp] theorem pure_ok {α : Type} (a : α) : (pure a : Except Fault α) = .ok a := rfl

variable {hex : CString} {pre rest : Bytes} {c d : UInt8}

theorem read_cons (h : hex.bytes = pre ++ c :: rest) : hex.read pre.length = .ok c := by
  have hlt : pre.length < hex.bytes.length := by
    rw [h, List.length_append, List.length_cons]
    omega
  rw [CString.read, if_pos hlt, h]
  simp

theorem read_end (h : hex.bytes = pre) : hex.read pre.length = .ok 0 := by
  rw [CString.read, h, if_neg (Nat.lt_irrefl _), if_pos rfl]

theorem ne_nul (h : hex.bytes = pre ++ c :: rest) : c ≠ 0 := by
  rintro rfl
  exact hex.noNul (h ▸ List.mem_append_right _ List.mem_cons_self)

theorem not_sep_nul : isSep 0 = false := rfl

/-- The next character, or the terminator. -/
theorem read_head (h : hex.bytes = pre ++ rest) : hex.read pre.length = .ok (rest.headD 0) := by
  cases rest with
  | nil => exact read_end (by simpa using h)
  | cons c rest => exact read_cons h

theorem write_next {done tail : Bytes} {t b : UInt8}
    (h : done.length + (t :: tail).length = netPinSha256Len) :
    write (done ++ t :: tail) done.length b = .ok (done ++ b :: tail) := by
  rw [List.length_cons] at h
  rw [write, if_pos (by omega)]
  simp [List.set_append_right]

/-! ## The second loop -/

/-- It stops at the first character that is no separator. -/
theorem skipLoop_eq {rounds : Nat} (h : hex.bytes = pre ++ rest) (hr : rest.length < rounds) :
    skipLoop hex rounds pre.length = .ok (pre ++ rest.takeWhile isSep).length := by
  induction rounds generalizing pre rest with
  | zero => omega
  | succ rounds ih =>
    rw [skipLoop, read_head h, ok_bind]
    cases rest with
    | nil => simp [not_sep_nul]
    | cons c rest =>
      by_cases hc : isSep c = true
      · have hsplit : hex.bytes = (pre ++ [c]) ++ rest := by simpa using h
        have hrec := ih hsplit (Nat.lt_of_succ_lt_succ hr)
        rw [List.length_append, List.length_singleton] at hrec
        simp [hc, hrec]
      · simp [hc]

/-- The text after the skipped separators starts with the terminator exactly
when it is nothing but separators. -/
theorem finish_eq {s : Cursor} (h : hex.bytes = pre ++ rest) (hi : s.i = pre.length) :
    finish hex (true, s) =
      .ok (if s.outIdx = netPinSha256Len ∧ rest.all isSep then 0 else einval, s.out) := by
  have hsplit : hex.bytes = (pre ++ rest.takeWhile isSep) ++ rest.dropWhile isSep := by
    rw [h, List.append_assoc, List.takeWhile_append_dropWhile]
  have hlen : rest.length < hex.bytes.length + 1 := by
    rw [h, List.length_append]
    omega
  rw [finish, hi, skipLoop_eq h hlen, ok_bind, read_head hsplit, ok_bind]
  cases hd : rest.dropWhile isSep with
  | nil =>
    have hall : rest.all isSep = true := by
      rw [List.all_eq_true]
      exact List.dropWhile_eq_nil_iff.mp hd
    by_cases hidx : s.outIdx = netPinSha256Len <;> simp [hall, hidx]
  | cons c post =>
    have hc : c ≠ 0 := ne_nul (hd ▸ hsplit)
    have hall : rest.all isSep = false := by
      rw [← Bool.not_eq_true, List.all_eq_true]
      intro hsep
      rw [List.dropWhile_eq_nil_iff.mpr hsep] at hd
      cases hd
    simp [hc, hall]

/-! ## The first loop -/

/-- The reader on the text that is left, with `need` pairs to go. -/
def scan : (need : Nat) → Bytes → Option Bytes
  | 0, rest => if rest.all isSep then some [] else none
  | _ + 1, [] => none
  | _ + 1, [_] => none
  | need + 1, c :: d :: rest =>
    if isSep c then scan (need + 1) (d :: rest)
    else (nibble c).bind fun high => (nibble d).bind fun low => (scan need rest).map
    (((high <<< 4) ||| low) :: ·)

theorem scan_sep {need : Nat} (hc : isSep c = true) :
    scan (need + 1) (c :: rest) = scan (need + 1) rest := by
  cases rest with
  | nil => rfl
  | cons d rest => rw [scan, if_pos hc]

theorem readPair_eq (h : hex.bytes = pre ++ c :: d :: rest) :
    readPair hex pre.length =
      .ok ((nibble c).bind fun high => (nibble d).map fun low => (high <<< 4) ||| low) := by
  have hd : hex.read (pre.length + 1) = .ok d := by
    have := @read_cons hex (pre ++ [c]) rest d (by simpa using h)
    rwa [List.length_append, List.length_singleton] at this
  rw [readPair, read_cons h, ok_bind, hd]
  cases nibble c with
  | none => rfl
  | some high =>
    simp only [ok_bind]
    cases nibble d <;> rfl

/-- What the two loops together come to: the return value and the array when
the text is accepted, `-EINVAL` and some array when not. -/
def Agrees (result : Except Fault (Int32 × Bytes)) (accepted : Option Bytes) : Prop :=
  ∃ left, result = .ok (accepted.elim (einval, left) fun out => (0, out))

/-- Loop lemma. `done` is written and `tail` is what the array holds behind
it, so its length is the number of pairs to go. -/
theorem pairLoop_agrees {rounds : Nat} {done tail : Bytes} (h : hex.bytes = pre ++ rest)
    (hr : rest.length < rounds)
    (ho : done.length + tail.length = netPinSha256Len) :
    Agrees (pairLoop hex rounds ⟨pre.length, done.length, done ++ tail⟩ >>= finish hex)
      ((scan tail.length rest).map (done ++ ·)) := by
  induction rounds generalizing pre rest done tail with
  | zero => omega
  | succ rounds ih =>
    rw [pairLoop, read_head h, ok_bind]
    cases tail with
    | nil =>
      have hfull : netPinSha256Len ≤ done.length := by simpa using ho.ge
      have hidx : done.length = netPinSha256Len := by simpa using ho
      rw [if_pos (.inr hfull), pure_ok, ok_bind, finish_eq h rfl]
      refine ⟨done, ?_⟩
      by_cases hall : rest.all isSep = true <;> simp [scan, hall, hidx]
    | cons t tail =>
      have hlt : done.length < netPinSha256Len := by
        rw [List.length_cons] at ho
        omega
      cases rest with
      | nil =>
        rw [if_pos (.inl rfl), pure_ok, ok_bind, finish_eq h rfl]
        exact ⟨done ++ t :: tail, by simp [scan, Nat.ne_of_lt hlt]⟩
      | cons c rest =>
        rw [List.headD_cons, if_neg (not_or.mpr ⟨ne_nul h, Nat.not_le.mpr hlt⟩), List.length_cons]
        by_cases hc : isSep c = true
        · have hsplit : hex.bytes = (pre ++ [c]) ++ rest := by simpa using h
          have hrec := ih hsplit (Nat.lt_of_succ_lt_succ hr) ho
          rw [List.length_append, List.length_singleton] at hrec
          rw [if_pos hc, scan_sep hc]
          exact hrec
        · rw [if_neg hc]
          have hsplit : hex.bytes = (pre ++ [c]) ++ rest := by simpa using h
          have hnext := read_head hsplit
          rw [List.length_append, List.length_singleton] at hnext
          rw [hnext, ok_bind]
          cases rest with
          | nil => exact ⟨done ++ t :: tail, by simp [finish, scan]⟩
          | cons d rest =>
            have hd : d ≠ 0 := ne_nul hsplit
            rw [List.headD_cons, if_neg hd, readPair_eq h, ok_bind, scan, if_neg hc]
            cases hcn : nibble c with
            | none => exact ⟨done ++ t :: tail, by simp [finish]⟩
            | some high =>
              cases hdn : nibble d with
              | none => exact ⟨done ++ t :: tail, by simp [finish]⟩
              | some low =>
                simp only [Option.bind_some, Option.map_some, write_next ho, ok_bind]
                have hpair : hex.bytes = (pre ++ [c, d]) ++ rest := by simpa using h
                have hwritten : (done ++ [(high <<< 4) ||| low]).length + tail.length =
                    netPinSha256Len := by
                  simpa [Nat.add_assoc, Nat.add_comm 1] using ho
                have hrec := ih hpair (by simp only [List.length_cons] at hr; omega) hwritten
                simpa [Option.map_map, Function.comp_def] using hrec

/-- The calls make no fault and agree with the reader. -/
theorem netParsePinSha256_eq (hex : CString) (out : Blob netPinSha256Len) :
    Agrees (netParsePinSha256 hex out) (scan netPinSha256Len hex.bytes) := by
  have hlen : ([] : Bytes).length + out.1.length = netPinSha256Len := by
    rw [out.2]
    rfl
  have h := pairLoop_agrees (List.nil_append hex.bytes).symm (Nat.lt_succ_self _) hlen
  rw [out.2] at h
  simpa [netParsePinSha256] using h

/-! ## The texts -/

/-- The value of a hex digit. -/
def digitVal (c : UInt8) : Option Nat := hexVal (Char.ofNat c.toNat)

/-- Pairs of hex digits with colons and spaces before, between and after
them, and the values of the pairs. -/
inductive Spelled : Bytes → Bytes → Prop
  | done {seps : Bytes} (h : ∀ c ∈ seps, isSep c = true) : Spelled seps []
  | pair {seps rest vals : Bytes} {c d : UInt8} {x y : Nat} (h : ∀ c ∈ seps, isSep c = true)
    (hx : digitVal c = some x) (hy : digitVal d = some y) (hrest : Spelled rest vals) :
    Spelled (seps ++ c :: d :: rest) (UInt8.ofNat (16 * x + y) :: vals)

theorem toNat_char (c : UInt8) : (Char.ofNat c.toNat).toNat = c.toNat := by
  have hc : c.toNat < 256 := c.toNat_lt
  have hvalid : c.toNat.isValidChar := .inl (by omega)
  unfold Char.ofNat
  rw [dif_pos hvalid]
  rfl

/-- The three ranges of the code are those of a hex digit. -/
theorem nibble_eq (c : UInt8) : nibble c = (digitVal c).map UInt8.ofNat := by
  have hc : c.toNat < 256 := c.toNat_lt
  rw [nibble, digitVal, hexVal, toNat_char]
  simp only [UInt8.le_iff_toNat_le, UInt8.reduceToNat]
  split_ifs with h1 h2 h3
  · refine congrArg some (UInt8.toNat_inj.mp ?_)
    simp only [UInt8.toNat_sub, UInt8.toNat_ofNat', UInt8.reduceToNat]
    omega
  · refine congrArg some (UInt8.toNat_inj.mp ?_)
    simp only [UInt8.toNat_add, UInt8.toNat_sub, UInt8.toNat_ofNat', UInt8.reduceToNat]
    omega
  · refine congrArg some (UInt8.toNat_inj.mp ?_)
    simp only [UInt8.toNat_add, UInt8.toNat_sub, UInt8.toNat_ofNat', UInt8.reduceToNat]
    omega
  · rfl

theorem digitVal_lt {x : Nat} (h : digitVal c = some x) : x < 16 := by
  rw [digitVal, hexVal, toNat_char] at h
  split_ifs at h with h1 h2 h3
  · cases h
    omega
  · cases h
    omega
  · cases h
    omega

/-- `(high << 4) | low` -/
theorem pair_byte {x y : Nat} (hx : x < 16) (hy : y < 16) :
    (UInt8.ofNat x <<< 4) ||| UInt8.ofNat y = UInt8.ofNat (16 * x + y) := by
  apply UInt8.toNat_inj.mp
  have hshift : (UInt8.ofNat x <<< 4).toNat = x <<< 4 := by
    rw [UInt8.toNat_shiftLeft, UInt8.toNat_ofNat', Nat.shiftLeft_eq, Nat.shiftLeft_eq]
    simp
    omega
  have hlow : (UInt8.ofNat y).toNat = y := by
    rw [UInt8.toNat_ofNat']
    omega
  rw [UInt8.toNat_or, hshift, hlow, ← Nat.shiftLeft_add_eq_or_of_lt hy, Nat.shiftLeft_eq,
    UInt8.toNat_ofNat']
  omega

theorem not_sep_of_digit {x : Nat} (h : digitVal c = some x) : isSep c = false := by
  rw [digitVal, hexVal, toNat_char] at h
  cases hs : isSep c with
  | false => rfl
  | true =>
    simp only [isSep, Bool.or_eq_true, decide_eq_true_eq] at hs
    rcases hs with rfl | rfl <;> simp at h

/-- A separator in front changes nothing. -/
theorem Spelled.sep {text vals : Bytes} (hc : isSep c = true) (h : Spelled text vals) :
    Spelled (c :: text) vals := by
  have hcons {seps : Bytes} (hs : ∀ x ∈ seps, isSep x = true) : ∀ x ∈ c :: seps, isSep x = true := by
    intro x hx
    rcases List.mem_cons.mp hx with rfl | hx
    · exact hc
    · exact hs x hx
  cases h with
  | done hs => exact .done (hcons hs)
  | pair hs hx hy hrest => exact .pair (hcons hs) hx hy hrest

theorem scan_seps {need : Nat} {seps : Bytes} (hs : ∀ x ∈ seps, isSep x = true) :
    scan (need + 1) (seps ++ rest) = scan (need + 1) rest := by
  induction seps with
  | nil => rfl
  | cons c seps ih =>
    rw [List.cons_append, scan_sep (hs c List.mem_cons_self),
      ih fun x hx => hs x (List.mem_cons_of_mem c hx)]

/-- Every text of the grammar is read, to its values. -/
theorem scan_of_spelled {text vals : Bytes} (h : Spelled text vals) :
    scan vals.length text = some vals := by
  induction h with
  | done hs => rw [List.length_nil, scan, if_pos (List.all_eq_true.mpr hs)]
  | pair hs hx hy hrest ih =>
    rw [List.length_cons, scan_seps hs, scan, if_neg (by simp [not_sep_of_digit hx]), nibble_eq,
      nibble_eq, hx, hy]
    simp [ih, pair_byte (digitVal_lt hx) (digitVal_lt hy)]

/-- A text that is read is in the grammar. -/
theorem spelled_of_scan {need : Nat} {text vals : Bytes} (h : scan need text = some vals) :
    vals.length = need ∧ Spelled text vals := by
  induction need, text using scan.induct generalizing vals with
  | case1 text hall =>
    rw [scan, if_pos hall] at h
    cases h
    exact ⟨rfl, .done (List.all_eq_true.mp hall)⟩
  | case2 text hall =>
    rw [scan, if_neg hall] at h
    cases h
  | case3 need => cases h
  | case4 need c => cases h
  | case5 need c d text hc ih =>
    rw [scan, if_pos hc] at h
    obtain ⟨hlen, hsp⟩ := ih h
    exact ⟨hlen, hsp.sep hc⟩
  | case6 need c d text hc ih =>
    rw [scan, if_neg hc, nibble_eq, nibble_eq] at h
    simp only [Option.bind_eq_some_iff, Option.map_eq_some_iff] at h
    obtain ⟨_, ⟨x, hx, rfl⟩, _, ⟨y, hy, rfl⟩, rest, hrest, rfl⟩ := h
    obtain ⟨hlen, hsp⟩ := ih hrest
    refine ⟨by simp [hlen], ?_⟩
    rw [pair_byte (digitVal_lt hx) (digitVal_lt hy)]
    exact @Spelled.pair [] _ _ _ _ _ _ (by simp) hx hy hsp

theorem scan_iff {need : Nat} {text vals : Bytes} :
    scan need text = some vals ↔ vals.length = need ∧ Spelled text vals := by
  constructor
  · exact spelled_of_scan
  · rintro ⟨rfl, h⟩
    exact scan_of_spelled h

/-- **Certificate pins.** For every text and every output array the parser
returns, with no read behind the terminator and no write behind the array. It
accepts exactly the texts of 32 pairs of hex digits with colons and spaces
before, between and after them, and the array then holds the values of the
pairs in order. -/
theorem net_parse_pin_exact (hex : CString) (out : Blob netPinSha256Len) :
    ∃ ret out', netParsePinSha256 hex out = .ok (ret, out') ∧ (ret = 0 ∨ ret = einval) ∧
      ∀ vals, ret = 0 ∧ out' = vals ↔ vals.length = netPinSha256Len ∧ Spelled hex.bytes vals := by
  obtain ⟨left, h⟩ := netParsePinSha256_eq hex out
  cases hscan : scan netPinSha256Len hex.bytes with
  | none =>
    rw [hscan] at h
    refine ⟨einval, left, h, .inr rfl, fun vals => ⟨fun hacc => ?_, fun hsp => ?_⟩⟩
    · exact absurd hacc.1 (by decide)
    · rw [scan_iff.mpr hsp] at hscan
      cases hscan
  | some read =>
    rw [hscan] at h
    refine ⟨0, read, h, .inl rfl, fun vals => ?_⟩
    rw [← scan_iff, hscan]
    simp

end Lota.L6.PinParse

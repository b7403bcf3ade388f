import Lota.Core.Bytes

/-!
# Reading at offsets, with faults

A parser that keeps an offset into a byte string may read outside of it: a
panic in Go, undefined behaviour in C. Here such a read is a `fault`, apart
from the errors that the parser reports itself. `OReader` is a parser with its
input and its offset in view; `Reader` is the same parser seen as a consumer of
the bytes that are left, which has no way to read outside.

`ReadsAs x r` says that `x` does on the input what `r` does on the rest behind
the offset. It goes through sequencing, so a parser is free of faults as soon
as each of its reads stands behind its test.

* `ReadsAs.bind`, `ReadsAs.need`, `ReadsAs.readFull`: the rules.
* `ReadsAs.run_eq`: a whole input.
-/
namespace Lota.Core

/-- Why a parser stops without a result. -/
inductive Stop (ε : Type) where
  /-- A read outside the input. -/
  | fault
  | err (e : ε)
  deriving DecidableEq

variable {ε α β : Type}

/-- The `n` bytes at `off`. -/
def load (data : Bytes) (off n : Nat) : Except (Stop ε) Bytes :=
  if off + n ≤ data.length then .ok ((data.drop off).take n) else .error .fault

theorem load_ok {data : Bytes} {off n : Nat} (h : off + n ≤ data.length) :
    (load data off n : Except (Stop ε) Bytes) = .ok ((data.drop off).take n) := if_pos h

/-- A result that reports errors only. -/
def liftErr (x : Except ε α) : Except (Stop ε) α :=
  match x with
  | .error e => .error (.err e)
  | .ok a => .ok a

theorem liftErr_ne_fault (x : Except ε α) : liftErr x ≠ .error .fault := by
  cases x <;> simp [liftErr]

theorem liftErr_ok {x : Except ε α} {a : α} : liftErr x = .ok a ↔ x = .ok a := by
  cases x <;> simp [liftErr]

/-- A parser: from the input and an offset to a value and the offset behind it. -/
structure OReader (α : Type) where
  run : Bytes → Nat → Except (Stop String) (α × Nat)

namespace OReader

instance : Monad OReader where
  pure a := ⟨fun _ off => .ok (a, off)⟩
  bind x f := ⟨fun data off =>
    match x.run data off with
    | .error e => .error e
    | .ok (a, off') => (f a).run data off'⟩

def fail (e : String) : OReader α := ⟨fun _ _ => .error (.err e)⟩

/-- `if len(data) < offset+n { return err }`. -/
def ensure (e : String) (n : Nat) : OReader Unit := ⟨fun data off =>
  if data.length < off + n then .error (.err e) else .ok ((), off)⟩

/-- `data[offset:offset+n]`, then `offset += n`. -/
def take (n : Nat) : OReader Bytes := ⟨fun data off =>
  match load data off n with
  | .error e => .error e
  | .ok b => .ok (b, off + n)⟩

/-- `offset += n` over bytes that are not read. -/
def skip (n : Nat) : OReader Unit := ⟨fun _ off => .ok ((), off + n)⟩

/-- One test for two neighbouring fields. -/
def needTwo (e : String) (m n : Nat) : OReader (Bytes × Bytes) := do
  ensure e (m + n)
  let b ← take m
  let c ← take n
  pure (b, c)

/-- One test for two neighbouring fields, of which the second is not read. -/
def needFirst (e : String) (m n : Nat) : OReader Bytes := do
  ensure e (m + n)
  let b ← take m
  skip n
  pure b

/-- `fmt.Errorf("msg: %w", err)`. -/
def wrap (msg : String) (x : OReader α) : OReader α := ⟨fun data off =>
  match x.run data off with
  | .error (.err e) => .error (.err (msg ++ ": " ++ e))
  | r => r⟩

/-- `io.ReadFull` from a `bytes.Reader`: the reader slices its input at the
offset and copies what is there. -/
def readFull (n : Nat) : OReader Bytes := ⟨fun data off =>
  match load data off (data.length - off) with
  | .error e => .error e
  | .ok rest =>
    if n ≤ rest.length then .ok (rest.take n, off + n)
    else .error (.err (if rest = [] then "EOF" else "unexpected EOF"))⟩

def readLE (k : Nat) : OReader Nat := do
  let bs ← readFull k
  pure (ofLE bs)

def readBE (k : Nat) : OReader Nat := do
  let bs ← readFull k
  pure (ofBE bs)

def readU8 : OReader UInt8 := do let n ← readLE 1; pure (UInt8.ofNat n)
def readU16BE : OReader UInt16 := do let n ← readBE 2; pure (UInt16.ofNat n)
def readU32BE : OReader UInt32 := do let n ← readBE 4; pure (UInt32.ofNat n)
def readU64BE : OReader UInt64 := do let n ← readBE 8; pure (UInt64.ofNat n)

end OReader

/-- A reader that hands a value on, seen from behind. -/
theorem Reader.bind_pure_bind (r : Reader α) (f : α → β) {γ : Type} (g : β → Reader γ) :
    (r >>= fun a => (Pure.pure (f a) : Reader β)) >>= g = r >>= fun a => g (f a) := by
  simp only [Bind.bind]
  congr 1
  funext data
  rcases r.run data with e | ⟨a, rest⟩
  · rfl
  · rfl

/-- On every input and at every offset in it, `x` does what `r` does on the
rest. -/
def ReadsAs (x : OReader α) (r : Reader α) : Prop := ∀ data off, off ≤ data.length →
  (∃ e, r.run (data.drop off) = .error e ∧ x.run data off = .error (.err e)) ∨
  ∃ a off', r.run (data.drop off) = .ok (a, data.drop off') ∧ x.run data off = .ok (a, off') ∧
    off ≤ off' ∧ off' ≤ data.length

namespace ReadsAs

theorem pure (a : α) : ReadsAs (Pure.pure a) (Pure.pure a) :=
  fun _ off hoff => Or.inr ⟨a, off, rfl, rfl, Nat.le_refl _, hoff⟩

theorem fail (e : String) : ReadsAs (OReader.fail e : OReader α) (.fail e) :=
  fun _ _ _ => Or.inl ⟨e, rfl, rfl⟩

theorem bind {x : OReader α} {r : Reader α} {f : α → OReader β} {g : α → Reader β} (hx : ReadsAs x r)
    (hf : ∀ a, ReadsAs (f a) (g a)) : ReadsAs (x >>= f) (r >>= g) := by
  intro data off hoff
  rcases hx data off hoff with ⟨e, hr, hxe⟩ | ⟨a, off₁, hr, hxa, hle, hlen⟩
  · refine Or.inl ⟨e, ?_, ?_⟩
    · simp only [Bind.bind, hr]
    · simp only [Bind.bind, hxe]
  · rcases hf a data off₁ hlen with ⟨e, hg, hfe⟩ | ⟨b, off₂, hg, hfb, hle₂, hlen₂⟩
    · refine Or.inl ⟨e, ?_, ?_⟩
      · simp only [Bind.bind, hr, hg]
      · simp only [Bind.bind, hxa, hfe]
    · refine Or.inr ⟨b, off₂, ?_, ?_, Nat.le_trans hle hle₂, hlen₂⟩
      · simp only [Bind.bind, hr, hg]
      · simp only [Bind.bind, hxa, hfb]

theorem ite {p : Prop} [Decidable p] {x y : OReader α} {r s : Reader α} (hx : ReadsAs x r)
    (hy : ReadsAs y s) : ReadsAs (if p then x else y) (if p then r else s) := by
  by_cases h : p
  · rw [if_pos h, if_pos h]
    exact hx
  · rw [if_neg h, if_neg h]
    exact hy

theorem wrap (msg : String) {x : OReader α} {r : Reader α} (hx : ReadsAs x r) :
    ReadsAs (x.wrap msg) (r.wrap msg) := by
  intro data off hoff
  rcases hx data off hoff with ⟨e, hr, hxe⟩ | ⟨a, off', hr, hxa, hle, hlen⟩
  · refine Or.inl ⟨msg ++ ": " ++ e, ?_, ?_⟩
    · simp only [Reader.wrap, hr]
    · simp only [OReader.wrap, hxe]
  · refine Or.inr ⟨a, off', ?_, ?_, hle, hlen⟩
    · simp only [Reader.wrap, hr]
    · simp only [OReader.wrap, hxa]

/-- A slice behind its test. -/
theorem need (e : String) (n : Nat) :
    ReadsAs (do OReader.ensure e n; OReader.take n) (Lota.Core.need e n) := by
  intro data off hoff
  have hlen : (data.drop off).length = data.length - off := List.length_drop
  by_cases h : data.length < off + n
  · refine Or.inl ⟨e, ?_, ?_⟩
    · simp only [Lota.Core.need, hlen]
      rw [if_neg (by omega)]
    · simp only [Bind.bind, OReader.ensure, if_pos h]
  · refine Or.inr ⟨(data.drop off).take n, off + n, ?_, ?_, by omega, by omega⟩
    · simp only [Lota.Core.need, hlen]
      rw [if_pos (by omega), List.drop_drop]
    · simp only [Bind.bind, OReader.ensure, if_neg h, OReader.take]
      rw [load_ok (by omega)]

theorem needTwo (e : String) (m n : Nat) : ReadsAs (OReader.needTwo e m n)
    (Lota.Core.need e (m + n) >>= fun b => Pure.pure (b.take m, b.drop m)) := by
  intro data off hoff
  have hlen : (data.drop off).length = data.length - off := List.length_drop
  by_cases h : data.length < off + (m + n)
  · refine Or.inl ⟨e, ?_, ?_⟩
    · simp only [Bind.bind, Lota.Core.need, hlen]
      rw [if_neg (by omega)]
    · simp only [OReader.needTwo, Bind.bind, OReader.ensure, if_pos h]
  · refine Or.inr ⟨(((data.drop off).take (m + n)).take m, ((data.drop off).take (m + n)).drop m),
      off + m + n, ?_, ?_, by omega, by omega⟩
    · simp only [Bind.bind, Lota.Core.need, hlen]
      rw [if_pos (by omega)]
      simp only [Reader.pure_run, List.drop_drop, Nat.add_assoc]
    · simp only [OReader.needTwo, Bind.bind, OReader.ensure, if_neg h, OReader.take]
      rw [load_ok (by omega : off + m ≤ data.length)]
      simp only
      rw [load_ok (by omega : off + m + n ≤ data.length)]
      simp only [Pure.pure, List.take_take, List.drop_take, List.drop_drop, Nat.min_def]
      rw [if_pos (by omega : m ≤ m + n), Nat.add_sub_cancel_left]

theorem needFirst (e : String) (m n : Nat) : ReadsAs (OReader.needFirst e m n)
    (Lota.Core.need e (m + n) >>= fun b => Pure.pure (b.take m)) := by
  intro data off hoff
  have hlen : (data.drop off).length = data.length - off := List.length_drop
  by_cases h : data.length < off + (m + n)
  · refine Or.inl ⟨e, ?_, ?_⟩
    · simp only [Bind.bind, Lota.Core.need, hlen]
      rw [if_neg (by omega)]
    · simp only [OReader.needFirst, Bind.bind, OReader.ensure, if_pos h]
  · refine Or.inr ⟨((data.drop off).take (m + n)).take m, off + m + n, ?_, ?_, by omega, by omega⟩
    · simp only [Bind.bind, Lota.Core.need, hlen]
      rw [if_pos (by omega)]
      simp only [Reader.pure_run, List.drop_drop, Nat.add_assoc]
    · simp only [OReader.needFirst, Bind.bind, OReader.ensure, if_neg h, OReader.take, OReader.skip]
      rw [load_ok (by omega : off + m ≤ data.length)]
      simp only [Pure.pure, List.take_take, Nat.min_def]
      rw [if_pos (by omega : m ≤ m + n)]

theorem readFull (n : Nat) : ReadsAs (OReader.readFull n) (Lota.Core.readFull n) := by
  intro data off hoff
  have hload : (load data off (data.length - off) : Except (Stop String) Bytes) =
      .ok (data.drop off) := by
    rw [load_ok (by omega), List.take_of_length_le (by rw [List.length_drop])]
  by_cases h : n ≤ (data.drop off).length
  · refine Or.inr ⟨(data.drop off).take n, off + n, ?_, ?_, by omega, ?_⟩
    · simp only [Lota.Core.readFull, if_pos h, List.drop_drop]
    · simp only [OReader.readFull, hload, if_pos h]
    · rw [List.length_drop] at h
      omega
  · refine Or.inl ⟨if data.drop off = [] then "EOF" else "unexpected EOF", ?_, ?_⟩
    · simp only [Lota.Core.readFull, if_neg h]
      split <;> rfl
    · simp only [OReader.readFull, hload, if_neg h]

theorem readLE (k : Nat) : ReadsAs (OReader.readLE k) (Lota.Core.readLE k) :=
  (readFull k).bind fun _ => pure _

theorem readBE (k : Nat) : ReadsAs (OReader.readBE k) (Lota.Core.readBE k) :=
  (readFull k).bind fun _ => pure _

theorem readU8 : ReadsAs OReader.readU8 Lota.Core.readU8 := (readLE 1).bind fun _ => pure _

theorem readU16BE : ReadsAs OReader.readU16BE Lota.Core.readU16BE := (readBE 2).bind fun _ => pure _

theorem readU32BE : ReadsAs OReader.readU32BE Lota.Core.readU32BE := (readBE 4).bind fun _ => pure _

theorem readU64BE : ReadsAs OReader.readU64BE Lota.Core.readU64BE := (readBE 8).bind fun _ => pure _

/-- On a whole input: the same value or the same error, and no fault. -/
theorem run_eq {x : OReader α} {r : Reader α} (h : ReadsAs x r) (data : Bytes) :
    (x.run data 0).map Prod.fst = liftErr ((r.run data).map Prod.fst) := by
  rcases h data 0 (Nat.zero_le _) with ⟨e, hr, hx⟩ | ⟨a, off, hr, hx, -, -⟩
  · rw [List.drop_zero] at hr
    rw [hr, hx]
    rfl
  · rw [List.drop_zero] at hr
    rw [hr, hx]
    rfl

end ReadsAs

end Lota.Core

import Mathlib.Data.List.AList
import Mathlib.Data.Nat.Bitwise
import Mathlib.Data.Vector.Basic
import Mathlib.Tactic.IntervalCases

/-!
# Bytes, fixed-size arrays, integers on the wire, readers and hex

The vocabulary every wire format of the development shares.

* `Blob n` is a fixed-size byte array; `GoMap` a finite map. `lookup_prune` is
  a loop that deletes, `countValues_erase` and `countValues_insert` count values.
* `toLE` / `ofLE` and `toBE` / `ofBE` are the little- and big-endian integer
  codecs, inverse to each other on `k`-byte values.
* `Reader` is a cursor over the bytes that are left. `readFull_append` and
  the lemmas built on it run a reader over an encoding.
* `hexEncode` is injective, and `hexDecode` inverts it.
-/
namespace Lota.Core

abbrev Bytes := List UInt8

/-- A fixed-size byte array. -/
abbrev Blob (n : Nat) := List.Vector UInt8 n

def Blob.zero (n : Nat) : Blob n := List.Vector.replicate n 0

/-- `copy(out[:], bs)` into a zeroed array. -/
def toBlob (n : Nat) (bs : Bytes) : Blob n := ⟨(bs ++ List.replicate n 0).take n, by simp⟩

/-- A finite map. -/
abbrev GoMap (K V : Type) := AList (fun _ : K => V)

theorem lookup_insert_ite {K V : Type} [DecidableEq K] (m : GoMap K V) (k k' : K) (v : V) :
    (m.insert k' v).lookup k = if k = k' then some v else m.lookup k := by
  split
  · rename_i h; subst h; exact AList.lookup_insert m
  · rename_i h; exact AList.lookup_insert_ne h

theorem lookup_erase_ite {K V : Type} [DecidableEq K] (m : GoMap K V) (k k' : K) :
    (m.erase k').lookup k = if k = k' then none else m.lookup k := by
  split
  · rename_i h; subst h; exact AList.lookup_erase k m
  · rename_i h; exact AList.lookup_erase_ne h

theorem lookup_of_erase {K V : Type} [DecidableEq K] {m : GoMap K V} {k k' : K} {v : V}
    (h : (m.erase k').lookup k = some v) : m.lookup k = some v := by
  rw [lookup_erase_ite] at h
  split at h
  · cases h
  · exact h

theorem erase_length_le {K V : Type} [DecidableEq K] (m : GoMap K V) (k : K) :
    (m.erase k).keys.length ≤ m.keys.length := by
  rw [AList.keys_erase]
  exact List.length_erase_le

theorem insert_length_le {K V : Type} [DecidableEq K] (m : GoMap K V) (k : K) (v : V) :
    (m.insert k v).keys.length ≤ m.keys.length + 1 := by
  rw [AList.keys_insert, List.length_cons]
  exact Nat.succ_le_succ List.length_erase_le

/-- A key that is there gets its new value in place. -/
theorem insert_length_mem {K V : Type} [DecidableEq K] {m : GoMap K V} {k : K} (h : k ∈ m) (v : V) :
    (m.insert k v).keys.length = m.keys.length := by
  have hmem : k ∈ m.keys := AList.mem_keys.mp h
  have hpos := List.length_pos_of_mem hmem
  rw [AList.keys_insert, List.length_cons, List.length_erase_of_mem hmem]
  omega

/-! ### Deleting while ranging -/

theorem prune_length_le {K V : Type} [DecidableEq K] (p : V → Prop) [DecidablePred p] (m : GoMap K V) :
    (m.entries.foldl (fun acc e => if p e.2 then acc.erase e.1 else acc) m).keys.length ≤
    m.keys.length := by
  have hloop : ∀ (l : List (Sigma fun _ : K => V)) (acc : GoMap K V),
      (l.foldl (fun acc e => if p e.2 then acc.erase e.1 else acc) acc).keys.length ≤
      acc.keys.length := by
    intro l
    induction l with
    | nil => exact fun acc => Nat.le_refl _
    | cons e l ih =>
      intro acc
      rw [List.foldl_cons]
      refine Nat.le_trans (ih _) ?_
      split
      · exact erase_length_le acc e.1
      · exact Nat.le_refl _
  exact hloop m.entries m

/-- `for k, v := range m { if p(v) { delete(m, k) } }` leaves the values that
are not `p`. -/
theorem lookup_prune {K V : Type} [DecidableEq K] (p : V → Prop) [DecidablePred p]
    (m : GoMap K V) (k : K) :
    (m.entries.foldl (fun acc e => if p e.2 then acc.erase e.1 else acc) m).lookup k =
      (m.lookup k).filter fun v => ¬ p v := by
  -- over the rounds: a key goes when its entry is reached
  have hloop : ∀ (l : List (Sigma fun _ : K => V)) (acc : GoMap K V),
      (l.foldl (fun acc e => if p e.2 then acc.erase e.1 else acc) acc).lookup k =
        if ∃ e ∈ l, e.1 = k ∧ p e.2 then none else acc.lookup k := by
    intro l
    induction l with
    | nil => simp
    | cons e l ih =>
      intro acc
      rw [List.foldl_cons, ih]
      by_cases hl : ∃ x ∈ l, x.1 = k ∧ p x.2
      · have hcons : ∃ x ∈ e :: l, x.1 = k ∧ p x.2 := by
          obtain ⟨x, hx, h⟩ := hl
          exact ⟨x, List.mem_cons_of_mem _ hx, h⟩
        rw [if_pos hl, if_pos hcons]
      · rw [if_neg hl]
        by_cases he : p e.2
        · rw [if_pos he, lookup_erase_ite]
          by_cases hk : k = e.1
          · rw [if_pos hk, if_pos ⟨e, List.mem_cons_self, hk.symm, he⟩]
          · rw [if_neg hk, if_neg]
            rintro ⟨x, hx, hxk, hpx⟩
            rcases List.mem_cons.mp hx with rfl | hx
            · exact hk hxk.symm
            · exact hl ⟨x, hx, hxk, hpx⟩
        · rw [if_neg he, if_neg]
          rintro ⟨x, hx, hxk, hpx⟩
          rcases List.mem_cons.mp hx with rfl | hx
          · exact he hpx
          · exact hl ⟨x, hx, hxk, hpx⟩
  rw [hloop]
  cases hv : m.lookup k with
  | none =>
    rw [if_neg]
    · rfl
    · rintro ⟨e, he, rfl, -⟩
      have hm : m.lookup e.1 = some e.2 := AList.mem_lookup_iff.mpr he
      rw [hv] at hm
      cases hm
  | some v =>
    have hmem : (⟨k, v⟩ : Sigma fun _ : K => V) ∈ m.entries := AList.mem_lookup_iff.mp hv
    by_cases hp : p v
    · rw [if_pos ⟨⟨k, v⟩, hmem, rfl, hp⟩]
      simp [Option.filter, hp]
    · rw [if_neg]
      · simp [Option.filter, hp]
      · rintro ⟨e, he, rfl, hpe⟩
        have hm : m.lookup e.1 = some e.2 := AList.mem_lookup_iff.mpr he
        rw [hv] at hm
        cases hm
        exact hp hpe

/-! ### Counting values -/

section
variable {K V : Type} [DecidableEq K] {p : V → Bool} {m : GoMap K V} {k : K} {v : V}

def countValues (p : V → Bool) (m : GoMap K V) : Nat := m.entries.countP fun e => p e.2

theorem countP_kerase (l : List (Sigma fun _ : K => V)) (hnd : l.NodupKeys) (h : l.dlookup k = some v) :
    l.countP (fun e => p e.2) = (l.kerase k).countP (fun e => p e.2) + if p v then 1 else 0 := by
  induction l with
  | nil => cases h
  | cons e l ih =>
    obtain ⟨-, hl⟩ := List.nodupKeys_cons.mp hnd
    by_cases he : k = e.1
    · obtain ⟨k', v'⟩ := e
      simp only at he
      subst he
      rw [List.dlookup_cons_eq] at h
      cases h
      have hk : List.kerase k (⟨k, v⟩ :: l) = l := List.kerase_cons_eq rfl
      rw [hk, List.countP_cons]
    · rw [List.dlookup_cons_ne _ _ he] at h
      rw [List.kerase_cons_ne he, List.countP_cons, List.countP_cons, ih hl h]
      omega

theorem countValues_erase (h : m.lookup k = some v) :
    countValues p m = countValues p (m.erase k) + if p v then 1 else 0 :=
  countP_kerase m.entries m.nodupKeys h

theorem countValues_insert (h : m.lookup k = none) :
    countValues p (m.insert k v) = countValues p m + if p v then 1 else 0 := by
  unfold countValues
  rw [AList.entries_insert_of_notMem (AList.lookup_eq_none.mp h), List.countP_cons]

end

/-! ## Bits of a 32-bit word -/

/-- `x & f != 0`. -/
def hasFlag (x f : UInt32) : Bool := x &&& f != 0

/-- `x & (1 << i) != 0`. -/
def hasBit (x : UInt32) (i : Nat) : Bool := hasFlag x (1 <<< UInt32.ofNat i)

theorem toNat_one_shiftLeft {i : Nat} (hi : i < 32) :
    ((1 : UInt32) <<< UInt32.ofNat i).toNat = 2 ^ i := by
  rw [UInt32.toNat_shiftLeft, UInt32.toNat_ofNat', Nat.mod_eq_of_lt (by omega : i < 2 ^ 32),
    Nat.mod_eq_of_lt hi, UInt32.toNat_one, Nat.one_shiftLeft]
  exact Nat.mod_eq_of_lt (Nat.pow_lt_pow_right (by decide) hi)

theorem hasBit_eq {i : Nat} (hi : i < 32) (x : UInt32) : hasBit x i = x.toNat.testBit i := by
  have h1 := toNat_one_shiftLeft hi
  have h2 : x &&& (1 <<< UInt32.ofNat i) = 0 ↔ x.toNat.testBit i = false := by
    rw [← UInt32.toNat_inj, UInt32.toNat_and, h1, Nat.and_two_pow]
    cases x.toNat.testBit i <;> simp
  unfold hasBit hasFlag
  cases h : x.toNat.testBit i with
  | true => simpa [h] using h2
  | false => simpa using h2.mpr h

theorem hasBit_or {i : Nat} (hi : i < 32) (x y : UInt32) :
    hasBit (x ||| y) i = true ↔ hasBit x i = true ∨ hasBit y i = true := by
  rw [hasBit_eq hi, hasBit_eq hi, hasBit_eq hi, UInt32.toNat_or, Nat.testBit_or, Bool.or_eq_true]

theorem hasBit_one_shiftLeft {i j : Nat} (hi : i < 32) (hj : j < 32) :
    hasBit ((1 : UInt32) <<< UInt32.ofNat j) i = true ↔ j = i := by
  rw [hasBit_eq hi, toNat_one_shiftLeft hj, Nat.testBit_two_pow]
  simp

/-- A word that contains all of `m` contains each bit of `m`. -/
theorem hasBit_of_and_eq {x m : UInt32} (h : x &&& m = m) {i : Nat} (hi : i < 32)
    (hm : m.toNat.testBit i = true) : hasBit x i = true := by
  rw [hasBit_eq hi]
  have := congrArg (fun w => w.toNat.testBit i) h
  simp only [UInt32.toNat_and, Nat.testBit_and, hm, Bool.and_true] at this
  exact this

/-! ## Integers on the wire -/

/-- `n` as `k` little-endian bytes. -/
def toLE : Nat → Nat → Bytes
  | 0, _ => []
  | k + 1, n => UInt8.ofNat n :: toLE k (n / 256)

def ofLE : Bytes → Nat
  | [] => 0
  | b :: bs => b.toNat + 256 * ofLE bs

/-- `n` as `k` big-endian bytes. -/
def toBE (k n : Nat) : Bytes := (toLE k n).reverse

def ofBE (bs : Bytes) : Nat := ofLE bs.reverse

@[simp] theorem toLE_length (k n : Nat) : (toLE k n).length = k := by
  induction k generalizing n with
  | zero => rfl
  | succ k ih => simp [toLE, ih]

@[simp] theorem toBE_length (k n : Nat) : (toBE k n).length = k := by simp [toBE]

theorem ofLE_toLE (k n : Nat) (h : n < 256 ^ k) : ofLE (toLE k n) = n := by
  induction k generalizing n with
  | zero => simp [toLE, ofLE]; omega
  | succ k ih =>
    have hk : n / 256 < 256 ^ k := by
      rw [Nat.div_lt_iff_lt_mul (by decide)]; rw [Nat.pow_succ] at h; exact h
    simp only [toLE, ofLE, ih _ hk, UInt8.toNat_ofNat']
    omega

theorem ofBE_toBE (k n : Nat) (h : n < 256 ^ k) : ofBE (toBE k n) = n := by
  unfold ofBE toBE; rw [List.reverse_reverse]; exact ofLE_toLE k n h

theorem ofLE_lt (bs : Bytes) : ofLE bs < 256 ^ bs.length := by
  induction bs with
  | nil => simp [ofLE]
  | cons b bs ih =>
    have := b.toNat_lt
    simp only [ofLE, List.length_cons, Nat.pow_succ]
    omega

theorem toLE_ofLE (bs : Bytes) : toLE bs.length (ofLE bs) = bs := by
  induction bs with
  | nil => rfl
  | cons b bs ih =>
    have hb := b.toNat_lt
    have hdiv : (b.toNat + 256 * ofLE bs) / 256 = ofLE bs := by omega
    simp only [List.length_cons, toLE, ofLE, hdiv, ih, List.cons.injEq, and_true]
    apply UInt8.toNat_inj.mp
    rw [UInt8.toNat_ofNat']; omega

/-! ## Readers -/

/-- A bind in `Except` succeeds exactly when both parts do. -/
theorem except_bind_ok {ε α β : Type} {x : Except ε α} {f : α → Except ε β} {b : β} :
    (x >>= f) = .ok b ↔ ∃ a, x = .ok a ∧ f a = .ok b := by
  cases x with
  | error e => simp [bind, Except.bind]
  | ok a => simp [bind, Except.bind]

theorem except_then_ok {ε β : Type} {x : Except ε Unit} {y : Except ε β} {b : β} :
    (x >>= fun _ => y) = .ok b ↔ x = .ok () ∧ y = .ok b := by
  rw [except_bind_ok]
  exact ⟨fun ⟨_, h⟩ => h, fun h => ⟨(), h⟩⟩

theorem except_map_ok {ε α β : Type} {f : α → β} {x : Except ε α} {b : β} :
    x.map f = .ok b ↔ ∃ a, x = .ok a ∧ f a = b := by
  cases x with
  | error e => simp [Except.map]
  | ok a => simp [Except.map]

/-- A guard in `Except` lets through what fails its test. -/
theorem except_guard_ok {ε α : Type} {p : Prop} [Decidable p] {e : ε} {x : Except ε α} {a : α} :
    (if p then .error e else x) = .ok a ↔ ¬ p ∧ x = .ok a := by
  by_cases h : p
  · simp [h]
  · simp [h]

/-- A cursor over the bytes that are left: a value and the rest, or an
error text. -/
structure Reader (α : Type) where
  run : Bytes → Except String (α × Bytes)

namespace Reader

variable {α β : Type}

instance : Monad Reader where
  pure a := ⟨fun r => .ok (a, r)⟩
  bind x f := ⟨fun r =>
    match x.run r with
    | .error e => .error e
    | .ok (a, r') => (f a).run r'⟩

def fail (e : String) : Reader α := ⟨fun _ => .error e⟩

/-- `fmt.Errorf("msg: %w", err)`. -/
def wrap (msg : String) (x : Reader α) : Reader α := ⟨fun r =>
  match x.run r with
  | .error e => .error (msg ++ ": " ++ e)
  | .ok a => .ok a⟩

@[simp] theorem pure_run (a : α) (r : Bytes) : (pure a : Reader α).run r = .ok (a, r) := rfl

@[simp] theorem fail_run (e : String) (r : Bytes) : (fail e : Reader α).run r = .error e := rfl

theorem bind_run {x : Reader α} {r r' : Bytes} {a : α} (h : x.run r = .ok (a, r'))
    (f : α → Reader β) : (x >>= f).run r = (f a).run r' := by
  simp only [bind, h]

/-- A bind of readers succeeds exactly when both do, one after the other. -/
theorem bind_ok {x : Reader α} {f : α → Reader β} {r : Bytes} {p : β × Bytes} :
    (x >>= f).run r = .ok p ↔ ∃ a r', x.run r = .ok (a, r') ∧ (f a).run r' = .ok p := by
  simp only [bind]
  rcases x.run r with e | ⟨a, r'⟩
  · simp
  · simp

theorem wrap_ok {msg : String} {x : Reader α} {r : Bytes} {p : α × Bytes} :
    (wrap msg x).run r = .ok p ↔ x.run r = .ok p := by
  simp only [wrap]
  cases x.run r <;> simp

theorem wrap_run {msg : String} {x : Reader α} {r : Bytes} {p : α × Bytes}
    (h : x.run r = .ok p) : (wrap msg x).run r = .ok p := wrap_ok.mpr h

end Reader

/-- `io.ReadFull` of `n` bytes. -/
def readFull (n : Nat) : Reader Bytes := ⟨fun r =>
  if n ≤ r.length then .ok (r.take n, r.drop n)
  else if r = [] then .error "EOF" else .error "unexpected EOF"⟩

theorem readFull_append {n : Nat} {xs : Bytes} (h : xs.length = n) (rest : Bytes) :
    (readFull n).run (xs ++ rest) = .ok (xs, rest) := by
  subst h
  simp [readFull]

/-- The next `n` bytes; `err` if they are not there. -/
def need (err : String) (n : Nat) : Reader Bytes := ⟨fun r =>
  if n ≤ r.length then .ok (r.take n, r.drop n) else .error err⟩

theorem need_ok {err : String} {n : Nat} {r r' xs : Bytes} (h : (need err n).run r = .ok (xs, r')) :
    xs.length = n ∧ r = xs ++ r' := by
  simp only [need] at h
  split at h
  · rename_i hn
    cases h
    exact ⟨List.length_take_of_le hn, (List.take_append_drop n r).symm⟩
  · cases h

theorem need_append {err : String} {n : Nat} {xs : Bytes} (h : xs.length = n) (rest : Bytes) :
    (need err n).run (xs ++ rest) = .ok (xs, rest) := by
  subst h
  simp [need]

/-- A fixed-size field. -/
def readBlob (n : Nat) : Reader (Blob n) := ⟨fun r =>
  if h : n ≤ r.length then .ok (⟨r.take n, by simp [h]⟩, r.drop n)
  else if r = [] then .error "EOF" else .error "unexpected EOF"⟩

theorem readBlob_append {n : Nat} (b : Blob n) (rest : Bytes) :
    (readBlob n).run (b.toList ++ rest) = .ok (b, rest) := by
  obtain ⟨l, rfl⟩ := b
  simp [readBlob, List.Vector.toList]

/-- `m` fixed-size fields in a row. -/
def readBlobs (n : Nat) : (m : Nat) → Reader (List.Vector (Blob n) m)
  | 0 => pure List.Vector.nil
  | m + 1 => do
    let b ← readBlob n
    let bs ← readBlobs n m
    pure (List.Vector.cons b bs)

theorem readBlobs_append {n m : Nat} (bs : List.Vector (Blob n) m) (rest : Bytes) :
    (readBlobs n m).run (bs.toList.flatMap List.Vector.toList ++ rest) = .ok (bs, rest) := by
  induction m with
  | zero => rw [List.Vector.eq_nil bs]; rfl
  | succ m ih =>
    obtain ⟨b, bs, rfl⟩ := bs.exists_eq_cons
    simp only [List.Vector.toList_cons, List.flatMap_cons, List.append_assoc, readBlobs]
    rw [Reader.bind_run (readBlob_append b _), Reader.bind_run (ih bs)]
    rfl

/-- A `k`-byte little-endian integer. -/
def readLE (k : Nat) : Reader Nat := do
  let b ← readFull k
  pure (ofLE b)

/-- A `k`-byte big-endian integer. -/
def readBE (k : Nat) : Reader Nat := do
  let b ← readFull k
  pure (ofBE b)

theorem readLE_append {k n : Nat} (h : n < 256 ^ k) (rest : Bytes) :
    (readLE k).run (toLE k n ++ rest) = .ok (n, rest) := by
  unfold readLE
  rw [Reader.bind_run (readFull_append (toLE_length k n) rest), ofLE_toLE k n h, Reader.pure_run]

theorem readBE_append {k n : Nat} (h : n < 256 ^ k) (rest : Bytes) :
    (readBE k).run (toBE k n ++ rest) = .ok (n, rest) := by
  unfold readBE
  rw [Reader.bind_run (readFull_append (toBE_length k n) rest), ofBE_toBE k n h, Reader.pure_run]

def readU8 : Reader UInt8 := do let n ← readLE 1; pure (UInt8.ofNat n)
def readU16LE : Reader UInt16 := do let n ← readLE 2; pure (UInt16.ofNat n)
def readU32LE : Reader UInt32 := do let n ← readLE 4; pure (UInt32.ofNat n)
def readU64LE : Reader UInt64 := do let n ← readLE 8; pure (UInt64.ofNat n)
def readU16BE : Reader UInt16 := do let n ← readBE 2; pure (UInt16.ofNat n)
def readU32BE : Reader UInt32 := do let n ← readBE 4; pure (UInt32.ofNat n)
def readU64BE : Reader UInt64 := do let n ← readBE 8; pure (UInt64.ofNat n)

theorem readU8_append (x : UInt8) (rest : Bytes) :
    readU8.run (toLE 1 x.toNat ++ rest) = .ok (x, rest) := by
  unfold readU8
  rw [Reader.bind_run (readLE_append x.toNat_lt rest)]; simp

theorem readU16LE_append (x : UInt16) (rest : Bytes) :
    readU16LE.run (toLE 2 x.toNat ++ rest) = .ok (x, rest) := by
  unfold readU16LE
  rw [Reader.bind_run (readLE_append x.toNat_lt rest)]; simp

theorem readU32LE_append (x : UInt32) (rest : Bytes) :
    readU32LE.run (toLE 4 x.toNat ++ rest) = .ok (x, rest) := by
  unfold readU32LE
  rw [Reader.bind_run (readLE_append x.toNat_lt rest)]; simp

theorem readU64LE_append (x : UInt64) (rest : Bytes) :
    readU64LE.run (toLE 8 x.toNat ++ rest) = .ok (x, rest) := by
  unfold readU64LE
  rw [Reader.bind_run (readLE_append x.toNat_lt rest)]; simp

theorem readU16BE_append (x : UInt16) (rest : Bytes) :
    readU16BE.run (toBE 2 x.toNat ++ rest) = .ok (x, rest) := by
  unfold readU16BE
  rw [Reader.bind_run (readBE_append x.toNat_lt rest)]; simp

theorem readU32BE_append (x : UInt32) (rest : Bytes) :
    readU32BE.run (toBE 4 x.toNat ++ rest) = .ok (x, rest) := by
  unfold readU32BE
  rw [Reader.bind_run (readBE_append x.toNat_lt rest)]; simp

theorem readU64BE_append (x : UInt64) (rest : Bytes) :
    readU64BE.run (toBE 8 x.toNat ++ rest) = .ok (x, rest) := by
  unfold readU64BE
  rw [Reader.bind_run (readBE_append x.toNat_lt rest)]; simp

/-! ## Text -/

/-- The bytes of an ASCII text. -/
def ascii (s : String) : Bytes := s.toList.map fun c => UInt8.ofNat c.toNat

def hexDigit (n : Nat) : Char := Char.ofNat (if n < 10 then 48 + n else 87 + n)

/-- `%0wx`: lower-case hex, at least `w` digits. -/
def fmtx (w n : Nat) : String :=
  let ds := Nat.toDigits 16 n
  String.ofList (List.replicate (w - ds.length) '0' ++ ds)

/-- `%0wX`: the same in upper case. -/
def fmtX (w n : Nat) : String := (fmtx w n).map Char.toUpper

/-- `hex.EncodeToString`. -/
def hexEncode (bs : Bytes) : String :=
  String.ofList (bs.flatMap fun b => [hexDigit (b.toNat / 16), hexDigit (b.toNat % 16)])

/-- The value of a hex digit, either case. -/
def hexVal (c : Char) : Option Nat :=
  if 48 ≤ c.toNat ∧ c.toNat ≤ 57 then some (c.toNat - 48)
  else if 97 ≤ c.toNat ∧ c.toNat ≤ 102 then some (c.toNat - 87)
  else if 65 ≤ c.toNat ∧ c.toNat ≤ 70 then some (c.toNat - 55)
  else none

def hexInvalid (c : Char) : String := "encoding/hex: invalid byte: U+" ++ fmtX 4 c.toNat

/-- One byte from a pair of digits. -/
def hexByte (c d : Char) : Except String UInt8 :=
  match hexVal c with
  | none => .error (hexInvalid c)
  | some hi =>
    match hexVal d with
    | none => .error (hexInvalid d)
    | some lo => .ok (UInt8.ofNat (16 * hi + lo))

/-- `hex.Decode` on the characters: pairs of digits, then the odd rest. -/
def hexDecodeChars : List Char → Except String Bytes
  | [] => .ok []
  | [c] => .error ((hexVal c).elim (hexInvalid c) fun _ => "encoding/hex: odd length hex string")
  | c :: d :: rest =>
    match hexByte c d with
    | .error e => .error e
    | .ok b => (hexDecodeChars rest).map (b :: ·)

/-- `hex.DecodeString`. -/
def hexDecode (s : String) : Except String Bytes := hexDecodeChars s.toList

theorem hexByte_hexDigit (b : UInt8) :
    hexByte (hexDigit (b.toNat / 16)) (hexDigit (b.toNat % 16)) = .ok b := by
  have hv : ∀ n < 16, hexVal (hexDigit n) = some n := by decide
  have hb := b.toNat_lt
  simp only [hexByte, hv _ (by omega : b.toNat / 16 < 16), hv _ (by omega : b.toNat % 16 < 16),
    Nat.div_add_mod, UInt8.ofNat_toNat]

theorem hexDecode_hexEncode (bs : Bytes) : hexDecode (hexEncode bs) = .ok bs := by
  unfold hexDecode hexEncode
  rw [String.toList_ofList]
  induction bs with
  | nil => rfl
  | cons b bs ih =>
    simp only [List.flatMap_cons, List.cons_append, List.nil_append, hexDecodeChars,
      hexByte_hexDigit, ih]
    rfl

theorem hexEncode_injective : Function.Injective hexEncode := by
  intro a b h
  have hd := congrArg hexDecode h
  rw [hexDecode_hexEncode, hexDecode_hexEncode] at hd
  exact Except.ok.inj hd

end Lota.Core

import Lota.Core.Bytes

/-!
# PEM text

Base64 with padding in lines of 64 characters, between a BEGIN and an END
line. The decoder reads what the encoder writes: one block, from the start of
the text.

* `base64Decode_base64Encode`: three bytes are four characters.
* `pemDecode_pemEncode`: the lines come apart at the first dash.
-/
namespace Lota.Core

/-! ## Base64 -/

def base64Char (n : Nat) : UInt8 :=
  UInt8.ofNat (if n < 26 then 65 + n else if n < 52 then 71 + n else if n < 62 then n - 4
    else if n = 62 then 43 else 47)

def base64Val (c : UInt8) : Option Nat :=
  let n := c.toNat
  if 65 ≤ n ∧ n ≤ 90 then some (n - 65)
  else if 97 ≤ n ∧ n ≤ 122 then some (n - 71)
  else if 48 ≤ n ∧ n ≤ 57 then some (n + 4)
  else if n = 43 then some 62
  else if n = 47 then some 63
  else none

def base64Encode : Bytes → Bytes
  | a :: b :: c :: rest =>
    base64Char (a.toNat / 4) :: base64Char (a.toNat % 4 * 16 + b.toNat / 16) ::
      base64Char (b.toNat % 16 * 4 + c.toNat / 64) :: base64Char (c.toNat % 64) :: base64Encode rest
  | [a, b] =>
    [base64Char (a.toNat / 4), base64Char (a.toNat % 4 * 16 + b.toNat / 16),
      base64Char (b.toNat % 16 * 4), 61]
  | [a] => [base64Char (a.toNat / 4), base64Char (a.toNat % 4 * 16), 61, 61]
  | [] => []

/-- The bytes of one group of four characters. -/
def base64Group (p q r s : UInt8) : Option Bytes := do
  let w ← base64Val p
  let x ← base64Val q
  let a := UInt8.ofNat (w * 4 + x / 16)
  if r = 61 then (if s = 61 then some [a] else none)
  else
    let y ← base64Val r
    let b := UInt8.ofNat (x % 16 * 16 + y / 4)
    if s = 61 then some [a, b]
    else
      let z ← base64Val s
      some [a, b, UInt8.ofNat (y % 4 * 64 + z)]

def base64Decode : Bytes → Option Bytes
  | [] => some []
  | p :: q :: r :: s :: rest => do
    let group ← base64Group p q r s
    let more ← base64Decode rest
    some (group ++ more)
  | _ => none

/-- The characters are letters, digits, `+` and `/`, and are read back. -/
theorem base64Char_spec {n : Nat} (h : n < 64) :
    base64Val (base64Char n) = some n ∧ base64Char n ≠ 61 ∧ base64Char n ≠ 10 ∧ base64Char n ≠ 45 := by
  have hall : ∀ m : Fin 64, base64Val (base64Char m) = some m.val ∧ base64Char m ≠ 61 ∧
      base64Char m ≠ 10 ∧ base64Char m ≠ 45 := by decide
  exact hall ⟨n, h⟩

theorem ofNat_byte {b : UInt8} {n : Nat} (h : n = b.toNat) : UInt8.ofNat n = b := by
  rw [h, UInt8.ofNat_toNat]

theorem base64Decode_base64Encode (bs : Bytes) : base64Decode (base64Encode bs) = some bs := by
  induction bs using base64Encode.induct with
  | case1 a b c rest ih =>
    have ha := a.toNat_lt
    have hb := b.toNat_lt
    have hc := c.toNat_lt
    obtain ⟨hw, -, -, -⟩ := base64Char_spec (by omega : a.toNat / 4 < 64)
    obtain ⟨hx, -, -, -⟩ := base64Char_spec (by omega : a.toNat % 4 * 16 + b.toNat / 16 < 64)
    obtain ⟨hy, hr, -, -⟩ := base64Char_spec (by omega : b.toNat % 16 * 4 + c.toNat / 64 < 64)
    obtain ⟨hz, hs, -, -⟩ := base64Char_spec (by omega : c.toNat % 64 < 64)
    have hga : UInt8.ofNat (a.toNat / 4 * 4 + (a.toNat % 4 * 16 + b.toNat / 16) / 16) = a :=
      ofNat_byte (by omega)
    have hgb :
        UInt8.ofNat ((a.toNat % 4 * 16 + b.toNat / 16) % 16 * 16 +
          (b.toNat % 16 * 4 + c.toNat / 64) / 4) = b :=
      ofNat_byte (by omega)
    have hgc : UInt8.ofNat ((b.toNat % 16 * 4 + c.toNat / 64) % 4 * 64 + c.toNat % 64) = c :=
      ofNat_byte (by omega)
    simp only [base64Encode, base64Decode, base64Group, hw, hx, hy, hz, if_neg hr, if_neg hs,
      Option.bind_eq_bind, Option.bind_some, hga, hgb, hgc, ih, List.cons_append, List.nil_append]
  | case2 a b =>
    have ha := a.toNat_lt
    have hb := b.toNat_lt
    obtain ⟨hw, -, -, -⟩ := base64Char_spec (by omega : a.toNat / 4 < 64)
    obtain ⟨hx, -, -, -⟩ := base64Char_spec (by omega : a.toNat % 4 * 16 + b.toNat / 16 < 64)
    obtain ⟨hy, hr, -, -⟩ := base64Char_spec (by omega : b.toNat % 16 * 4 < 64)
    have hga : UInt8.ofNat (a.toNat / 4 * 4 + (a.toNat % 4 * 16 + b.toNat / 16) / 16) = a :=
      ofNat_byte (by omega)
    have hgb : UInt8.ofNat ((a.toNat % 4 * 16 + b.toNat / 16) % 16 * 16 + b.toNat % 16 * 4 / 4) = b :=
      ofNat_byte (by omega)
    simp only [base64Encode, base64Decode, base64Group, hw, hx, hy, if_neg hr, if_true,
      Option.bind_eq_bind, Option.bind_some, hga, hgb, List.append_nil]
  | case3 a =>
    have ha := a.toNat_lt
    obtain ⟨hw, -, -, -⟩ := base64Char_spec (by omega : a.toNat / 4 < 64)
    obtain ⟨hx, -, -, -⟩ := base64Char_spec (by omega : a.toNat % 4 * 16 < 64)
    have hga : UInt8.ofNat (a.toNat / 4 * 4 + a.toNat % 4 * 16 / 16) = a := ofNat_byte (by omega)
    simp only [base64Encode, base64Decode, base64Group, hw, hx, if_true, Option.bind_eq_bind,
      Option.bind_some, hga, List.append_nil]
  | case4 => rfl

/-- No line ends and no dashes. -/
theorem mem_base64Encode {bs : Bytes} {c : UInt8} (h : c ∈ base64Encode bs) : c ≠ 10 ∧ c ≠ 45 := by
  have hchar : ∀ n, n < 64 → base64Char n ≠ 10 ∧ base64Char n ≠ 45 :=
    fun n hn => (base64Char_spec hn).2.2
  induction bs using base64Encode.induct with
  | case1 a b d rest ih =>
    have ha := a.toNat_lt
    have hb := b.toNat_lt
    have hd := d.toNat_lt
    simp only [base64Encode, List.mem_cons] at h
    rcases h with rfl | rfl | rfl | rfl | h
    · exact hchar _ (by omega)
    · exact hchar _ (by omega)
    · exact hchar _ (by omega)
    · exact hchar _ (by omega)
    · exact ih h
  | case2 a b =>
    have ha := a.toNat_lt
    have hb := b.toNat_lt
    simp only [base64Encode, List.mem_cons, List.not_mem_nil, or_false] at h
    rcases h with rfl | rfl | rfl | rfl
    · exact hchar _ (by omega)
    · exact hchar _ (by omega)
    · exact hchar _ (by omega)
    · decide
  | case3 a =>
    have ha := a.toNat_lt
    simp only [base64Encode, List.mem_cons, List.not_mem_nil, or_false] at h
    rcases h with rfl | rfl | rfl | rfl
    · exact hchar _ (by omega)
    · exact hchar _ (by omega)
    · decide
    · decide
  | case4 => cases h

/-! ## Lines -/

/-- Lines of 64 characters. -/
def breakLines (text : Bytes) : Bytes :=
  if _h : text = [] then [] else text.take 64 ++ 10 :: breakLines (text.drop 64)
termination_by text.length
decreasing_by
  have := List.length_pos_of_ne_nil _h
  rw [List.length_drop]
  omega

theorem filter_breakLines {text : Bytes} (h : ∀ c ∈ text, c ≠ 10) :
    (breakLines text).filter (· ≠ 10) = text := by
  induction text using breakLines.induct with
  | case1 => rw [breakLines, dif_pos rfl, List.filter_nil]
  | case2 text hne ih =>
    rw [breakLines, dif_neg hne, List.filter_append, List.filter_cons_of_neg (by simp),
      ih fun c hc => h c (List.mem_of_mem_drop hc)]
    rw [List.filter_eq_self.mpr fun c hc => by simpa using h c (List.mem_of_mem_take hc),
      List.take_append_drop]

theorem mem_breakLines {text : Bytes} {c : UInt8} (h : c ∈ breakLines text) : c ∈ text ∨ c = 10 := by
  induction text using breakLines.induct with
  | case1 =>
    rw [breakLines, dif_pos rfl] at h
    cases h
  | case2 text hne ih =>
    rw [breakLines, dif_neg hne, List.mem_append, List.mem_cons] at h
    rcases h with h | h | h
    · exact .inl (List.mem_of_mem_take h)
    · exact .inr h
    · rcases ih h with h | h
      · exact .inl (List.mem_of_mem_drop h)
      · exact .inr h

/-! ## Blocks -/

/-- `header` and `footer` are the BEGIN and the END line. -/
def pemEncode (header footer der : Bytes) : Bytes := header ++ (breakLines (base64Encode der) ++ footer)

def pemDecode (header footer text : Bytes) : Option Bytes :=
  if header <+: text then
    let rest := text.drop header.length
    if footer <+: rest.dropWhile (· ≠ 45)
      then base64Decode ((rest.takeWhile (· ≠ 45)).filter (· ≠ 10)) else none
  else none

theorem pemDecode_pemEncode {footer : Bytes} (h : footer.head? = some 45) (header der : Bytes) :
    pemDecode header footer (pemEncode header footer der) = some der := by
  obtain ⟨rest, rfl⟩ : ∃ rest, footer = 45 :: rest := by
    cases footer with
    | nil => cases h
    | cons c rest =>
      cases h
      exact ⟨rest, rfl⟩
  have hbody : ∀ c ∈ breakLines (base64Encode der), (decide (c ≠ 45)) = true := by
    intro c hc
    rcases mem_breakLines hc with hc | hc
    · simpa using (mem_base64Encode hc).2
    · rw [hc]
      decide
  unfold pemDecode pemEncode
  simp only [List.prefix_append, if_true, List.drop_left]
  rw [List.dropWhile_append_of_pos hbody, List.takeWhile_append_of_pos hbody,
    List.dropWhile_cons_of_neg (by simp),
    List.takeWhile_cons_of_neg (by simp), if_pos (List.prefix_refl _), List.append_nil,
    filter_breakLines fun c hc => (mem_base64Encode hc).1]
  exact base64Decode_base64Encode der

end Lota.Core

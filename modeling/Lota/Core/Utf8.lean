import Lota.Core.Bytes

/-!
# UTF-8 text

Bytes as the characters they spell. A byte that starts no character counts as
U+FFFD of one byte, so every text has characters.

* `Rune`: a character below U+0080 is its own byte, and the others have no byte
  below 0x80.
* `runesText_runes`: the bytes of the characters are the text.
* `all_runes`: a predicate of ASCII characters holds of the characters when it
  holds of the bytes.
* `isUtf8_cut`: an ASCII byte is a character of its own, so a text is UTF-8 when
  the parts on both sides of it are.
* `isUtf8_flatMap`, `flatMap_utf8`: replacing ASCII bytes by ASCII texts.
-/
namespace Lota.Core

def runeError : Nat := 0xFFFD

/-- How many bytes a first byte announces, and the range of the second. -/
def acceptRange (a : Nat) : Option (Nat × Nat × Nat) :=
  if 0xC2 ≤ a ∧ a ≤ 0xDF then some (2, 0x80, 0xBF)
  else if a = 0xE0 then some (3, 0xA0, 0xBF)
  else if a = 0xED then some (3, 0x80, 0x9F)
  else if 0xE1 ≤ a ∧ a ≤ 0xEF then some (3, 0x80, 0xBF)
  else if a = 0xF0 then some (4, 0x90, 0xBF)
  else if a = 0xF4 then some (4, 0x80, 0x8F)
  else if 0xF1 ≤ a ∧ a ≤ 0xF3 then some (4, 0x80, 0xBF)
  else none

def isTail (b : Nat) : Bool := 0x80 ≤ b && b ≤ 0xBF

/-- The character at the front: its code point and its size. -/
def decodeRune : Bytes → Option (Nat × Nat)
  | [] => none
  | a :: rest =>
    if a.toNat < 0x80 then some (a.toNat, 1)
    else match acceptRange a.toNat, rest with
    | some (2, lo, hi), b :: _ =>
      if lo ≤ b.toNat && b.toNat ≤ hi then some (a.toNat % 32 * 64 + b.toNat % 64, 2) else none
    | some (3, lo, hi), b :: c :: _ =>
      if lo ≤ b.toNat && b.toNat ≤ hi && isTail c.toNat then
        some (a.toNat % 16 * 4096 + b.toNat % 64 * 64 + c.toNat % 64, 3)
      else none
    | some (4, lo, hi), b :: c :: d :: _ =>
      if lo ≤ b.toNat && b.toNat ≤ hi && isTail c.toNat && isTail d.toNat then
        some (a.toNat % 8 * 262144 + b.toNat % 64 * 4096 + c.toNat % 64 * 64 + d.toNat % 64, 4)
      else none
    | _, _ => none

/-- The bytes of a character; a number that is none is written as U+FFFD. -/
def encodeRune (n : Nat) : Bytes :=
  if n < 0x80 then [UInt8.ofNat n]
  else if n < 0x800 then [UInt8.ofNat (0xC0 + n / 64), UInt8.ofNat (0x80 + n % 64)]
  else if 0x10FFFF < n ∨ (0xD800 ≤ n ∧ n ≤ 0xDFFF) then [0xEF, 0xBF, 0xBD]
  else if n < 0x10000 then
    [UInt8.ofNat (0xE0 + n / 4096), UInt8.ofNat (0x80 + n / 64 % 64), UInt8.ofNat (0x80 + n % 64)]
  else
    [UInt8.ofNat (0xF0 + n / 262144), UInt8.ofNat (0x80 + n / 4096 % 64),
      UInt8.ofNat (0x80 + n / 64 % 64), UInt8.ofNat (0x80 + n % 64)]

/-! ## One character -/

/-- What the first byte says: the shortest forms only. -/
theorem acceptRange_spec {a n lo hi : Nat} (h : acceptRange a = some (n, lo, hi)) :
    0x80 ≤ lo ∧ hi ≤ 0xBF ∧ (n = 2 → 0xC2 ≤ a ∧ a ≤ 0xDF) ∧
    (n = 3 → 0xE0 ≤ a ∧ a ≤ 0xEF ∧ (a = 0xE0 → 0xA0 ≤ lo)) ∧
      (n = 4 → 0xF0 ≤ a ∧ a ≤ 0xF4 ∧ (a = 0xF0 → 0x90 ≤ lo)) := by
  unfold acceptRange at h
  repeat' split at h
  all_goals first | (cases h; omega) | cases h

/-- An ASCII character is its own byte; the others are written beyond ASCII. -/
def ProperRune (val : Nat) (bytes : Bytes) : Prop :=
  (val < 0x80 ∧ bytes = [UInt8.ofNat val]) ∨ (0x80 ≤ val ∧ bytes ≠ [] ∧ ∀ b ∈ bytes, 0x80 ≤ b.toNat)

theorem decodeRune_spec {bs : Bytes} {val size : Nat} (h : decodeRune bs = some (val, size)) :
    0 < size ∧ ProperRune val (bs.take size) := by
  unfold decodeRune at h
  split at h
  · cases h
  next a rest =>
  split at h
  next hascii =>
    cases h
    exact ⟨by omega, .inl ⟨hascii, by simp⟩⟩
  next hwide =>
  split at h
  next lo hi b _ hacc =>
    split at h
    next hrange =>
      cases h
      obtain ⟨hlo, hhi, htwo, -, -⟩ := acceptRange_spec hacc
      simp only [Bool.and_eq_true, decide_eq_true_eq] at hrange
      have ha := htwo rfl
      refine ⟨by omega, .inr ⟨by omega, by simp, ?_⟩⟩
      simp only [List.take_succ_cons, List.take_zero, List.mem_cons, List.not_mem_nil, or_false]
      rintro x (rfl | rfl) <;> omega
    · cases h
  next lo hi b c _ hacc =>
    split at h
    next hrange =>
      cases h
      obtain ⟨hlo, hhi, -, hthree, -⟩ := acceptRange_spec hacc
      simp only [Bool.and_eq_true, decide_eq_true_eq, isTail] at hrange
      have ha := hthree rfl
      refine ⟨by omega, .inr ⟨by omega, by simp, ?_⟩⟩
      simp only [List.take_succ_cons, List.take_zero, List.mem_cons, List.not_mem_nil, or_false]
      rintro x (rfl | rfl | rfl) <;> omega
    · cases h
  next lo hi b c d _ hacc =>
    split at h
    next hrange =>
      cases h
      obtain ⟨hlo, hhi, -, -, hfour⟩ := acceptRange_spec hacc
      simp only [Bool.and_eq_true, decide_eq_true_eq, isTail] at hrange
      have ha := hfour rfl
      refine ⟨by omega, .inr ⟨by omega, by simp, ?_⟩⟩
      simp only [List.take_succ_cons, List.take_zero, List.mem_cons, List.not_mem_nil, or_false]
      rintro x (rfl | rfl | rfl | rfl) <;> omega
    · cases h
  · cases h

/-- An ASCII byte is a character. -/
theorem decodeRune_ascii {b : UInt8} (h : b.toNat < 0x80) (bs : Bytes) :
    decodeRune (b :: bs) = some (b.toNat, 1) := by
  unfold decodeRune
  exact if_pos h

/-- The encoding of a character beyond ASCII starts beyond ASCII. -/
theorem encodeRune_wide {n : Nat} (h : 0x80 ≤ n) : ∃ b ∈ encodeRune n, 0x80 ≤ b.toNat := by
  unfold encodeRune
  rw [if_neg (by omega)]
  split
  · refine ⟨_, List.mem_cons_self, ?_⟩
    rw [UInt8.toNat_ofNat']
    omega
  split
  · exact ⟨_, List.mem_cons_self, by decide⟩
  split
  · refine ⟨_, List.mem_cons_self, ?_⟩
    rw [UInt8.toNat_ofNat']
    omega
  · refine ⟨_, List.mem_cons_self, ?_⟩
    rw [UInt8.toNat_ofNat']
    omega

/-! ## Texts -/

/-- A character of a text: its code point and its bytes. -/
structure Rune where
  val : Nat
  bytes : Bytes
  proper : ProperRune val bytes
  deriving DecidableEq

/-- A byte that starts no character. -/
def Rune.error (b : UInt8) (h : 0x80 ≤ b.toNat) : Rune where
  val := runeError
  bytes := [b]
  proper := .inr ⟨by simp [runeError], List.cons_ne_nil _ _, by simpa using h⟩

theorem decodeRune_none {b : UInt8} {bs : Bytes} (h : decodeRune (b :: bs) = none) :
    0x80 ≤ b.toNat := by
  by_contra hlt
  rw [decodeRune_ascii (by omega)] at h
  cases h

/-- The characters after the next `skip` bytes. -/
def runesFrom : Nat → Bytes → List Rune
  | _, [] => []
  | skip + 1, _ :: bs => runesFrom skip bs
  | 0, b :: bs =>
    match h : decodeRune (b :: bs) with
    | some (val, size) => ⟨val, (b :: bs).take size, (decodeRune_spec h).2⟩ :: runesFrom (size - 1) bs
    | none => Rune.error b (decodeRune_none h) :: runesFrom 0 bs

def runes (bs : Bytes) : List Rune := runesFrom 0 bs

/-- The text of some characters. -/
def runesText (rs : List Rune) : Bytes := rs.flatMap Rune.bytes

theorem runesText_runesFrom (skip : Nat) (bs : Bytes) :
    runesText (runesFrom skip bs) = bs.drop skip := by
  induction bs generalizing skip with
  | nil => simp [runesFrom, runesText]
  | cons b bs ih =>
    cases skip with
    | succ skip => exact ih skip
    | zero =>
      unfold runesFrom
      split
      next val size hd =>
        obtain ⟨k, rfl⟩ : ∃ k, size = k + 1 := ⟨size - 1, by have := (decodeRune_spec hd).1; omega⟩
        unfold runesText at ih ⊢
        rw [List.flatMap_cons, ih]
        simp
      next hd =>
        unfold runesText at ih ⊢
        rw [List.flatMap_cons, ih]
        rfl

theorem runesText_runes (bs : Bytes) : runesText (runes bs) = bs := runesText_runesFrom 0 bs

/-- ASCII characters are their own bytes. -/
theorem runesText_ascii {rs : List Rune} (h : ∀ r ∈ rs, r.val < 0x80) :
    runesText rs = rs.map fun r => UInt8.ofNat r.val := by
  induction rs with
  | nil => rfl
  | cons r rs ih =>
    have hbytes : r.bytes = [UInt8.ofNat r.val] := by
      rcases r.proper with ⟨-, hb⟩ | ⟨hwide, -⟩
      · exact hb
      · exact absurd (h r List.mem_cons_self) (by omega)
    have htail := ih fun x hx => h x (List.mem_cons_of_mem r hx)
    unfold runesText at htail ⊢
    rw [List.flatMap_cons, List.map_cons, hbytes, htail, List.singleton_append]

/-- Bytes that are all ASCII come from characters that are. -/
theorem val_lt_of_runesText {rs : List Rune} (h : ∀ b ∈ runesText rs, b.toNat < 0x80) {r : Rune}
    (hr : r ∈ rs) : r.val < 0x80 := by
  rcases r.proper with ⟨hlt, -⟩ | ⟨-, hne, hwide⟩
  · exact hlt
  · obtain ⟨b, hb⟩ := List.exists_mem_of_ne_nil _ hne
    exact absurd (h b (List.mem_flatMap.mpr ⟨r, hr, hb⟩)) (by have := hwide b hb; omega)

theorem toNat_ofNat_ascii {n : Nat} (h : n < 0x80) : (UInt8.ofNat n).toNat = n := by
  rw [UInt8.toNat_ofNat']
  omega

/-- A predicate of ASCII characters holds of the characters of a text when it
holds of its bytes. -/
theorem all_runes {p : Nat → Bool} (hp : ∀ n, p n = true → n < 0x80) (bs : Bytes) :
    ((runes bs).all fun r => p r.val) = bs.all fun b => p b.toNat := by
  have hsame : (∀ r ∈ runes bs, r.val < 0x80) → bs = (runes bs).map fun r => UInt8.ofNat r.val := by
    intro hlt
    exact (runesText_runes bs).symm.trans (runesText_ascii hlt)
  rw [Bool.eq_iff_iff, List.all_eq_true, List.all_eq_true]
  constructor
  · intro h b hb
    have hlt : ∀ r ∈ runes bs, r.val < 0x80 := fun r hr => hp _ (h r hr)
    rw [hsame hlt] at hb
    obtain ⟨r, hr, rfl⟩ := List.mem_map.mp hb
    rw [toNat_ofNat_ascii (hlt r hr)]
    exact h r hr
  · intro h r hr
    have hlt : ∀ r ∈ runes bs, r.val < 0x80 := by
      intro r hr
      refine val_lt_of_runesText (fun b hb => hp _ (h b ?_)) hr
      rwa [runesText_runes] at hb
    have hmem : UInt8.ofNat r.val ∈ bs := by
      rw [hsame hlt]
      exact List.mem_map.mpr ⟨r, hr, rfl⟩
    have hbyte := h _ hmem
    rwa [toNat_ofNat_ascii (hlt r hr)] at hbyte

/-! ## Encoded text -/

/-- The UTF-8 encoding of some characters. -/
def utf8 (cs : List Char) : Bytes := cs.flatMap String.utf8EncodeChar

def IsUtf8 (bs : Bytes) : Prop := ∃ cs, bs = utf8 cs

@[simp] theorem utf8_nil : utf8 [] = [] := rfl

@[simp] theorem utf8_cons (c : Char) (cs : List Char) :
    utf8 (c :: cs) = String.utf8EncodeChar c ++ utf8 cs :=
  List.flatMap_cons

@[simp] theorem utf8_append (cs ds : List Char) : utf8 (cs ++ ds) = utf8 cs ++ utf8 ds :=
  List.flatMap_append

theorem utf8_inj {cs ds : List Char} (h : utf8 cs = utf8 ds) : cs = ds := by
  have hencode : cs.utf8Encode = ds.utf8Encode := congrArg List.toByteArray h
  simpa using congrArg ByteArray.utf8Decode? hencode

theorem utf8EncodeChar_ascii {c : Char} (h : c.toNat < 0x80) :
    String.utf8EncodeChar c = [UInt8.ofNat c.toNat] :=
  if_pos (show c.toNat ≤ 0x7f by omega)

theorem utf8EncodeChar_wide {c : Char} (h : 0x80 ≤ c.toNat) :
    ∀ b ∈ String.utf8EncodeChar c, 0x80 ≤ b.toNat := by
  have hbyte : ∀ n, 0x80 ≤ n → n < 0x100 → 0x80 ≤ (UInt8.ofNat n).toNat := by
    intro n hlo hhi
    rw [UInt8.toNat_ofNat']
    omega
  unfold String.utf8EncodeChar
  simp only [show c.val.toNat = c.toNat from rfl]
  rw [if_neg (by omega)]
  intro b hb
  split at hb
  · simp only [List.mem_cons, List.not_mem_nil, or_false] at hb
    rcases hb with rfl | rfl <;> exact hbyte _ (by omega) (by omega)
  split at hb
  · simp only [List.mem_cons, List.not_mem_nil, or_false] at hb
    rcases hb with rfl | rfl | rfl <;> exact hbyte _ (by omega) (by omega)
  · simp only [List.mem_cons, List.not_mem_nil, or_false] at hb
    rcases hb with rfl | rfl | rfl | rfl <;> exact hbyte _ (by omega) (by omega)

theorem isUtf8_nil : IsUtf8 [] := ⟨[], rfl⟩

theorem isUtf8_append {a b : Bytes} (ha : IsUtf8 a) (hb : IsUtf8 b) : IsUtf8 (a ++ b) := by
  obtain ⟨cs, rfl⟩ := ha
  obtain ⟨ds, rfl⟩ := hb
  exact ⟨cs ++ ds, (utf8_append cs ds).symm⟩

theorem toNat_charOfNat {n : Nat} (h : n < 0x80) : (Char.ofNat n).toNat = n := by
  have hvalid : n.isValidChar := .inl (by omega)
  unfold Char.ofNat
  rw [dif_pos hvalid]
  rfl

/-- The character of an ASCII byte. -/
theorem utf8_byte {b : UInt8} (h : b.toNat < 0x80) : utf8 [Char.ofNat b.toNat] = [b] := by
  have hval : (Char.ofNat b.toNat).toNat = b.toNat := toNat_charOfNat h
  rw [utf8_cons, utf8EncodeChar_ascii (by omega), hval, utf8_nil, List.append_nil, UInt8.ofNat_toNat]

/-- **Cut.** An ASCII byte is a character of its own. -/
theorem isUtf8_cut {a : Bytes} {b : UInt8} {c : Bytes} (hb : b.toNat < 0x80) :
    IsUtf8 (a ++ b :: c) ↔ IsUtf8 a ∧ IsUtf8 c := by
  constructor
  · rintro ⟨cs, h⟩
    induction cs generalizing a with
    | nil => simp at h
    | cons x xs ih =>
      rw [utf8_cons, List.append_eq_append_iff] at h
      rcases h with ⟨as, hx, hc⟩ | ⟨bs, ha, hxs⟩
      · -- The byte is in the first character.
        cases as with
        | nil =>
          rw [List.append_nil] at hx
          obtain ⟨-, hrest⟩ := ih (a := []) hc
          exact ⟨⟨[x], by simp [hx]⟩, hrest⟩
        | cons b' as =>
          obtain ⟨rfl, htail⟩ := List.cons.inj hc
          have hmem : b ∈ String.utf8EncodeChar x := by
            rw [hx]
            exact List.mem_append_right _ List.mem_cons_self
          by_cases hascii : x.toNat < 0x80
          · rw [utf8EncodeChar_ascii hascii] at hx
            obtain ⟨rfl, has⟩ : a = [] ∧ as = [] := by
              have hlen := congrArg List.length hx
              simp only [List.length_append, List.length_cons, List.length_nil] at hlen
              exact ⟨List.length_eq_zero_iff.mp (by omega), List.length_eq_zero_iff.mp (by omega)⟩
            exact ⟨isUtf8_nil, ⟨xs, by rw [htail, has]; rfl⟩⟩
          · exact absurd (utf8EncodeChar_wide (by omega) b hmem) (by omega)
      · obtain ⟨⟨ds, hds⟩, hrest⟩ := ih hxs.symm
        exact ⟨⟨x :: ds, by rw [ha, hds, utf8_cons]⟩, hrest⟩
  · rintro ⟨ha, hc⟩
    exact isUtf8_append ha (isUtf8_append (a := [b]) ⟨_, (utf8_byte hb).symm⟩ hc)

/-- ASCII bytes in front do not matter. -/
theorem isUtf8_ascii_append {es c : Bytes} (h : ∀ b ∈ es, b.toNat < 0x80) :
    IsUtf8 (es ++ c) ↔ IsUtf8 c := by
  induction es with
  | nil => exact Iff.rfl
  | cons b es ih =>
    rw [List.cons_append, ← List.nil_append (b :: (es ++ c)), isUtf8_cut (h b List.mem_cons_self),
      ih fun x hx => h x (List.mem_cons_of_mem b hx)]
    exact and_iff_right isUtf8_nil

/-- A byte beyond ASCII is no character. -/
theorem not_isUtf8_wide {b : UInt8} (h : 0x80 ≤ b.toNat) : ¬ IsUtf8 [b] := by
  rintro ⟨cs, hcs⟩
  cases cs with
  | nil => cases hcs
  | cons c cs =>
    have hlen := congrArg List.length hcs
    rw [utf8_cons, List.length_append, List.length_singleton, String.length_utf8EncodeChar] at hlen
    have hsize : c.utf8Size = 1 := by
      have := c.utf8Size_pos
      omega
    have hascii : c.toNat < 0x80 := Nat.lt_succ_of_le (Char.utf8Size_eq_one_iff.mp hsize)
    rw [utf8_cons, utf8EncodeChar_ascii hascii] at hcs
    obtain ⟨rfl, -⟩ := List.cons.inj hcs
    rw [toNat_ofNat_ascii hascii] at h
    omega

/-- ASCII bytes in the middle. -/
theorem isUtf8_ascii_cut {a es c : Bytes} (hne : es ≠ []) (h : ∀ b ∈ es, b.toNat < 0x80) :
    IsUtf8 (a ++ (es ++ c)) ↔ IsUtf8 a ∧ IsUtf8 c := by
  cases es with
  | nil => exact absurd rfl hne
  | cons e es =>
    rw [List.cons_append, isUtf8_cut (h e List.mem_cons_self),
      isUtf8_ascii_append fun x hx => h x (List.mem_cons_of_mem e hx)]

/-- An ASCII text. -/
theorem ascii_eq_utf8 {s : String} (h : ∀ c ∈ s.toList, c.toNat < 0x80) : ascii s = utf8 s.toList := by
  unfold ascii utf8
  rw [List.map_eq_flatMap]
  exact List.flatMap_congr fun c hc => (utf8EncodeChar_ascii (h c hc)).symm

open Classical in
/-- The characters of a text, none when it is not UTF-8. -/
noncomputable def decodeUtf8 (bs : Bytes) : List Char := if h : IsUtf8 bs then h.choose else []

theorem utf8_decodeUtf8 {bs : Bytes} (h : IsUtf8 bs) : utf8 (decodeUtf8 bs) = bs := by
  unfold decodeUtf8
  rw [dif_pos h]
  exact h.choose_spec.symm

theorem decodeUtf8_utf8 (cs : List Char) : decodeUtf8 (utf8 cs) = cs :=
  utf8_inj (utf8_decodeUtf8 ⟨cs, rfl⟩)

/-! ## Replacing ASCII bytes -/

/-- ASCII bytes become ASCII texts, and the others stay. -/
structure AsciiMap (f : UInt8 → Bytes) : Prop where
  ne_nil : ∀ b, b.toNat < 0x80 → f b ≠ []
  ascii : ∀ b, b.toNat < 0x80 → ∀ x ∈ f b, x.toNat < 0x80
  wide : ∀ b, 0x80 ≤ b.toNat → f b = [b]

/-- The map on characters. -/
def onChars (f : UInt8 → Bytes) (c : Char) : List Char :=
  if c.toNat < 0x80 then (f (UInt8.ofNat c.toNat)).map fun b => Char.ofNat b.toNat else [c]

theorem utf8_map_ascii {bs : Bytes} (h : ∀ b ∈ bs, b.toNat < 0x80) :
    utf8 (bs.map fun b => Char.ofNat b.toNat) = bs := by
  induction bs with
  | nil => rfl
  | cons b bs ih =>
    have hhead := utf8_byte (h b List.mem_cons_self)
    rw [utf8_cons, utf8_nil, List.append_nil] at hhead
    rw [List.map_cons, utf8_cons, hhead, ih fun x hx => h x (List.mem_cons_of_mem b hx),
      List.singleton_append]

section
variable {f : UInt8 → Bytes} (hf : AsciiMap f)
include hf

theorem isUtf8_flatMap_after (pre bs : Bytes) : IsUtf8 (pre ++ bs.flatMap f) ↔ IsUtf8 (pre ++ bs) := by
  induction bs generalizing pre with
  | nil => exact Iff.rfl
  | cons b bs ih =>
    rw [List.flatMap_cons]
    by_cases hb : b.toNat < 0x80
    · cases he : f b with
      | nil => exact absurd he (hf.ne_nil b hb)
      | cons e es =>
        have hall : ∀ x ∈ e :: es, x.toNat < 0x80 := he ▸ hf.ascii b hb
        rw [List.cons_append, isUtf8_cut (hall e List.mem_cons_self), isUtf8_cut hb,
          isUtf8_ascii_append fun x hx => hall x (List.mem_cons_of_mem e hx)]
        exact and_congr_right fun _ => ih []
    · have hstep := ih (pre ++ [b])
      rw [List.append_assoc, List.append_assoc] at hstep
      rw [hf.wide b (by omega)]
      exact hstep

/-- A text is UTF-8 when it was before. -/
theorem isUtf8_flatMap (bs : Bytes) : IsUtf8 (bs.flatMap f) ↔ IsUtf8 bs := isUtf8_flatMap_after hf [] bs

/-- The map on the characters of a text. -/
theorem flatMap_utf8 (cs : List Char) : (utf8 cs).flatMap f = utf8 (cs.flatMap (onChars f)) := by
  induction cs with
  | nil => rfl
  | cons c cs ih =>
    rw [utf8_cons, List.flatMap_append, ih, List.flatMap_cons, utf8_append]
    congr 1
    unfold onChars
    by_cases hc : c.toNat < 0x80
    · have hbyte : (UInt8.ofNat c.toNat).toNat < 0x80 := by
        rw [toNat_ofNat_ascii hc]
        exact hc
      rw [utf8EncodeChar_ascii hc, if_pos hc, utf8_map_ascii (hf.ascii _ hbyte), List.flatMap_singleton]
    · have hall : ∀ b ∈ String.utf8EncodeChar c, f b = [b] :=
        fun b hb => hf.wide b (utf8EncodeChar_wide (by omega) b hb)
      rw [if_neg hc, utf8_cons, utf8_nil, List.append_nil, List.flatMap_congr hall,
        List.flatMap_singleton']

end

end Lota.Core

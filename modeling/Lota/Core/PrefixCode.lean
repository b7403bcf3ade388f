import Lota.Core.Bytes

/-!
# Self-delimiting encodings

A hash over a concatenation binds its parts when each part can be told from
what follows it. `PrefixFree P enc` says so of one encoding, on the values
with `P`: the front of a byte string that starts with a code word determines
the value, and the rest. Words of fixed width, byte arrays of fixed length,
byte strings behind their length and lists behind their count are such.

* `append_word_inj`, `append_blob_inj`: words and arrays.
* `prefixFree_sized`: byte strings behind their length.
* `PrefixFree.counted`: lists behind their count.
-/
namespace Lota.Core

variable {α : Type}

theorem toLE_inj {k m n : Nat} (hm : m < 256 ^ k) (hn : n < 256 ^ k) (h : toLE k m = toLE k n) :
    m = n := by
  rw [← ofLE_toLE k m hm, ← ofLE_toLE k n hn, h]

/-- A fixed-width word in front of two equal strings is the same word. -/
theorem append_word_inj {k m n : Nat} {xs ys : Bytes} (hm : m < 256 ^ k) (hn : n < 256 ^ k)
    (h : toLE k m ++ xs = toLE k n ++ ys) : m = n ∧ xs = ys := by
  obtain ⟨h1, h2⟩ := List.append_inj h (by rw [toLE_length, toLE_length])
  exact ⟨toLE_inj hm hn h1, h2⟩

theorem append_blob_inj {n : Nat} {a b : Blob n} {xs ys : Bytes} (h : a.toList ++ xs = b.toList ++ ys) :
    a = b ∧ xs = ys := by
  obtain ⟨h1, h2⟩ := List.append_inj h (by rw [List.Vector.toList_length, List.Vector.toList_length])
  exact ⟨List.Vector.toList_injective h1, h2⟩

/-- The code word at the front of a byte string determines the value. -/
def PrefixFree (P : α → Prop) (enc : α → Bytes) : Prop :=
  ∀ ⦃a b : α⦄ ⦃xs ys : Bytes⦄, P a → P b → enc a ++ xs = enc b ++ ys → a = b ∧ xs = ys

/-- A byte string behind its length. -/
def sized (k : Nat) (s : Bytes) : Bytes := toLE k s.length ++ s

theorem prefixFree_sized (k : Nat) : PrefixFree (fun s : Bytes => s.length < 256 ^ k) (sized k) := by
  intro s t xs ys hs ht h
  unfold sized at h
  rw [List.append_assoc, List.append_assoc] at h
  obtain ⟨hlen, h⟩ := append_word_inj hs ht h
  exact List.append_inj h hlen

theorem PrefixFree.flatMap {P : α → Prop} {enc : α → Bytes} (henc : PrefixFree P enc) {l m : List α}
    {xs ys : Bytes}
    (hl : ∀ a ∈ l, P a) (hm : ∀ a ∈ m, P a) (hlen : l.length = m.length)
    (h : l.flatMap enc ++ xs = m.flatMap enc ++ ys) : l = m ∧ xs = ys := by
  induction l generalizing m with
  | nil =>
    cases m with
    | nil => exact ⟨rfl, h⟩
    | cons b m => cases hlen
  | cons a l ih =>
    cases m with
    | nil => cases hlen
    | cons b m =>
      rw [List.flatMap_cons, List.flatMap_cons, List.append_assoc, List.append_assoc] at h
      obtain ⟨hab, h⟩ := henc (hl a List.mem_cons_self) (hm b List.mem_cons_self) h
      obtain ⟨hlm, h⟩ := ih (fun c hc => hl c (List.mem_cons_of_mem a hc))
        (fun c hc => hm c (List.mem_cons_of_mem b hc)) (Nat.succ.inj hlen) h
      exact ⟨by rw [hab, hlm], h⟩

/-- Code words that are not empty need no count. -/
theorem PrefixFree.flatMap_inj {P : α → Prop} {enc : α → Bytes} (henc : PrefixFree P enc)
    (hne : ∀ a, enc a ≠ [])
    {l m : List α} (hl : ∀ a ∈ l, P a) (hm : ∀ a ∈ m, P a) (h : l.flatMap enc = m.flatMap enc) :
    l = m := by
  induction l generalizing m with
  | nil =>
    cases m with
    | nil => rfl
    | cons b m =>
      have hb : enc b = [] := by simpa using (congrArg (List.take (enc b).length) h).symm
      exact absurd hb (hne b)
  | cons a l ih =>
    cases m with
    | nil =>
      have ha : enc a = [] := by simpa using congrArg (List.take (enc a).length) h
      exact absurd ha (hne a)
    | cons b m =>
      rw [List.flatMap_cons, List.flatMap_cons] at h
      obtain ⟨hab, h⟩ := henc (hl a List.mem_cons_self) (hm b List.mem_cons_self) h
      have hlm :=
        ih (fun c hc => hl c (List.mem_cons_of_mem a hc))
          (fun c hc => hm c (List.mem_cons_of_mem b hc)) h
      rw [hab, hlm]

/-- A list behind its count. -/
def counted (k : Nat) (enc : α → Bytes) (l : List α) : Bytes := toLE k l.length ++ l.flatMap enc

theorem PrefixFree.counted {P : α → Prop} {enc : α → Bytes} (henc : PrefixFree P enc) (k : Nat) :
    PrefixFree (fun l : List α => l.length < 256 ^ k ∧ ∀ a ∈ l, P a) (counted k enc) := by
  intro l m xs ys hl hm h
  unfold Lota.Core.counted at h
  rw [List.append_assoc, List.append_assoc] at h
  obtain ⟨hlen, h⟩ := append_word_inj hl.1 hm.1 h
  exact henc.flatMap hl.2 hm.2 hlen h

end Lota.Core

import Lota.Core.Decimal
import Lota.Core.Separated
import Lota.L2Store.Crl
import Mathlib.Data.List.Lex

/-!
# Issuer names and their keys (`verifier/store/crl.go`)

`canonicalIssuerKey` makes one text of a name: the attributes of each RDN in
the order of their types, with 0x1f between them and 0x1e behind the RDN.
Attributes of one type are left in the order the sort puts them in, and the
separators are not escaped in the values.

* `avaText_inj`: an attribute can be told from its text.
* `unitsText_inj`: nor is there another way to read the text, unless a value
  has a separator in front of what reads as an attribute.
* `key_eq_iff`: then the keys agree exactly when the sorted attributes do.
* `issuer_key_iff`: and they characterise names exactly when names that are the
  same have the attributes of each type in the same order.
* `keys_disagree`: two encodings of one name with different keys, and two names
  with one key.
-/
namespace Lota.L2.IssuerKey
open Lota.Core Lota.L2.Crl

variable (X : X509)

/-! ## Names -/

/-- What the key holds of a value: a string is trimmed, its whitespace
collapsed and its letters lowered. -/
def folded (v : AttributeValue) : Bytes :=
  match v with
  | .string s => foldDirectoryString X s
  | .bytes b => foldDirectoryString X b
  | .other shown => shown

/-- What counts of an attribute. -/
def pair (ava : AttributeTypeAndValue) : List Nat × Bytes := (ava.type, folded X ava.value)

/-- As many RDNs, and position by position the same attributes, counted. -/
def SameName (a b : RDNSequence) : Prop :=
  List.Forall₂ (fun ra rb => (ra.map (pair X)).Perm (rb.map (pair X))) a b

/-- The values of one type, in the order of the key. -/
def valuesOf (t : List Nat) (rdn : List AttributeTypeAndValue) : List Bytes :=
  ((X.sortSlice rdn).filter (·.type = t)).map fun ava => folded X ava.value

/-- Position by position, attributes of one type come in the same order. -/
def SameOrder (a b : RDNSequence) : Prop :=
  List.Forall₂ (fun ra rb => ∀ t, valuesOf X t ra = valuesOf X t rb) a b

/-- The text reads as the start of an attribute: a type and `=`. -/
def Starts (w : Bytes) : Prop := ∃ t r, w = oidString t ++ 0x3d :: r

/-- A separator stands inside the value, and what follows reads as the next
attribute or, behind 0x1e, as an RDN without attributes. -/
def Ambiguous (v : Bytes) : Prop :=
  ∃ u sep w, v = u ++ sep :: w ∧
    ((sep = 0x1f ∧ Starts w) ∨ (sep = 0x1e ∧ (Starts w ∨ w = [] ∨ ∃ r, w = 0x1e :: r)))

/-- No value can be read as several attributes. -/
def Clear (a : RDNSequence) : Prop := ∀ rdn ∈ a, ∀ ava ∈ rdn, ¬ Ambiguous (folded X ava.value)

/-- What `sort.Slice` promises: the same attributes, none behind one that is
not less. -/
def Sorts : Prop :=
  ∀ rdn, (X.sortSlice rdn).Perm rdn ∧ (X.sortSlice rdn).Pairwise fun a b => cmpOID b.type a.type ≠ .lt

/-! ## One attribute -/

variable {X}

theorem cmpOID_iff (a b : List Nat) : (cmpOID a b = .lt ↔ a < b) ∧ (cmpOID a b = .gt ↔ b < a) := by
  induction a generalizing b with
  | nil => cases b <;> simp [cmpOID]
  | cons x a ih =>
    cases b with
    | nil => simp [cmpOID]
    | cons y b =>
      rw [cmpOID, List.cons_lt_cons_iff, List.cons_lt_cons_iff]
      rcases Nat.lt_trichotomy x y with h | h | h
      · rw [if_neg (by omega), if_pos h]
        simp only [reduceCtorEq, false_iff, true_iff]
        omega
      · rw [if_pos h, (ih b).1, (ih b).2]
        simp [h]
      · rw [if_neg (by omega), if_neg (by omega)]
        simp only [reduceCtorEq, false_iff, true_iff]
        omega

theorem digit_byte {n : Nat} {b : UInt8} (h : b ∈ ascii (toString n)) :
    48 ≤ b.toNat ∧ b.toNat ≤ 57 := by
  unfold ascii at h
  rw [toList_toString] at h
  obtain ⟨c, hc, rfl⟩ := List.mem_map.mp h
  have hd := isDigit_toDigits hc
  simp only [Char.isDigit, Bool.and_eq_true, decide_eq_true_iff] at hd
  have h1 : 48 ≤ c.toNat := hd.1
  have h2 : c.toNat ≤ 57 := hd.2
  have hb : (UInt8.ofNat c.toNat).toNat = c.toNat := by
    rw [UInt8.toNat_ofNat']
    omega
  omega

theorem ascii_toString_inj {m n : Nat} (h : ascii (toString m) = ascii (toString n)) : m = n := by
  have hback : ∀ k : Nat, (ascii (toString k)).map (fun b => Char.ofNat b.toNat) =
      Nat.toDigits 10 k := by
    intro k
    unfold ascii
    rw [toList_toString, List.map_map]
    refine (List.map_congr_left fun c hc => ?_).trans (List.map_id _)
    have hd := isDigit_toDigits hc
    simp only [Char.isDigit, Bool.and_eq_true, decide_eq_true_iff] at hd
    have h2 : c.toNat ≤ 57 := hd.2
    show Char.ofNat (UInt8.ofNat c.toNat).toNat = c
    rw [UInt8.toNat_ofNat', Nat.mod_eq_of_lt (by omega), Char.ofNat_toNat]
  have hd : Nat.toDigits 10 m = Nat.toDigits 10 n := by rw [← hback m, ← hback n, h]
  have hr := readDec_toDigits m
  rw [hd, readDec_toDigits] at hr
  exact (Option.some.inj hr).symm

/-- The text of a type is digits and dots. -/
theorem oidString_byte {t : List Nat} {b : UInt8} (h : b ∈ oidString t) :
    b.toNat = 46 ∨ (48 ≤ b.toNat ∧ b.toNat ≤ 57) := by
  rcases @mem_intercalate _ 0x2e b _ h with rfl | ⟨l, hl, hb⟩
  · exact .inl rfl
  · obtain ⟨n, -, rfl⟩ := List.mem_map.mp hl
    exact .inr (digit_byte hb)

theorem oidString_inj {s t : List Nat} (h : oidString s = oidString t) : s = t := by
  have hparts : ∀ t : List Nat, ∀ l ∈ t.map fun n => ascii (toString n), l ≠ [] ∧
      (0x2e : UInt8) ∉ l := by
    intro t l hl
    obtain ⟨n, -, rfl⟩ := List.mem_map.mp hl
    refine ⟨?_, fun hdot => ?_⟩
    · unfold ascii
      rw [toList_toString]
      simp
    · have hd := digit_byte hdot
      exact absurd hd.1 (by decide)
  have hmap := @intercalate_inj _ _ 0x2e _ _ (hparts s) (hparts t) h
  exact List.map_injective_iff.mpr (fun _ _ he => ascii_toString_inj he) hmap

theorem avaText_eq (ava : AttributeTypeAndValue) :
    avaText X ava = oidString ava.type ++ 0x3d :: folded X ava.value := by
  unfold avaText folded
  rw [List.append_assoc]
  cases ava.value <;> rfl

theorem oidString_no {t : List Nat} {b : UInt8} (hb : b = 0x3d ∨ b = 0x1e ∨ b = 0x1f) :
    b ∉ oidString t := by
  intro h
  have hd := oidString_byte h
  rcases hb with rfl | rfl | rfl <;> exact absurd hd (by decide)

/-- The first `=` ends the type. -/
theorem avaText_inj {a b : AttributeTypeAndValue} (h : avaText X a = avaText X b) :
    pair X a = pair X b := by
  rw [avaText_eq, avaText_eq] at h
  obtain ⟨ht, hv⟩ := cut_unique (oidString_no (.inl rfl)) (oidString_no (.inl rfl)) h
  unfold pair
  rw [oidString_inj ht, hv]

theorem avaText_of_pair {a b : AttributeTypeAndValue} (h : pair X a = pair X b) :
    avaText X a = avaText X b := by
  obtain ⟨ht, hv⟩ := Prod.mk.inj h
  rw [avaText_eq, avaText_eq, ht, hv]

/-! ## Attributes and the separators behind them -/

def attr (t : List Nat) (v : Bytes) : Bytes := oidString t ++ 0x3d :: v

/-- The text of a name, cut behind every separator it was joined with: an
attribute with the separator behind it, or 0x1e alone for an RDN without
attributes. -/
inductive Units : List (Bytes × UInt8) → Prop where
  | nil : Units []
  | empty {us : List (Bytes × UInt8)} (h : Units us) : Units (([], 0x1e) :: us)
  | last {t : List Nat} {v : Bytes} {us : List (Bytes × UInt8)} (hv : ¬ Ambiguous v) (h : Units us) :
      Units ((attr t v, 0x1e) :: us)
  | more {t t' : List Nat} {v v' : Bytes} {sep : UInt8} {us : List (Bytes × UInt8)} (hv : ¬ Ambiguous v)
      (h : Units ((attr t' v', sep) :: us)) : Units ((attr t v, 0x1f) :: (attr t' v', sep) :: us)

def unitsText (us : List (Bytes × UInt8)) : Bytes := us.flatMap fun u => u.1 ++ [u.2]

theorem unitsText_cons (x : Bytes) (sep : UInt8) (us : List (Bytes × UInt8)) :
    unitsText ((x, sep) :: us) = x ++ sep :: unitsText us := by
  unfold unitsText
  rw [List.flatMap_cons, List.append_assoc]
  rfl

/-- An attribute at the front of a text is in front of every separator. -/
theorem starts_of_append {t : List Nat} {v w r : Bytes} {sep : UInt8} (hsep : sep = 0x1e ∨ sep = 0x1f)
    (h : attr t v = w ++ sep :: r) : Starts w := by
  have hno : sep ∉ oidString t := oidString_no (.inr hsep)
  unfold attr at h
  rcases List.append_eq_append_iff.mp h with ⟨z, hw, hz⟩ | ⟨z, ht, hz⟩
  · cases z with
    | nil =>
      obtain ⟨he, -⟩ := List.cons.inj hz
      rcases hsep with rfl | rfl <;> exact absurd he (by decide)
    | cons c z =>
      obtain ⟨he, -⟩ := List.cons.inj hz
      exact ⟨t, z, by rw [hw, he]⟩
  · cases z with
    | nil =>
      obtain ⟨he, -⟩ := List.cons.inj hz
      rcases hsep with rfl | rfl <;> exact absurd he (by decide)
    | cons c z =>
      obtain ⟨he, -⟩ := List.cons.inj hz
      refine absurd ?_ hno
      rw [ht, he]
      exact List.mem_append_right _ List.mem_cons_self

/-- An attribute does not reach over the separator behind another one. -/
theorem no_longer {t t' : List Nat} {v v' w r : Bytes} {sep sep' : UInt8} {us : List (Bytes × UInt8)}
    (hu : Units ((attr t v, sep) :: us)) (hv' : ¬ Ambiguous v') (hsep' : sep' = 0x1e ∨ sep' = 0x1f)
    (hlong : attr t' v' = attr t v ++ sep :: w) (hrest : unitsText us = w ++ sep' :: r) : False := by
  have hval : v' = v ++ sep :: w := by
    unfold attr at hlong
    rw [List.append_assoc] at hlong
    exact (cut_unique (oidString_no (.inl rfl)) (oidString_no (.inl rfl)) hlong).2
  have hstart : ∀ {t₂ v₂ sep₂ us₂}, us = (attr t₂ v₂, sep₂) :: us₂ → Starts w := by
    intro t₂ v₂ sep₂ us₂ he
    rw [he, unitsText_cons, attr, List.append_assoc, List.cons_append] at hrest
    exact @starts_of_append t₂ _ w r sep' hsep' hrest
  generalize hl : (attr t v, sep) :: us = l at hu
  cases hu with
  | nil => cases hl
  | empty h =>
    obtain ⟨hx, -⟩ := Prod.mk.inj (List.cons.inj hl).1
    simp [attr] at hx
  | last hv h =>
    obtain ⟨hx, hus⟩ := List.cons.inj hl
    obtain ⟨-, rfl⟩ := Prod.mk.inj hx
    subst hus
    refine hv' ⟨v, 0x1e, w, hval, .inr ⟨rfl, ?_⟩⟩
    cases h with
    | nil => simp [unitsText] at hrest
    | empty h =>
      rw [unitsText_cons, List.nil_append] at hrest
      cases w with
      | nil => exact .inr (.inl rfl)
      | cons c w =>
        obtain ⟨hc, -⟩ := List.cons.inj hrest
        exact .inr (.inr ⟨w, by rw [hc]⟩)
    | last _ _ => exact .inl (hstart rfl)
    | more _ _ => exact .inl (hstart rfl)
  | more hv h =>
    obtain ⟨hx, hus⟩ := List.cons.inj hl
    obtain ⟨-, rfl⟩ := Prod.mk.inj hx
    exact hv' ⟨v, 0x1f, w, hval, .inl ⟨rfl, hstart hus⟩⟩

/-- Without separators there is nothing to misread. -/
theorem not_ambiguous {v : Bytes} (h1 : 0x1e ∉ v) (h2 : 0x1f ∉ v) : ¬ Ambiguous v := by
  rintro ⟨u, sep, w, rfl, ⟨rfl, -⟩ | ⟨rfl, -⟩⟩
  · exact h2 (List.mem_append_right _ List.mem_cons_self)
  · exact h1 (List.mem_append_right _ List.mem_cons_self)

/-- How a text can begin. -/
theorem units_cases {us : List (Bytes × UInt8)} (h : Units us) :
    us = [] ∨ (∃ us', us = ([], 0x1e) :: us' ∧ Units us') ∨
    (∃ t v sep us', us = (attr t v, sep) :: us' ∧ ¬ Ambiguous v ∧ (sep = 0x1e ∨ sep = 0x1f) ∧
      Units us') := by
  cases h with
  | nil => exact .inl rfl
  | empty h => exact .inr (.inl ⟨_, rfl, h⟩)
  | last hv h => exact .inr (.inr ⟨_, _, _, _, rfl, hv, .inl rfl, h⟩)
  | more hv h => exact .inr (.inr ⟨_, _, _, _, rfl, hv, .inr rfl, h⟩)

/-- An attribute does not begin with a separator. -/
theorem attr_ne_separator {t : List Nat} {v r r' : Bytes} : attr t v ++ r ≠ 0x1e :: r' := by
  intro h
  have hno : (0x1e : UInt8) ∉ oidString t := oidString_no (.inr (.inl rfl))
  unfold attr at h
  cases ht : oidString t with
  | nil =>
    rw [ht] at h
    exact absurd (List.cons.inj h).1 (by decide)
  | cons c cs =>
    rw [ht] at h
    obtain ⟨hc, -⟩ := List.cons.inj h
    exact hno (by rw [ht, hc]; exact List.mem_cons_self)

/-- **Unique reading.** A text comes from one sequence of attributes and
separators. -/
theorem unitsText_inj {us us' : List (Bytes × UInt8)} (h : Units us) (h' : Units us')
    (he : unitsText us = unitsText us') : us = us' := by
  induction us generalizing us' with
  | nil =>
    rcases units_cases h' with rfl | ⟨us₂, rfl, -⟩ | ⟨t, v, sep, us₂, rfl, -⟩
    · rfl
    · simp [unitsText] at he
    · simp [unitsText] at he
  | cons u us ih =>
    rcases units_cases h with hnil | ⟨us₁, hcons, htail⟩ | ⟨t, v, sep, us₁, hcons, hv, hsep, htail⟩
    · cases hnil
    · cases hcons
      rcases units_cases h' with rfl | ⟨us₂, rfl, htail'⟩ | ⟨t, v, sep, us₂, rfl, -⟩
      · simp [unitsText] at he
      · rw [unitsText_cons, unitsText_cons] at he
        rw [ih htail htail' (List.cons.inj he).2]
      · rw [unitsText_cons, unitsText_cons] at he
        exact absurd he.symm attr_ne_separator
    · cases hcons
      rcases units_cases h' with rfl | ⟨us₂, rfl, htail'⟩ | ⟨t', v', sep', us₂, rfl, hv', hsep', htail'⟩
      · simp [unitsText] at he
      · rw [unitsText_cons, unitsText_cons] at he
        exact absurd he attr_ne_separator
      · rw [unitsText_cons, unitsText_cons] at he
        -- neither attribute reaches over the other's separator
        rcases List.append_eq_append_iff.mp he with ⟨z, hz, hr⟩ | ⟨z, hz, hr⟩
        · cases z with
          | nil =>
            rw [List.append_nil] at hz
            obtain ⟨hs, hrest⟩ := List.cons.inj hr
            rw [hz, hs, ih htail htail' hrest]
          | cons c z =>
            obtain ⟨rfl, hrest⟩ := List.cons.inj hr
            exact (no_longer h hv' hsep' hz hrest).elim
        · cases z with
          | nil =>
            rw [List.append_nil] at hz
            obtain ⟨hs, hrest⟩ := List.cons.inj hr
            rw [hz, ← hs, ih htail htail' hrest.symm]
          | cons c z =>
            obtain ⟨rfl, hrest⟩ := List.cons.inj hr
            exact (no_longer h' hv hsep hz hrest).elim

/-! ## One RDN -/

section
variable {ra rb : List AttributeTypeAndValue}

/-- The attributes of one RDN with the separators behind them. -/
def rdnUnits : List Bytes → List (Bytes × UInt8)
  | [] => [([], 0x1e)]
  | [x] => [(x, 0x1e)]
  | x :: y :: l => (x, 0x1f) :: rdnUnits (y :: l)

theorem rdnText_eq (rdn : List AttributeTypeAndValue) :
    rdnText X rdn = unitsText (rdnUnits ((X.sortSlice rdn).map (avaText X))) := by
  have hgen : ∀ l : List Bytes, List.intercalate [0x1f] l ++ [0x1e] = unitsText (rdnUnits l) := by
    intro l
    induction l with
    | nil => rfl
    | cons x l ih =>
      cases l with
      | nil => simp [rdnUnits, unitsText]
      | cons y l =>
        rw [rdnUnits, unitsText_cons, ← ih, List.intercalate_cons_cons, List.append_assoc,
          List.append_assoc]
        rfl
  exact hgen _

/-- The 0x1e ends the RDN. -/
theorem rdnUnits_inj {l m : List Bytes} {us us' : List (Bytes × UInt8)} (hl : [] ∉ l) (hm : [] ∉ m)
    (h : rdnUnits l ++ us = rdnUnits m ++ us') : l = m ∧ us = us' := by
  induction l generalizing m with
  | nil =>
    rcases m with _ | ⟨y, _ | ⟨z, m⟩⟩
    · exact ⟨rfl, (List.cons.inj h).2⟩
    · obtain ⟨hx, -⟩ := List.cons.inj h
      exact absurd ((Prod.mk.inj hx).1 ▸ List.mem_cons_self) hm
    · simp [rdnUnits] at h
  | cons x l ih =>
    rcases l with _ | ⟨x', l⟩
    · rcases m with _ | ⟨y, _ | ⟨z, m⟩⟩
      · obtain ⟨hx, -⟩ := List.cons.inj h
        exact absurd ((Prod.mk.inj hx).1.symm ▸ List.mem_cons_self) hl
      · obtain ⟨hx, hus⟩ := List.cons.inj h
        exact ⟨by rw [(Prod.mk.inj hx).1], hus⟩
      · simp [rdnUnits] at h
    · rcases m with _ | ⟨y, _ | ⟨z, m⟩⟩
      · simp [rdnUnits] at h
      · simp [rdnUnits] at h
      · obtain ⟨hx, htl⟩ := List.cons.inj h
        obtain ⟨hlm, hus⟩ :=
          ih (fun hn => hl (List.mem_cons_of_mem _ hn)) (fun hn => hm (List.mem_cons_of_mem _ hn)) htl
        exact ⟨by rw [(Prod.mk.inj hx).1, hlm], hus⟩

theorem units_rdn {l : List Bytes} (hl : ∀ x ∈ l, ∃ t v, x = attr t v ∧ ¬ Ambiguous v)
    {us : List (Bytes × UInt8)}
    (h : Units us) : Units (rdnUnits l ++ us) := by
  induction l with
  | nil => exact .empty h
  | cons x l ih =>
    obtain ⟨t, v, rfl, hv⟩ := hl x List.mem_cons_self
    rcases l with _ | ⟨y, l⟩
    · exact .last hv h
    · have htail := ih fun z hz => hl z (List.mem_cons_of_mem _ hz)
      obtain ⟨t', v', rfl, -⟩ := hl y (List.mem_cons_of_mem _ List.mem_cons_self)
      rcases l with _ | ⟨z, l⟩
      · exact .more hv htail
      · exact .more hv htail

/-- The texts of the attributes, in the order of the key. -/
def texts (X : X509) (rdn : List AttributeTypeAndValue) : List Bytes :=
  (X.sortSlice rdn).map (avaText X)

theorem texts_ne_nil (rdn : List AttributeTypeAndValue) : [] ∉ texts X rdn := by
  intro h
  obtain ⟨ava, -, he⟩ := List.mem_map.mp h
  rw [avaText_eq] at he
  simp at he

theorem texts_attr (hX : Sorts X) (h : ∀ ava ∈ ra, ¬ Ambiguous (folded X ava.value)) :
    ∀ x ∈ texts X ra, ∃ t v, x = attr t v ∧ ¬ Ambiguous v := by
  intro x hx
  obtain ⟨ava, hava, rfl⟩ := List.mem_map.mp hx
  exact ⟨ava.type, _, avaText_eq ava, h ava ((hX ra).1.mem_iff.mp hava)⟩

theorem texts_eq_iff :
    texts X ra = texts X rb ↔ (X.sortSlice ra).map (pair X) = (X.sortSlice rb).map (pair X) := by
  have hmap : ∀ {γ : Type} (f : AttributeTypeAndValue → γ) l m,
      List.map f l = List.map f m ↔ List.Forall₂ (fun a b => f a = f b) l m := by
    intro γ f l m
    rw [← List.forall₂_eq_eq_eq, List.forall₂_map_left_iff, List.forall₂_map_right_iff]
  unfold texts
  rw [hmap, hmap]
  exact ⟨fun h => h.imp fun _ _ hab => avaText_inj hab,
    fun h => h.imp fun _ _ hab => avaText_of_pair hab⟩

/-- The sort changes nothing but the order. -/
theorem perm_of_sorted_eq (hX : Sorts X)
    (h : (X.sortSlice ra).map (pair X) = (X.sortSlice rb).map (pair X)) :
    (ra.map (pair X)).Perm (rb.map (pair X)) := by
  have h1 : (ra.map (pair X)).Perm ((X.sortSlice ra).map (pair X)) := ((hX ra).1.map (pair X)).symm
  have h2 : ((X.sortSlice rb).map (pair X)).Perm (rb.map (pair X)) := (hX rb).1.map (pair X)
  exact h1.trans (h ▸ h2)

theorem sorted_pairs (hX : Sorts X) (rdn : List AttributeTypeAndValue) :
    ((X.sortSlice rdn).map (pair X)).Pairwise fun a b => a.1 ≤ b.1 := by
  refine List.pairwise_map.mpr ((hX rdn).2.imp fun {a b} hab => ?_)
  rw [Ne, (cmpOID_iff _ _).1, not_lt] at hab
  exact hab

theorem filter_pairs (t : List Nat) (rdn : List AttributeTypeAndValue) :
    ((X.sortSlice rdn).map (pair X)).filter (·.1 = t) = (valuesOf X t rdn).map fun v => (t, v) := by
  unfold valuesOf
  rw [List.filter_map, List.map_map]
  refine List.map_congr_left fun ava hava => ?_
  have ht := of_decide_eq_true (List.mem_filter.mp hava).2
  exact Prod.ext ht rfl

/-- Sorted attributes are equal exactly when those of each type are. -/
theorem sorted_eq_iff (hX : Sorts X) :
    (X.sortSlice ra).map (pair X) = (X.sortSlice rb).map (pair X) ↔
    ∀ t, valuesOf X t ra = valuesOf X t rb := by
  constructor
  · intro h t
    have hf := congrArg (fun l => l.filter (·.1 = t)) h
    simp only [filter_pairs] at hf
    exact List.map_injective_iff.mpr (fun _ _ he => (Prod.mk.inj he).2) hf
  · intro h
    refine eq_of_filter_eq (sorted_pairs hX ra) (sorted_pairs hX rb) fun t => ?_
    rw [filter_pairs, filter_pairs, h t]

end

/-! ## Whole names -/

section
variable {a b : RDNSequence}

def nameUnits (X : X509) (a : RDNSequence) : List (Bytes × UInt8) :=
  a.flatMap fun rdn => rdnUnits (texts X rdn)

theorem name_text (a : RDNSequence) : a.flatMap (rdnText X) = unitsText (nameUnits X a) := by
  induction a with
  | nil => rfl
  | cons rdn a ih =>
    unfold nameUnits unitsText at ih ⊢
    rw [List.flatMap_cons, List.flatMap_cons, List.flatMap_append, ih, rdnText_eq]
    rfl

theorem units_name (hX : Sorts X) (ha : Clear X a) : Units (nameUnits X a) := by
  induction a with
  | nil => exact .nil
  | cons rdn a ih =>
    exact units_rdn (texts_attr hX (ha rdn List.mem_cons_self))
      (ih fun r hr => ha r (List.mem_cons_of_mem _ hr))

theorem nameUnits_ne_nil (rdn : List AttributeTypeAndValue) (a : RDNSequence) :
    nameUnits X (rdn :: a) ≠ [] := by
  unfold nameUnits
  rw [List.flatMap_cons]
  rcases texts X rdn with _ | ⟨x, _ | ⟨y, l⟩⟩ <;> simp [rdnUnits]

theorem nameUnits_eq_iff :
    nameUnits X a = nameUnits X b ↔ List.Forall₂ (fun ra rb => texts X ra = texts X rb) a b := by
  induction a generalizing b with
  | nil =>
    cases b with
    | nil => simp
    | cons rb b => simp [(nameUnits_ne_nil rb b).symm, show nameUnits X [] = [] from rfl]
  | cons ra a ih =>
    cases b with
    | nil => simp [nameUnits_ne_nil ra a, show nameUnits X [] = [] from rfl]
    | cons rb b =>
      rw [List.forall₂_cons, ← ih]
      constructor
      · intro h
        exact rdnUnits_inj (texts_ne_nil ra) (texts_ne_nil rb) h
      · rintro ⟨ht, hu⟩
        unfold nameUnits at hu ⊢
        rw [List.flatMap_cons, List.flatMap_cons, ht, hu]

/-- **Keys.** When no value can be read as several attributes, two names have
one key exactly when they have the same attributes in the same order. -/
theorem key_eq_iff (hX : Sorts X) (ha : Clear X a) (hb : Clear X b) :
    a.flatMap (rdnText X) = b.flatMap (rdnText X) ↔ SameOrder X a b := by
  have hunits : a.flatMap (rdnText X) = b.flatMap (rdnText X) ↔ nameUnits X a = nameUnits X b := by
    rw [name_text, name_text]
    exact ⟨unitsText_inj (units_name hX ha) (units_name hX hb), fun h => by rw [h]⟩
  rw [hunits, nameUnits_eq_iff]
  exact ⟨fun h => h.imp fun _ _ hr => (sorted_eq_iff hX).mp (texts_eq_iff.mp hr),
    fun h => h.imp fun _ _ hr => texts_eq_iff.mpr ((sorted_eq_iff hX).mpr hr)⟩

theorem sameName_of_sameOrder (hX : Sorts X) (h : SameOrder X a b) : SameName X a b :=
  h.imp fun _ _ hr => perm_of_sorted_eq hX ((sorted_eq_iff hX).mpr hr)

end

/-- **Issuer keys.** For two names that parse and have no value that can be read
as several attributes: their keys agree exactly when the names are the same, if and only if,
should they be the same, attributes of one type come out of the sort in the
same order in both. -/
theorem issuer_key_iff (hX : Sorts X) {rawA rawB : Bytes} {a b : RDNSequence}
    (hpa : X.unmarshalName rawA = .ok a)
    (hpb : X.unmarshalName rawB = .ok b) (ha : Clear X a) (hb : Clear X b) :
    (canonicalIssuerKey X rawA = canonicalIssuerKey X rawB ↔ SameName X a b) ↔
      (SameName X a b → SameOrder X a b) := by
  have hkeys : canonicalIssuerKey X rawA = canonicalIssuerKey X rawB ↔ SameOrder X a b := by
    unfold canonicalIssuerKey
    rw [hpa, hpb]
    simp only [Except.ok.injEq]
    exact key_eq_iff hX ha hb
  rw [hkeys]
  exact ⟨fun h hs => h.mpr hs, fun h => ⟨sameName_of_sameOrder hX, h⟩⟩

/-! ## Where it goes wrong -/

/-- A common name. -/
def cn (s : Bytes) : AttributeTypeAndValue := { type := [2, 5, 4, 3], value := .string s }

/-- DER of one RDN with the common names `B` and `a`, in the order DER asks for. -/
def upperB : Bytes :=
  [0x30, 0x16, 0x31, 0x14, 0x30, 0x08, 0x06, 0x03, 0x55, 0x04, 0x03, 0x0c, 0x01, 0x42,
   0x30, 0x08, 0x06, 0x03, 0x55, 0x04, 0x03, 0x0c, 0x01, 0x61]

/-- The same with `A` and `b`. -/
def upperA : Bytes :=
  [0x30, 0x16, 0x31, 0x14, 0x30, 0x08, 0x06, 0x03, 0x55, 0x04, 0x03, 0x0c, 0x01, 0x41,
   0x30, 0x08, 0x06, 0x03, 0x55, 0x04, 0x03, 0x0c, 0x01, 0x62]

/-- The same with `a` and `b`. -/
def lower : Bytes :=
  [0x30, 0x16, 0x31, 0x14, 0x30, 0x08, 0x06, 0x03, 0x55, 0x04, 0x03, 0x0c, 0x01, 0x61,
   0x30, 0x08, 0x06, 0x03, 0x55, 0x04, 0x03, 0x0c, 0x01, 0x62]

/-- One common name, `a`, 0x1f and `2.5.4.3=b`. -/
def joined : Bytes :=
  [0x30, 0x16, 0x31, 0x14, 0x30, 0x12, 0x06, 0x03, 0x55, 0x04, 0x03, 0x0c, 0x0b, 0x61, 0x1f,
   0x32, 0x2e, 0x35, 0x2e, 0x34, 0x2e, 0x33, 0x3d, 0x62]

/-- The library as it answers on these bytes. -/
def nameX : X509 :=
  { sampleX with
    unmarshalName := fun raw =>
      if raw = upperB then .ok [[cn (ascii "B"), cn (ascii "a")]]
      else if raw = upperA then .ok [[cn (ascii "A"), cn (ascii "b")]]
      else if raw = lower then .ok [[cn (ascii "a"), cn (ascii "b")]]
      else if raw = joined then .ok [[cn (0x61 :: 0x1f :: ascii "2.5.4.3=b")]]
      else .error "asn1: structure error" }

theorem nameX_sorts : Sorts nameX := by
  intro rdn
  have hle : ∀ a b : AttributeTypeAndValue, cmpOID a.type b.type ≠ .gt ↔ a.type ≤ b.type := by
    intro a b
    rw [Ne, (cmpOID_iff _ _).2, not_lt]
  have : Std.Total fun a b : AttributeTypeAndValue => cmpOID a.type b.type ≠ .gt :=
    ⟨fun a b => by rw [hle, hle]; exact le_total _ _⟩
  have : IsTrans AttributeTypeAndValue fun a b => cmpOID a.type b.type ≠ .gt :=
    ⟨fun a b c hab hbc => by rw [hle] at *; exact le_trans hab hbc⟩
  refine ⟨List.perm_insertionSort _ rdn, ?_⟩
  refine (List.pairwise_insertionSort (fun a b => cmpOID a.type b.type ≠ .gt) rdn).imp
    fun {a b} hab => ?_
  rw [Ne, (cmpOID_iff _ _).1, not_lt]
  exact (hle a b).mp hab

/-- One name in two encodings with different keys: the upper-case letter comes
first in DER. And two names with one key. -/
theorem keys_disagree :
    (∃ a b, nameX.unmarshalName upperB = .ok a ∧ nameX.unmarshalName upperA = .ok b ∧
      SameName nameX a b ∧ canonicalIssuerKey nameX upperB ≠ canonicalIssuerKey nameX upperA) ∧
    (∃ a b, nameX.unmarshalName joined = .ok a ∧ nameX.unmarshalName lower = .ok b ∧
      ¬ SameName nameX a b ∧ canonicalIssuerKey nameX joined = canonicalIssuerKey nameX lower) := by
  refine ⟨⟨_, _, rfl, rfl, ?_, by decide +kernel⟩, ⟨_, _, rfl, rfl, ?_, by decide +kernel⟩⟩
  · refine .cons ?_ .nil
    decide +kernel
  · intro h
    rcases List.forall₂_cons.mp h with ⟨hp, -⟩
    exact absurd hp.length_eq (by decide)

theorem issuer_key_iff_letters :
    SameOrder nameX [[cn (ascii "A"), cn (ascii "b")]] [[cn (ascii "a"), cn (ascii "b")]] ∧
    (canonicalIssuerKey nameX upperA = canonicalIssuerKey nameX lower ↔
      SameName nameX [[cn (ascii "A"), cn (ascii "b")]] [[cn (ascii "a"), cn (ascii "b")]]) := by
  have hfree : ∀ c ∈ [ascii "A", ascii "a", ascii "b"], 0x1e ∉ folded nameX (cn c).value ∧
      0x1f ∉ folded nameX (cn c).value := by
    decide +kernel
  have hclear : ∀ c ∈ [ascii "A", ascii "a"], Clear nameX [[cn c, cn (ascii "b")]] := by
    intro c hc rdn hrdn ava hava
    cases List.mem_singleton.mp hrdn
    have hmem : ∃ d ∈ [ascii "A", ascii "a", ascii "b"], ava = cn d := by
      simp only [List.mem_cons, List.not_mem_nil, or_false] at hc hava ⊢
      grind
    obtain ⟨d, hd, rfl⟩ := hmem
    exact not_ambiguous (hfree d hd).1 (hfree d hd).2
  have hA := hclear (ascii "A") (by simp)
  have ha := hclear (ascii "a") (by simp)
  have horder := (key_eq_iff nameX_sorts hA ha).mp (by decide +kernel)
  exact ⟨horder, (issuer_key_iff nameX_sorts rfl rfl hA ha).mpr fun _ => horder⟩

end Lota.L2.IssuerKey

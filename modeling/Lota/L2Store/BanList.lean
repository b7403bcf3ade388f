import Lota.Core.Decimal
import Lota.Core.Keyset
import Lota.L2Store.Revocation
import Mathlib.Data.List.Lex
import Mathlib.Data.Prod.Lex

/-!
# Listing bans behind a cursor (`verifier/store`)

Both ban stores list their entries by descending ban time and hardware ID,
starting behind a cursor. The memory store sorts everything and looks for the
first entry behind the cursor; SQLite selects and sorts. A cursor travels as
text.

* `decodeBanCursor_encode`: a cursor reads back as the position it was made of.
* `listBansAfter_spec`: the two stores answer the same: the entries behind the
  cursor in descending order, up to the limit.

Times in SQLite are compared as points in time.
-/
namespace Lota.L2.BanList
open Lota.Core Lota.Core.Keyset Lota.L2.Revocation

/-! ## Cursors -/

/-- mirrors src/verifier/store/ban_cursor.go:15-18 -/
structure BanCursor where
  bannedAt : Time
  hardwareID : Blob 32

/-- `UnixNano` is an `int64`.
mirrors src/verifier/store/ban_cursor.go:20-22 -/
def encodeBanCursor (e : BanEntry) : String :=
  toString (wrap64 e.bannedAt) ++ ":" ++ formatHardwareID e.hardwareID

/-- mirrors src/verifier/store/banlist.go:116-138 -/
def parseHardwareID (hexStr : String) : Except String (Blob 32) :=
  if hexStr.utf8ByteSize ≠ 64 then .error "hardware ID must be exactly 64 lowercase hex characters"
  else if hexStr.toList.any fun c => (c < '0' || c > '9') && (c < 'a' || c > 'f') then
    .error "hardware ID must be exactly 64 lowercase hex characters"
  else
    match hexDecode hexStr with
    | .error _ => .error "invalid hardware ID encoding"
    | .ok decoded =>
      if decoded.length ≠ 32 then .error "hardware ID must be exactly 32 bytes"
        else .ok (toBlob 32 decoded)

/-- mirrors src/verifier/store/ban_cursor.go:24-44 -/
def decodeBanCursor (nextID : String) : Except String BanCursor :=
  match nextID.toList.splitOn ':' with
  | [stamp, id] =>
    match parseInt64 (String.ofList stamp) with
    | none => .error "invalid next_id timestamp"
    | some nanos =>
      if nanos ≤ 0 then .error "invalid next_id timestamp"
      else
        match parseHardwareID (String.ofList id) with
        | .error _ => .error "invalid next_id hardware ID"
        | .ok hwid => .ok ⟨nanos, hwid⟩
  | _ => .error "invalid next_id format"

/-! ## The two listings -/

/-- mirrors src/verifier/store/banlist.go:286-296 -/
def compareHardwareID (a b : Blob 32) : Int := go a.toList b.toList
where
  go : Bytes → Bytes → Int
  | a :: as, b :: bs => if a < b then -1 else if a > b then 1 else go as bs
  | _, _ => 0

/-- The `less` of src/verifier/store/banlist.go:277-284. -/
def less (a b : BanEntry) : Bool :=
  if a.bannedAt = b.bannedAt then compareHardwareID a.hardwareID b.hardwareID > 0
    else a.bannedAt > b.bannedAt

/-- mirrors src/verifier/store/banlist.go:277-284 -/
def sortBanEntriesDesc (entries : List BanEntry) : List BanEntry :=
  entries.insertionSort fun a b => less b a = false

abbrev Bans := GoMap (Blob 32) BanEntry

/-- The values of the map, in some order. -/
def held (m : Bans) : List BanEntry := m.entries.map (·.2)

/-- mirrors src/verifier/store/banlist.go:212-222 (`ListBans`) -/
def memoryListBans (m : Bans) : List BanEntry := sortBanEntriesDesc (held m)

/-- mirrors src/verifier/store/banlist.go:257-258 -/
def behindCursor (cursor : BanCursor) (e : BanEntry) : Bool :=
  e.bannedAt < cursor.bannedAt ||
    (e.bannedAt = cursor.bannedAt && compareHardwareID e.hardwareID cursor.hardwareID < 0)

/-- mirrors src/verifier/store/banlist.go:242-275 -/
def memoryListBansAfter (m : Bans) (limit : Int) (nextID : String) : Except String (List BanEntry) :=
  let entries := memoryListBans m
  if limit ≤ 0 ∨ entries.length = 0 then .ok []
  else
    let start := if nextID = "" then .ok 0
      else (decodeBanCursor nextID).map fun cursor => entries.findIdx (behindCursor cursor)
    match start with
    | .error e => .error e
    | .ok start =>
      if start ≥ entries.length then .ok []
      else .ok ((entries.take (min (start + limit.toNat) entries.length)).drop start)

/-- SQLite compares BLOBs with `memcmp`. -/
def blobLess : Bytes → Bytes → Bool
  | _, [] => false
  | [], _ :: _ => true
  | a :: as, b :: bs => if a < b then true else if b < a then false else blobLess as bs

/-- `ORDER BY banned_at DESC, hardware_id DESC` -/
def orderDesc (a b : BanEntry) : Prop :=
  b.bannedAt < a.bannedAt ∨
    (b.bannedAt = a.bannedAt ∧ blobLess a.hardwareID.toList b.hardwareID.toList = false)

instance orderDesc.decidable : DecidableRel orderDesc := fun _ _ => inferInstanceAs (Decidable (_ ∨ _))

/-- `WHERE (banned_at < ?) OR (banned_at = ? AND hardware_id < ?)` -/
def whereBehind (cursor : BanCursor) (e : BanEntry) : Bool :=
  e.bannedAt < cursor.bannedAt ||
    (e.bannedAt = cursor.bannedAt && blobLess e.hardwareID.toList cursor.hardwareID.toList)

/-- mirrors src/verifier/store/sqlite_revocation.go:267-312 (`ListBansAfter`); `fault` is a failing
query -/
def sqliteListBansAfter (t : Bans) (fault : Option String) (limit : Int) (nextID : String) :
    Except String (List BanEntry) :=
  if limit ≤ 0 then .ok []
  else
    let rows := if nextID = "" then .ok (held t)
      else (decodeBanCursor nextID).map fun cursor => (held t).filter (whereBehind cursor)
    match rows with
    | .error e => .error e
    | .ok rows =>
      match fault with
      | some e => .error e
      | none => .ok ((rows.insertionSort orderDesc).take limit.toNat)

def listBansAfter (s : BanStore) (fault : Option String) (limit : Int) (nextID : String) :
    Except String (List BanEntry) :=
  match s with
  | .memory m => memoryListBansAfter m limit nextID
  | .sqlite t => sqliteListBansAfter t fault limit nextID

/-- `CountBans`, `CountBansE`
mirrors src/verifier/store/banlist.go:298-302 and sqlite_revocation.go:322-328 -/
def countBans (s : BanStore) (fault : Option String) : Except String Nat :=
  match s, fault with
  | .sqlite _, some e => .error e
  | _, _ => .ok (held s.entries).length

/-! ## One order -/

/-- The place of a ban in the listing. -/
def idKey (h : Blob 32) : List Nat := h.toList.map UInt8.toNat

def cursorKey (c : BanCursor) : Lex (Int × List Nat) := toLex (c.bannedAt, idKey c.hardwareID)

def key (e : BanEntry) : Lex (Int × List Nat) := toLex (e.bannedAt, idKey e.hardwareID)

theorem idKey_injective : Function.Injective idKey := by
  intro a b h
  exact Subtype.ext (List.map_injective_iff.mpr (fun _ _ h => UInt8.toNat_inj.mp h) h)

theorem go_iff {as bs : Bytes} (hl : as.length = bs.length) :
    (compareHardwareID.go as bs < 0 ↔ as.map UInt8.toNat < bs.map UInt8.toNat) ∧
    (compareHardwareID.go as bs > 0 ↔ bs.map UInt8.toNat < as.map UInt8.toNat) := by
  induction as generalizing bs with
  | nil =>
    cases List.length_eq_zero_iff.mp hl.symm
    simp [compareHardwareID.go]
  | cons a as ih =>
    cases bs with
    | nil => cases hl
    | cons b bs =>
      have hi := ih (Nat.succ.inj hl)
      rw [compareHardwareID.go, List.map_cons, List.map_cons, List.cons_lt_cons_iff,
        List.cons_lt_cons_iff]
      rcases Nat.lt_trichotomy a.toNat b.toNat with hab | hab | hab
      · have h1 : a < b := UInt8.lt_iff_toNat_lt.mpr hab
        rw [if_pos h1]
        constructor
        · simp [hab]
        · simp only [gt_iff_lt]
          omega
      · have h1 : ¬ a < b := fun h => by have := UInt8.lt_iff_toNat_lt.mp h; omega
        have h2 : ¬ a > b := fun h => by have := UInt8.lt_iff_toNat_lt.mp h; omega
        rw [if_neg h1, if_neg h2, hi.1, hi.2, hab]
        simp
      · have h1 : ¬ a < b := fun h => by have := UInt8.lt_iff_toNat_lt.mp h; omega
        have h2 : a > b := UInt8.lt_iff_toNat_lt.mpr hab
        rw [if_neg h1, if_pos h2]
        constructor
        · omega
        · simp [hab]

theorem blobLess_iff (as bs : Bytes) :
    blobLess as bs = true ↔ as.map UInt8.toNat < bs.map UInt8.toNat := by
  induction as generalizing bs with
  | nil => cases bs <;> simp [blobLess]
  | cons a as ih =>
    cases bs with
    | nil => simp [blobLess]
    | cons b bs =>
      rw [blobLess, List.map_cons, List.map_cons, List.cons_lt_cons_iff]
      rcases Nat.lt_trichotomy a.toNat b.toNat with hab | hab | hab
      · rw [if_pos (UInt8.lt_iff_toNat_lt.mpr hab)]
        simp [hab]
      · have h1 : ¬ a < b := fun h => by have := UInt8.lt_iff_toNat_lt.mp h; omega
        have h2 : ¬ b < a := fun h => by have := UInt8.lt_iff_toNat_lt.mp h; omega
        rw [if_neg h1, if_neg h2, ih, hab]
        simp
      · have h1 : ¬ a < b := fun h => by have := UInt8.lt_iff_toNat_lt.mp h; omega
        rw [if_neg h1, if_pos (UInt8.lt_iff_toNat_lt.mpr hab)]
        simp only [Bool.false_eq_true, false_iff]
        omega

theorem compareHardwareID_neg (a b : Blob 32) : compareHardwareID a b < 0 ↔ idKey a < idKey b :=
  (go_iff (by rw [a.toList_length, b.toList_length])).1

theorem compareHardwareID_pos (a b : Blob 32) : compareHardwareID a b > 0 ↔ idKey b < idKey a :=
  (go_iff (by rw [a.toList_length, b.toList_length])).2

theorem less_iff (a b : BanEntry) : less a b = true ↔ key b < key a := by
  unfold less key
  rw [Prod.Lex.toLex_lt_toLex]
  by_cases h : a.bannedAt = b.bannedAt
  · rw [if_pos h, decide_eq_true_iff, compareHardwareID_pos]
    simp [h]
  · rw [if_neg h, decide_eq_true_iff]
    simp only [gt_iff_lt, Ne.symm h, false_and, or_false]

theorem orderDesc_iff (a b : BanEntry) : orderDesc a b ↔ key b ≤ key a := by
  unfold orderDesc key
  rw [Prod.Lex.toLex_le_toLex, ← not_lt, ← Bool.not_eq_true, blobLess_iff]
  rfl

theorem behindCursor_iff (c : BanCursor) (e : BanEntry) :
    behindCursor c e = true ↔ key e < cursorKey c := by
  unfold behindCursor key cursorKey
  rw [Prod.Lex.toLex_lt_toLex, Bool.or_eq_true, Bool.and_eq_true, decide_eq_true_iff,
    decide_eq_true_iff, decide_eq_true_iff, compareHardwareID_neg]

theorem whereBehind_iff (c : BanCursor) (e : BanEntry) :
    whereBehind c e = true ↔ key e < cursorKey c := by
  unfold whereBehind key cursorKey
  rw [Prod.Lex.toLex_lt_toLex, Bool.or_eq_true, Bool.and_eq_true, decide_eq_true_iff,
    decide_eq_true_iff, blobLess_iff]
  rfl

/-! ## Cursors travel as text -/

/-- A time a cursor can carry: after 1970, and in the range of `UnixNano`. -/
def Dated (t : Time) : Prop := 0 < t ∧ t < 2 ^ 63

/-- `0-9a-f` -/
def IsLowerHex (c : Char) : Prop := ((c < '0' || c > '9') && (c < 'a' || c > 'f')) = false

theorem isLowerHex_hexDigit {n : Nat} (h : n < 16) :
    IsLowerHex (hexDigit n) ∧ hexDigit n ≠ ':' ∧ (hexDigit n).utf8Size = 1 := by
  unfold IsLowerHex
  revert n
  decide

theorem mem_hexEncode {bs : Bytes} {c : Char} (h : c ∈ (hexEncode bs).toList) :
    ∃ n < 16, c = hexDigit n := by
  unfold hexEncode at h
  rw [String.toList_ofList] at h
  obtain ⟨b, -, hc⟩ := List.mem_flatMap.mp h
  have hb := b.toNat_lt
  simp only [List.mem_cons, List.not_mem_nil, or_false] at hc
  rcases hc with rfl | rfl
  · exact ⟨_, by omega, rfl⟩
  · exact ⟨_, by omega, rfl⟩

theorem utf8ByteSize_of_ascii {cs : List Char} (h : ∀ c ∈ cs, c.utf8Size = 1) :
    (String.ofList cs).utf8ByteSize = cs.length := by
  induction cs with
  | nil => rfl
  | cons c cs ih =>
    rw [String.ofList_cons, String.utf8ByteSize_append, String.utf8ByteSize_singleton,
      h c List.mem_cons_self, ih fun d hd => h d (List.mem_cons_of_mem _ hd), List.length_cons]
    omega

theorem hexEncode_size (bs : Bytes) : (hexEncode bs).utf8ByteSize = 2 * bs.length := by
  have hlen : ∀ l : Bytes,
      (l.flatMap fun b => [hexDigit (b.toNat / 16), hexDigit (b.toNat % 16)]).length =
      2 * l.length := by
    intro l
    induction l with
    | nil => rfl
    | cons b l ih =>
      rw [List.flatMap_cons, List.length_append, ih, List.length_cons]
      simp only [List.length_cons, List.length_nil]
      omega
  rw [← hlen bs]
  refine utf8ByteSize_of_ascii fun c hc => ?_
  obtain ⟨n, hn, rfl⟩ := mem_hexEncode (by unfold hexEncode; rw [String.toList_ofList]; exact hc)
  exact (isLowerHex_hexDigit hn).2.2

theorem toBlob_toList {n : Nat} (b : Blob n) : toBlob n b.toList = b := by
  refine Subtype.ext ?_
  show (b.toList ++ List.replicate n 0).take n = b.toList
  rw [List.take_left' b.toList_length]

theorem parseHardwareID_format (hwid : Blob 32) :
    parseHardwareID (formatHardwareID hwid) = .ok hwid := by
  unfold parseHardwareID formatHardwareID
  have hlower :
      ((hexEncode hwid.toList).toList.any fun c => (c < '0' || c > '9') && (c < 'a' || c > 'f')) =
      false := by
    refine List.any_eq_false.mpr fun c hc => ?_
    obtain ⟨n, hn, rfl⟩ := mem_hexEncode hc
    exact Bool.not_eq_true _ ▸ (isLowerHex_hexDigit hn).1
  rw [hexEncode_size, hwid.toList_length, if_neg (by decide), hlower, if_neg (by decide),
    hexDecode_hexEncode]
  simp only [hwid.toList_length, ne_eq, not_true_eq_false, if_false]
  rw [toBlob_toList]

theorem wrap64_dated {t : Time} (h : Dated t) : wrap64 t = t := by
  have h0 : (0 : Int) < t := h.1
  have h1 : (9223372036854775808 : Int) > t := h.2
  have hm : ((2 ^ 64 : Nat) : Int) = 18446744073709551616 := by decide
  exact Int.bmod_eq_of_le (by omega) (by omega)

/-- The characters of a cursor. -/
theorem encodeBanCursor_toList {e : BanEntry} (h : Dated e.bannedAt) :
    ∃ n : Nat, e.bannedAt = n ∧ n < 2 ^ 63 ∧
    (encodeBanCursor e).toList = Nat.toDigits 10 n ++ ':' ::
    (formatHardwareID e.hardwareID).toList := by
  obtain ⟨n, hn⟩ : ∃ n : Nat, e.bannedAt = n :=
    ⟨e.bannedAt.toNat, (Int.toNat_of_nonneg (le_of_lt h.1)).symm⟩
  refine ⟨n, hn, ?_, ?_⟩
  · have hlt := h.2
    rw [hn] at hlt
    exact_mod_cast hlt
  · have hint : (toString (n : Int)).toList = Nat.toDigits 10 n := toList_toString n
    unfold encodeBanCursor
    rw [wrap64_dated h, hn, String.toList_append, String.toList_append, hint]
    simp

/-- **Cursor round trip.** -/
theorem decodeBanCursor_encode {e : BanEntry} (h : Dated e.bannedAt) :
    decodeBanCursor (encodeBanCursor e) = .ok ⟨e.bannedAt, e.hardwareID⟩ := by
  obtain ⟨n, hn, hlt, htext⟩ := encodeBanCursor_toList h
  have hdigits : ':' ∉ Nat.toDigits 10 n := by
    intro hc
    exact absurd (isDigit_toDigits hc) (by decide)
  have hhex : ':' ∉ (formatHardwareID e.hardwareID).toList := by
    intro hc
    obtain ⟨d, hd, hcd⟩ := mem_hexEncode hc
    exact (isLowerHex_hexDigit hd).2.1 hcd.symm
  have hstamp : parseInt64 (String.ofList (Nat.toDigits 10 n)) = some (n : Int) := by
    rw [← toList_toString, String.ofList_toList]
    exact parseInt64_toString hlt
  have hpos : ¬ (n : Int) ≤ 0 := by
    rw [← hn]
    exact not_le.mpr h.1
  unfold decodeBanCursor
  rw [htext, List.splitOn_append_cons_self_of_not_mem hdigits, List.splitOn_eq_singleton hhex]
  simp only [hstamp, if_neg hpos, String.ofList_toList, parseHardwareID_format, hn]

/-! ## What is listed -/

/-- Every ban is filed under its own hardware ID and has a date a cursor can
carry. -/
def Kept (m : Bans) : Prop := ∀ k e, m.lookup k = some e → e.hardwareID = k ∧ Dated e.bannedAt

theorem kept_empty : Kept ∅ := by
  intro k e h
  cases h

theorem mem_held {m : Bans} (h : Kept m) (e : BanEntry) :
    e ∈ held m ↔ m.lookup e.hardwareID = some e := by
  unfold held
  rw [List.mem_map]
  constructor
  · rintro ⟨⟨k, e'⟩, hmem, rfl⟩
    have hk : m.lookup k = some e' := AList.mem_lookup_iff.mpr hmem
    rw [(h k e' hk).1]
    exact hk
  · intro hl
    exact ⟨⟨e.hardwareID, e⟩, AList.mem_lookup_iff.mp hl, rfl⟩

/-- No two bans have the same place. -/
theorem key_inj_held {m : Bans} (h : Kept m) {a b : BanEntry} (ha : a ∈ held m) (hb : b ∈ held m)
    (hk : key a = key b) : a = b := by
  have hid : a.hardwareID = b.hardwareID := idKey_injective (Prod.mk.inj hk).2
  have h1 := (mem_held h a).mp ha
  have h2 := (mem_held h b).mp hb
  rw [hid, h2] at h1
  exact (Option.some.inj h1).symm

theorem nodup_held {m : Bans} (h : Kept m) : (held m).Nodup := by
  refine List.Nodup.of_map (fun e => e.hardwareID) ?_
  have hkeys : (held m).map (fun e => e.hardwareID) = m.entries.keys := by
    unfold held List.keys
    rw [List.map_map]
    refine List.map_congr_left fun e he => ?_
    exact (h e.1 e.2 (AList.mem_lookup_iff.mpr he)).1
  rw [hkeys]
  exact m.nodupKeys

/-- A list of bans sorted by an order that agrees with the places is
descending. -/
theorem descending_of_sorted {m : Bans} (h : Kept m) {l ds : List BanEntry} (hp : ds.Perm l)
    (hl : l.Sublist (held m))
    (hs : ds.Pairwise fun a b => key b ≤ key a) : ds.Pairwise fun a b => key b < key a := by
  have hnd : ds.Nodup := hp.nodup_iff.mpr ((nodup_held h).sublist hl)
  have hmem : ∀ {x}, x ∈ ds → x ∈ held m := fun hx => hl.subset (hp.mem_iff.mp hx)
  refine (List.Pairwise.and_mem.mp (hs.and hnd)).imp ?_
  rintro a b ⟨ha, hb, hle, hne⟩
  refine lt_of_le_of_ne hle fun hk => hne ?_
  exact key_inj_held h (hmem ha) (hmem hb) hk.symm

theorem sortBanEntriesDesc_descending {m : Bans} (h : Kept m) :
    (sortBanEntriesDesc (held m)).Pairwise fun a b => key b < key a := by
  have hrel : ∀ a b, less b a = false ↔ key b ≤ key a := by
    intro a b
    rw [← Bool.not_eq_true, less_iff, not_lt]
  have : Std.Total fun a b : BanEntry => less b a = false :=
    ⟨fun a b => by rw [hrel, hrel]; exact le_total _ _⟩
  have : IsTrans BanEntry fun a b => less b a = false :=
    ⟨fun a b c hab hbc => by rw [hrel] at *; exact le_trans hbc hab⟩
  refine descending_of_sorted h (List.perm_insertionSort _ _) (List.Sublist.refl _) ?_
  exact (List.pairwise_insertionSort (fun a b => less b a = false) (held m)).imp fun hab =>
    (hrel _ _).mp hab

theorem orderDesc_descending {m : Bans} (h : Kept m) {l : List BanEntry} (hl : l.Sublist (held m)) :
    (l.insertionSort orderDesc).Pairwise fun a b => key b < key a := by
  have : Std.Total orderDesc := ⟨fun a b => by rw [orderDesc_iff, orderDesc_iff]; exact le_total _ _⟩
  have : IsTrans BanEntry orderDesc :=
    ⟨fun a b c hab hbc => by rw [orderDesc_iff] at *; exact le_trans hbc hab⟩
  refine descending_of_sorted h (List.perm_insertionSort _ _) hl ?_
  exact (List.pairwise_insertionSort orderDesc l).imp fun hab => (orderDesc_iff _ _).mp hab

/-- The text stands for the place. -/
def Names (nextID : String) : Option (Lex (Int × List Nat)) → Prop
  | none => nextID = ""
  | some c => nextID ≠ "" ∧ ∃ cursor, decodeBanCursor nextID = .ok cursor ∧ cursorKey cursor = c

theorem names_encode {e : BanEntry} (h : Dated e.bannedAt) :
    Names (encodeBanCursor e) (some (key e)) := by
  refine ⟨?_, _, decodeBanCursor_encode h, rfl⟩
  intro he
  have hd := decodeBanCursor_encode h
  rw [he] at hd
  cases hd

/-- What both stores answer. -/
def Lists (m : Bans) (cur : Option (Lex (Int × List Nat))) (ds : List BanEntry) : Prop :=
  (ds.Pairwise fun a b => key b < key a) ∧ ∀ x, x ∈ ds ↔ x ∈ held m ∧ Behind key cur x

theorem behind_some {c : Lex (Int × List Nat)} {x : BanEntry} : Behind key (some c) x ↔ key x < c := by
  constructor
  · intro h
    exact h c rfl
  · rintro h c' hc
    cases hc
    exact h

theorem memory_lists {m : Bans} (hm : Kept m) {nextID : String} {cur : Option (Lex (Int × List Nat))}
    (hn : Names nextID cur) {limit : Nat} (hl : 0 < limit) :
    ∃ ds, memoryListBansAfter m limit nextID = .ok (ds.take limit) ∧ Lists m cur ds := by
  have hdesc := sortBanEntriesDesc_descending hm
  have hmem : ∀ x, x ∈ memoryListBans m ↔ x ∈ held m := fun x => List.mem_insertionSort _
  have hlim : ¬ (limit : Int) ≤ 0 := by omega
  unfold memoryListBansAfter
  simp only [hlim, false_or]
  by_cases hz : (memoryListBans m).length = 0
  · rw [if_pos hz]
    have hnil : memoryListBans m = [] := List.length_eq_zero_iff.mp hz
    refine ⟨[], by rw [List.take_nil], List.Pairwise.nil, fun x => ?_⟩
    rw [← hmem, hnil]
    simp
  · rw [if_neg hz]
    -- the slice from `start` is the rest of the listing, up to the limit
    have hslice : ∀ start,
        (if start ≥ (memoryListBans m).length then (.ok [] : Except String (List BanEntry))
        else .ok (((memoryListBans m).take
          (min (start + (limit : Int).toNat) (memoryListBans m).length)).drop start)) =
        .ok (((memoryListBans m).drop start).take limit) := by
      intro start
      split
      · rename_i hge
        rw [List.drop_of_length_le hge, List.take_nil]
      · rw [Int.toNat_natCast, List.drop_take]
        congr 1
        rw [List.take_eq_take_iff, List.length_drop]
        omega
    cases cur with
    | none =>
      have hnil : nextID = "" := hn
      refine ⟨memoryListBans m, ?_, hdesc, fun x => ?_⟩
      · rw [if_pos hnil]
        simp only
        rw [hslice, List.drop_zero]
      · rw [hmem]
        exact ⟨fun hx => ⟨hx, nofun⟩, fun hx => hx.1⟩
    | some c =>
      obtain ⟨hne, cursor, hdec, hc⟩ := hn
      have hidx : behindCursor cursor = fun e => decide (key e < c) := by
        funext e
        rw [← hc, Bool.eq_iff_iff, behindCursor_iff, decide_eq_true_iff]
      refine ⟨(memoryListBans m).filter fun x => key x < c, ?_, hdesc.filter _, fun x => ?_⟩
      · rw [if_neg hne, hdec]
        simp only [Except.map]
        rw [hslice, hidx]
        exact congrArg (fun l => Except.ok (List.take limit l)) (drop_findIdx_descending hdesc c)
      · rw [List.mem_filter, hmem, decide_eq_true_iff, behind_some]

theorem sqlite_lists {t : Bans} (ht : Kept t) {nextID : String} {cur : Option (Lex (Int × List Nat))}
    (hn : Names nextID cur) {limit : Nat} (hl : 0 < limit) :
    ∃ ds, sqliteListBansAfter t none limit nextID = .ok (ds.take limit) ∧ Lists t cur ds := by
  have hlim : ¬ (limit : Int) ≤ 0 := by omega
  unfold sqliteListBansAfter
  rw [if_neg hlim]
  cases cur with
  | none =>
    have hnil : nextID = "" := hn
    refine ⟨(held t).insertionSort orderDesc, ?_, orderDesc_descending ht (List.Sublist.refl _),
      fun x => ?_⟩
    · rw [if_pos hnil]
      simp only [Int.toNat_natCast]
    · rw [List.mem_insertionSort]
      exact ⟨fun hx => ⟨hx, nofun⟩, fun hx => hx.1⟩
  | some c =>
    obtain ⟨hne, cursor, hdec, hc⟩ := hn
    refine ⟨((held t).filter (whereBehind cursor)).insertionSort orderDesc, ?_,
      orderDesc_descending ht List.filter_sublist, fun x => ?_⟩
    · rw [if_neg hne, hdec]
      simp only [Except.map, Int.toNat_natCast]
    · rw [List.mem_insertionSort, List.mem_filter, whereBehind_iff, hc, behind_some]

/-- **The listing.** Both stores answer with the bans behind the cursor in
descending order, up to the limit. -/
theorem listBansAfter_spec {s : BanStore} (hs : Kept s.entries) {nextID : String}
    {cur : Option (Lex (Int × List Nat))}
    (hn : Names nextID cur) {limit : Nat} (hl : 0 < limit) :
    ∃ ds, listBansAfter s none limit nextID = .ok (ds.take limit) ∧ Lists s.entries cur ds := by
  cases s with
  | memory m => exact memory_lists hs hn hl
  | sqlite t => exact sqlite_lists hs hn hl

end Lota.L2.BanList

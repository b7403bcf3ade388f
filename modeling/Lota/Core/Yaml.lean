import Lota.Core.Decimal
import Lota.Core.Utf8

/-!
# A fragment of YAML

A block mapping whose values are double-quoted strings, booleans, empty
collections or block collections one level down, with comments and blank lines
between the entries. `readDocument` reads a text of the fragment, and nothing
on which the versions of YAML differ: it stops at control characters beyond
ASCII, at the line breaks that only YAML 1.1 knows, at the byte order mark, at
numbers that are not in their shortest form, and at keys that may be other
things than strings.

* `unescape_text`: a double-quoted scalar is read back.
* `readLine_entry`, `readLine_pair`, `readLine_item`: the lines of the fragment.
* `readDocument_lines`: a text of lines is read when its characters are
  portable and its lines are put together.
* `Conforms`, `reference_conforms`: what is asked of a parser, and that it can
  be met.
-/
namespace Lota.Core.Yaml

inductive Scalar where
  | str (s : String)
  | int (n : Int)
  | bool (b : Bool)
  deriving DecidableEq

inductive Node where
  | scalar (s : Scalar)
  | seq (xs : List Scalar)
  | map (kvs : List (Scalar × Scalar))
  deriving DecidableEq

abbrev Document := List (String × Node)

/-- The characters that stand for themselves, in quotes and in comments. -/
def portable (c : Char) : Bool :=
  (0x20 ≤ c.toNat && c.toNat ≤ 0x7E) ||
    (0xA0 ≤ c.toNat && c.toNat ≤ 0xD7FF && c.toNat != 0x2028 && c.toNat != 0x2029) ||
    (0xE000 ≤ c.toNat && c.toNat ≤ 0xFFFD && c.toNat != 0xFEFF) || 0x10000 ≤ c.toNat

/-! ## Double-quoted scalars -/

def escapeOf (e : Char) : Option Char :=
  match e with
  | '0' => some '\x00'
  | 'a' => some '\x07'
  | 'b' => some '\x08'
  | 't' => some '\t'
  | 'n' => some '\n'
  | 'v' => some '\x0b'
  | 'f' => some '\x0c'
  | 'r' => some '\r'
  | 'e' => some '\x1b'
  | ' ' => some ' '
  | '"' => some '"'
  | '\\' => some '\\'
  | 'N' => some '\u0085'
  | '_' => some '\u00a0'
  | 'L' => some '\u2028'
  | 'P' => some '\u2029'
  | _ => none

/-- A character by its number, and the length of the escape behind the
backslash. -/
def hexEscape (k : Nat) (cs : List Char) : Option (Char × Nat) :=
  if cs.length < k then none
  else ((cs.take k).mapM hexVal).bind fun ds =>
    let n := ds.foldl (fun n d => 16 * n + d) 0
    if n < 0xD800 ∨ (0xDFFF < n ∧ n < 0x110000) then some (Char.ofNat n, k + 1) else none

def escapeAt : List Char → Option (Char × Nat)
  | [] => none
  | e :: cs =>
    if e = 'x' then hexEscape 2 cs
    else if e = 'u' then hexEscape 4 cs
    else if e = 'U' then hexEscape 8 cs
    else (escapeOf e).map fun c => (c, 1)

/-- The text up to the closing quote, which ends the line, after the next
`skip` characters. -/
def unescape : Nat → List Char → Option (List Char)
  | _, [] => none
  | skip + 1, _ :: cs => unescape skip cs
  | 0, c :: cs =>
    if c = '"' then (if cs.isEmpty then some [] else none)
    else if c = '\\' then
      match escapeAt cs with
      | some (ch, size) => (unescape size cs).map (ch :: ·)
      | none => none
    else (unescape 0 cs).map (c :: ·)

/-- The spellings of a character in a double-quoted scalar. -/
inductive Spells (c : Char) : List Char → Prop
  | plain (hquote : c ≠ '"') (hescape : c ≠ '\\') : Spells c [c]
  | escape {es : List Char} (h : escapeAt es = some (c, es.length)) : Spells c ('\\' :: es)

/-- The spelling can be told by computation. -/
def spells (c : Char) : List Char → Bool
  | [] => false
  | [d] => d = c && c ≠ '"' && c ≠ '\\'
  | b :: es => b = '\\' && escapeAt es = some (c, es.length)

theorem spells_of_spells {c : Char} {es : List Char} (h : spells c es = true) : Spells c es := by
  unfold spells at h
  split at h
  · cases h
  · simp only [Bool.and_eq_true, decide_eq_true_eq] at h
    obtain ⟨⟨rfl, hquote⟩, hescape⟩ := h
    exact .plain hquote hescape
  · simp only [Bool.and_eq_true, decide_eq_true_eq] at h
    obtain ⟨rfl, hescape⟩ := h
    exact .escape hescape

theorem hexEscape_append {k : Nat} {cs : List Char} {r : Char × Nat} (h : hexEscape k cs = some r)
    (rest : List Char) : hexEscape k (cs ++ rest) = some r := by
  unfold hexEscape at h ⊢
  split at h
  · cases h
  · rw [if_neg (by rw [List.length_append]; omega), List.take_append_of_le_length (by omega)]
    exact h

theorem escapeAt_append {es : List Char} {r : Char × Nat} (h : escapeAt es = some r)
    (rest : List Char) : escapeAt (es ++ rest) = some r := by
  cases es with
  | nil => cases h
  | cons e es =>
    simp only [List.cons_append, escapeAt] at h ⊢
    split_ifs at h ⊢
    · exact hexEscape_append h rest
    · exact hexEscape_append h rest
    · exact hexEscape_append h rest
    · exact h

theorem unescape_skip (pre cs : List Char) : unescape pre.length (pre ++ cs) = unescape 0 cs := by
  induction pre with
  | nil => rfl
  | cons c pre ih => exact ih

/-- One character. -/
theorem unescape_spells {c : Char} {es : List Char} (h : Spells c es) (rest : List Char) :
    unescape 0 (es ++ rest) = (unescape 0 rest).map (c :: ·) := by
  cases h with
  | plain hquote hescape =>
    rw [List.singleton_append, unescape, if_neg hquote, if_neg hescape]
  | @escape es h =>
    rw [List.cons_append, unescape, if_neg (by decide), if_pos rfl, escapeAt_append h rest]
    simp only
    rw [unescape_skip]

/-- **Round trip.** A scalar in which every character is spelled out. -/
theorem unescape_text {f : Char → List Char} {cs : List Char} (h : ∀ c ∈ cs, Spells c (f c)) :
    unescape 0 (cs.flatMap f ++ ['"']) = some cs := by
  induction cs with
  | nil => rfl
  | cons c cs ih =>
    rw [List.flatMap_cons, List.append_assoc, unescape_spells (h c List.mem_cons_self),
      ih fun x hx => h x (List.mem_cons_of_mem c hx)]
    rfl

def readQuoted : List Char → Option Scalar
  | '"' :: cs => (unescape 0 cs).map fun text => .str (String.ofList text)
  | _ => none

theorem readQuoted_text {f : Char → List Char} {cs : List Char} (h : ∀ c ∈ cs, Spells c (f c)) :
    readQuoted ('"' :: (cs.flatMap f ++ ['"'])) = some (.str (String.ofList cs)) := by
  rw [readQuoted, unescape_text h]
  rfl

/-- Characters that stand for themselves. -/
theorem readQuoted_plain {cs : List Char} (h : ∀ c ∈ cs, c ≠ '"' ∧ c ≠ '\\') :
    readQuoted ('"' :: (cs ++ ['"'])) = some (.str (String.ofList cs)) := by
  have hread := readQuoted_text (f := fun c => [c]) fun c hc => .plain (h c hc).1 (h c hc).2
  rwa [List.flatMap_singleton'] at hread

/-! ## Lines -/

inductive Line where
  | blank
  | comment
  | opening (key : String)
  | entry (key : String) (node : Node)
  | item (x : Scalar)
  | pair (k v : Scalar)
  deriving DecidableEq

def keyChar (c : Char) : Bool := (97 ≤ c.toNat && c.toNat ≤ 122) || c.toNat == 95

/-- Words that are not strings, in one version or the other. -/
def reserved : List (List Char) :=
  ["true".toList, "false".toList, "null".toList, "yes".toList, "no".toList, "on".toList,
    "off".toList, "y".toList, "n".toList]

def readKey (cs : List Char) : Option String :=
  if !cs.isEmpty && cs.all keyChar && !reserved.contains cs then some (String.ofList cs) else none

/-- A number in its shortest form. -/
def readInt (cs : List Char) : Option Int :=
  let n : Option Int :=
    match cs with
    | '-' :: ds => (parseDec ds).map fun n => -(n : Int)
    | _ => (parseDec cs).map fun n => (n : Int)
  n.bind fun n => if (toString n).toList = cs then some n else none

def readValue (cs : List Char) : Option Node :=
  if cs = ['\x7b', '\x7d'] then some (.map [])
  else if cs = ['[', ']'] then some (.seq [])
  else if cs = ['t', 'r', 'u', 'e'] then some (.scalar (.bool true))
  else if cs = ['f', 'a', 'l', 's', 'e'] then some (.scalar (.bool false))
  else (readQuoted cs).map .scalar

def readEntry (cs : List Char) : Option Line :=
  (readKey (cs.takeWhile (· ≠ ':'))).bind fun key =>
    match cs.dropWhile (· ≠ ':') with
    | [_] => some (.opening key)
    | _ :: ' ' :: v => (readValue v).map (.entry key)
    | _ => none

def readPair (cs : List Char) : Option Line :=
  (readInt (cs.takeWhile (· ≠ ':'))).bind fun k =>
    match cs.dropWhile (· ≠ ':') with
    | _ :: ' ' :: v => (readQuoted v).map (.pair (.int k))
    | _ => none

def readLine : List Char → Option Line
  | [] => some .blank
  | '#' :: _ => some .comment
  | ' ' :: ' ' :: '-' :: ' ' :: v => (readQuoted v).map .item
  | ' ' :: ' ' :: cs => readPair cs
  | cs => readEntry cs

theorem takeWhile_colon {cs : List Char} (h : ':' ∉ cs) (v : List Char) :
    (cs ++ ':' :: v).takeWhile (· ≠ ':') = cs := by
  rw [List.takeWhile_append_of_pos]
  · simp
  · intro c hc
    simpa using fun heq : c = ':' => h (heq ▸ hc)

theorem dropWhile_colon {cs : List Char} (h : ':' ∉ cs) (v : List Char) :
    (cs ++ ':' :: v).dropWhile (· ≠ ':') = ':' :: v := by
  rw [List.dropWhile_append_of_pos]
  · simp
  · intro c hc
    simpa using fun heq : c = ':' => h (heq ▸ hc)

/-- A key is a word. -/
theorem readKey_ok {cs : List Char} {key : String} (h : readKey cs = some key) :
    cs ≠ [] ∧ (∀ c ∈ cs, keyChar c = true) ∧ key = String.ofList cs := by
  unfold readKey at h
  split at h
  next hkey =>
    simp only [Bool.and_eq_true, Bool.not_eq_true', List.isEmpty_eq_false_iff, List.all_eq_true] at hkey
    exact ⟨hkey.1.1, hkey.1.2, (Option.some.inj h).symm⟩
  · cases h

theorem colon_not_mem_key {cs : List Char} (h : ∀ c ∈ cs, keyChar c = true) : ':' ∉ cs := fun hmem =>
  absurd (h ':' hmem) (by decide)

/-- A line that starts with a key. -/
theorem readLine_key {cs : List Char} {key : String} (h : readKey cs = some key) (v : List Char) :
    readLine (cs ++ ':' :: v) = match ':' :: v with
      | [_] => some (.opening key)
      | _ :: ' ' :: v => (readValue v).map (.entry key)
      | _ => none := by
  obtain ⟨hne, hall, -⟩ := readKey_ok h
  have hentry : readLine (cs ++ ':' :: v) = readEntry (cs ++ ':' :: v) := by
    cases cs with
    | nil => exact absurd rfl hne
    | cons c cs =>
      have hc := hall c List.mem_cons_self
      rw [List.cons_append]
      unfold readLine
      split
      next heq => cases heq
      next heq =>
        rw [(List.cons.inj heq).1] at hc
        exact absurd hc (by decide)
      next heq =>
        rw [(List.cons.inj heq).1] at hc
        exact absurd hc (by decide)
      next heq =>
        rw [(List.cons.inj heq).1] at hc
        exact absurd hc (by decide)
      · rfl
  have hcolon := colon_not_mem_key hall
  rw [hentry]
  unfold readEntry
  rw [takeWhile_colon hcolon, dropWhile_colon hcolon, h]
  rfl

theorem readLine_opening {cs : List Char} {key : String} (h : readKey cs = some key) :
    readLine (cs ++ [':']) = some (.opening key) := readLine_key h []

theorem readLine_entry {cs v : List Char} {key : String} {node : Node} (h : readKey cs = some key)
    (hv : readValue v = some node) : readLine (cs ++ ':' :: ' ' :: v) = some (.entry key node) := by
  rw [readLine_key h (' ' :: v)]
  show (readValue v).map (Line.entry key) = _
  rw [hv]
  rfl

theorem readValue_quoted {cs : List Char} {x : Scalar} (h : readQuoted ('"' :: cs) = some x) :
    readValue ('"' :: cs) = some (.scalar x) := by
  have hne : ∀ {c : Char} {ds : List Char}, c ≠ '"' → '"' :: cs ≠ c :: ds :=
    fun hc heq => hc (List.cons.inj heq).1.symm
  unfold readValue
  rw [if_neg (hne (by decide)), if_neg (hne (by decide)), if_neg (hne (by decide)),
    if_neg (hne (by decide)), h]
  rfl

theorem readLine_item {v : List Char} {x : Scalar} (h : readQuoted v = some x) :
    readLine (' ' :: ' ' :: '-' :: ' ' :: v) = some (.item x) := by
  show (readQuoted v).map Line.item = _
  rw [h]
  rfl

/-! ## Numbers -/

theorem parseDec_toDigits (n : Nat) : parseDec (Nat.toDigits 10 n) = some n := by
  rw [parseDec, if_neg (toDigits_ne_nil n), readDec_toDigits]

theorem toList_toString_neg (n : Nat) :
    (toString (Int.negSucc n)).toList = '-' :: Nat.toDigits 10 (n + 1) := by
  show ("-" ++ Nat.repr (n + 1)).toList = _
  rw [String.toList_append, Nat.repr, String.toList_ofList, String.toList_ofList]
  rfl

theorem not_mem_toDigits {n : Nat} {c : Char} (h : c.isDigit = false) : c ∉ Nat.toDigits 10 n :=
  fun hmem => by
  rw [isDigit_toDigits hmem] at h
  cases h

theorem readInt_toString (n : Int) : readInt (toString n).toList = some n := by
  cases n with
  | ofNat m =>
    have htext : (toString (Int.ofNat m)).toList = Nat.toDigits 10 m := toList_toString m
    unfold readInt
    rw [htext]
    split
    next ds heq =>
      exact absurd (by rw [heq]; exact List.mem_cons_self)
        (not_mem_toDigits (n := m) (c := '-') (by decide))
    · rw [parseDec_toDigits]
      exact if_pos htext
  | negSucc m =>
    have htext := toList_toString_neg m
    unfold readInt
    rw [htext]
    simp only
    rw [parseDec_toDigits]
    exact if_pos htext

theorem readLine_pair (n : Int) {v : List Char} {x : Scalar} (h : readQuoted v = some x) :
    readLine (' ' :: ' ' :: ((toString n).toList ++ ':' :: ' ' :: v)) = some (.pair (.int n) x) := by
  have hcolon : ':' ∉ (toString n).toList := by
    cases n with
    | ofNat m =>
      rw [show (toString (Int.ofNat m)).toList = Nat.toDigits 10 m from toList_toString m]
      exact not_mem_toDigits (by decide)
    | negSucc m =>
      rw [toList_toString_neg]
      exact List.not_mem_cons_of_ne_of_not_mem (by decide) (not_mem_toDigits (by decide))
  have hpair : readLine (' ' :: ' ' :: ((toString n).toList ++ ':' :: ' ' :: v)) =
      readPair ((toString n).toList ++ ':' :: ' ' :: v) := by
    -- A dash and a space do not start a number.
    have hdash : ∀ w, (toString n).toList ++ ':' :: ' ' :: v ≠ '-' :: ' ' :: w := by
      intro w heq
      cases n with
      | ofNat m =>
        rw [show (toString (Int.ofNat m)).toList = Nat.toDigits 10 m from toList_toString m] at heq
        cases hd : Nat.toDigits 10 m with
        | nil => exact toDigits_ne_nil m hd
        | cons c ds =>
          rw [hd] at heq
          have hc : c = '-' := (List.cons.inj heq).1
          exact not_mem_toDigits (n := m) (c := '-') (by decide)
            (by rw [hd, hc]; exact List.mem_cons_self)
      | negSucc m =>
        rw [toList_toString_neg] at heq
        cases hd : Nat.toDigits 10 (m + 1) with
        | nil => exact toDigits_ne_nil (m + 1) hd
        | cons c ds =>
          rw [hd] at heq
          have hc : c = ' ' := (List.cons.inj (List.cons.inj heq).2).1
          exact not_mem_toDigits (n := m + 1) (c := ' ') (by decide)
            (by rw [hd, hc]; exact List.mem_cons_self)
    generalize (toString n).toList ++ ':' :: ' ' :: v = cs at hdash
    unfold readLine
    split
    next heq => cases heq
    next heq => exact absurd (List.cons.inj heq).1 (by decide)
    next w heq => exact absurd (List.cons.inj (List.cons.inj heq).2).2 (hdash w)
    next heq => rw [(List.cons.inj (List.cons.inj heq).2).2]
    next hno => exact absurd rfl (hno cs)
  rw [hpair]
  unfold readPair
  rw [takeWhile_colon hcolon, dropWhile_colon hcolon, readInt_toString]
  show (readQuoted v).map (Line.pair (.int n)) = _
  rw [h]
  rfl

/-! ## Documents -/

/-- Puts a line in front of the rest: the collection that is being read, and
the entries behind it. -/
def attach : Line → Option Node × Document → Option (Option Node × Document)
  | .blank, s => some s
  | .comment, s => some s
  | .entry key node, (none, doc) =>
    if key ∈ doc.map Prod.fst then none else some (none, (key, node) :: doc)
  | .opening key, (some node, doc) =>
    if key ∈ doc.map Prod.fst then none else some (none, (key, node) :: doc)
  | .item x, (none, doc) => some (some (.seq [x]), doc)
  | .item x, (some (.seq xs), doc) => some (some (.seq (x :: xs)), doc)
  | .pair k v, (none, doc) => some (some (.map [(k, v)]), doc)
  | .pair k v, (some (.map kvs), doc) =>
    if k ∈ kvs.map Prod.fst then none else some (some (.map ((k, v) :: kvs)), doc)
  | _, _ => none

def assemble : List Line → Option (Option Node × Document)
  | [] => some (none, [])
  | l :: ls => (assemble ls).bind (attach l)

/-- The entries, when there are some and nothing is left over. -/
def complete : Option (Option Node × Document) → Option Document
  | some (none, e :: doc) => some (e :: doc)
  | _ => none

def readDocument (cs : List Char) : Option Document :=
  if cs.all fun c => c = '\n' || portable c then
    complete (((cs.splitOnP fun c => c = '\n').mapM readLine).bind assemble)
  else none

def Line.significant : Line → Bool
  | .blank => false
  | .comment => false
  | _ => true

/-- Blank lines and comments do not matter. -/
theorem assemble_filter (ls : List Line) : assemble (ls.filter Line.significant) = assemble ls := by
  induction ls with
  | nil => rfl
  | cons l ls ih =>
    have htrivia : ∀ l : Line, l.significant = false → (assemble ls).bind (attach l) = assemble ls := by
      intro l hl
      cases l with
      | blank => cases assemble ls <;> rfl
      | comment => cases assemble ls <;> rfl
      | opening key => cases hl
      | entry key node => cases hl
      | item x => cases hl
      | pair k v => cases hl
    rw [List.filter_cons]
    split
    · rw [assemble, assemble, ih]
    next hl => rw [ih, assemble, htrivia l (Bool.eq_false_iff.mpr hl)]

section
variable {ls : List Line} {doc : Document}

theorem assemble_entry {key : String} {node : Node} (h : assemble ls = some (none, doc))
    (hkey : key ∉ doc.map Prod.fst) :
    assemble (.entry key node :: ls) = some (none, (key, node) :: doc) := by
  rw [assemble, h]
  exact if_neg hkey

theorem assemble_opening {key : String} {node : Node} (h : assemble ls = some (some node, doc))
    (hkey : key ∉ doc.map Prod.fst) :
    assemble (.opening key :: ls) = some (none, (key, node) :: doc) := by
  rw [assemble, h]
  exact if_neg hkey

theorem assemble_item (x : Scalar) (h : assemble ls = some (none, doc)) :
    assemble (.item x :: ls) = some (some (.seq [x]), doc) := by
  rw [assemble, h]
  rfl

/-- A block mapping is read when its keys are unique. -/
theorem assemble_pairs (kv : Scalar × Scalar) (kvs : List (Scalar × Scalar))
    (h : assemble ls = some (none, doc)) :
    assemble ((kv :: kvs).map (fun p => .pair p.1 p.2) ++ ls) =
      if ((kv :: kvs).map Prod.fst).Nodup then some (some (.map (kv :: kvs)), doc) else none := by
  induction kvs generalizing kv with
  | nil =>
    simp only [List.map_cons, List.map_nil, List.cons_append, List.nil_append, assemble, h]
    rw [if_pos (List.nodup_singleton _)]
    rfl
  | cons kv' kvs ih =>
    have hnodup : ((kv :: kv' :: kvs).map Prod.fst).Nodup ↔
        kv.1 ∉ (kv' :: kvs).map Prod.fst ∧ ((kv' :: kvs).map Prod.fst).Nodup := List.nodup_cons
    rw [List.map_cons, List.cons_append, assemble, ih kv']
    by_cases hrest : ((kv' :: kvs).map Prod.fst).Nodup
    · rw [if_pos hrest]
      show (if kv.1 ∈ (kv' :: kvs).map Prod.fst then none else _) = _
      by_cases hmem : kv.1 ∈ (kv' :: kvs).map Prod.fst
      · rw [if_pos hmem, if_neg fun hall => (hnodup.mp hall).1 hmem]
      · rw [if_neg hmem, if_pos (hnodup.mpr ⟨hmem, hrest⟩)]
    · rw [if_neg hrest, if_neg fun hall => hrest (hnodup.mp hall).2]
      rfl

end

section
variable {α : Type} {chars : α → List Char} {line : α → Line} {ls : List α}

theorem splitOnP_lines (hbreak : ∀ l ∈ ls, '\n' ∉ chars l) :
    (ls.flatMap fun l => chars l ++ ['\n']).splitOnP (fun c => c = '\n') = ls.map chars ++ [[]] := by
  induction ls with
  | nil => rfl
  | cons l ls ih =>
    have hl : ∀ c ∈ chars l, decide (c = '\n') = false := by
      intro c hc
      exact decide_eq_false fun heq => hbreak l List.mem_cons_self (heq ▸ hc)
    rw [List.flatMap_cons, List.append_assoc, List.singleton_append,
      List.splitOnP_append_cons (chars l) _ (decide_eq_true rfl), List.splitOnP_eq_singleton hl,
      ih fun m hm => hbreak m (List.mem_cons_of_mem l hm)]
    rfl

theorem mapM_readLine (hread : ∀ l ∈ ls, readLine (chars l) = some (line l)) :
    (ls.map chars ++ [[]]).mapM readLine = some (ls.map line ++ [.blank]) := by
  induction ls with
  | nil => rfl
  | cons l ls ih =>
    rw [List.map_cons, List.cons_append, List.mapM_cons, hread l List.mem_cons_self,
      ih fun m hm => hread m (List.mem_cons_of_mem l hm)]
    rfl

/-- **Lines.** A text of lines is read when its characters are portable and its
lines are put together. -/
theorem readDocument_lines (hread : ∀ l ∈ ls, readLine (chars l) = some (line l))
    (hbreak : ∀ l ∈ ls, '\n' ∉ chars l)
    {doc : Document} :
    readDocument (ls.flatMap fun l => chars l ++ ['\n']) = some doc ↔
      (∀ l ∈ ls, ∀ c ∈ chars l, portable c = true) ∧
        complete (assemble ((ls.map line).filter Line.significant)) = some doc := by
  have hall : ((ls.flatMap fun l => chars l ++ ['\n']).all fun c => c = '\n' || portable c) = true ↔
      ∀ l ∈ ls, ∀ c ∈ chars l, portable c = true := by
    simp only [List.all_eq_true, List.mem_flatMap, List.mem_append, List.mem_singleton,
      Bool.or_eq_true, decide_eq_true_eq]
    constructor
    · intro h l hl c hc
      exact (h c ⟨l, hl, .inl hc⟩).resolve_left fun heq => hbreak l hl (heq ▸ hc)
    · rintro h c ⟨l, hl, hc | rfl⟩
      · exact .inr (h l hl c hc)
      · exact .inl rfl
  have hlines : ((ls.flatMap fun l => chars l ++ ['\n']).splitOnP fun c => c = '\n').mapM readLine =
      some (ls.map line ++ [.blank]) := by
    rw [splitOnP_lines hbreak, mapM_readLine hread]
  have hblank : (ls.map line ++ [Line.blank]).filter Line.significant = (ls.map line).filter
      Line.significant := by
    rw [List.filter_append]
    exact List.append_nil _
  unfold readDocument
  rw [hlines, Option.bind_some, ← assemble_filter, hblank, Option.ite_none_right_eq_some, hall]

end

/-! ## Parsers -/

/-- A parser of UTF-8 text that reads the fragment. -/
structure Conforms (parse : Bytes → Option Document) : Prop where
  reads : ∀ cs doc, readDocument cs = some doc → parse (utf8 cs) = some doc
  rejects : ∀ bs, ¬ IsUtf8 bs → parse bs = none

open Classical in
/-- The parser that reads the fragment and nothing else. -/
noncomputable def reference (bs : Bytes) : Option Document :=
  if IsUtf8 bs then readDocument (decodeUtf8 bs) else none

theorem reference_utf8 (cs : List Char) : reference (utf8 cs) = readDocument cs := by
  unfold reference
  rw [if_pos ⟨cs, rfl⟩, decodeUtf8_utf8]

theorem reference_conforms : Conforms reference where
  reads cs _ h := (reference_utf8 cs).trans h
  rejects _ h := if_neg h

end Lota.Core.Yaml

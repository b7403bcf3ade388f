import Lota.Core.Yaml
import Lota.L2Store.BanList
import Lota.L3Verifier.LoadPolicy
import Lota.L5Enroll.WireC

/-!
# Policies that the agent writes (`agent/policy.c`)

`policy_emit` writes a snapshot of the system as a YAML file, for `LoadPolicy`
of the verifier. Strings are written between double quotes: quotes, backslashes
and control characters are escaped, and bytes from 0x80 on go out as they are.
So do the bytes of the strings that are written as comments.

A YAML file is UTF-8 text, so a snapshot with other strings is written as a
file that no parser reads. On some characters beyond ASCII the versions of YAML
differ. The parser is a parameter; all that is asked of it is that it reads the
fragment of `Core.Yaml` and refuses what is not UTF-8.

* `chars_spec`: the characters of a line, when its string is UTF-8.
* `isUtf8_emit`: the file is UTF-8 when its strings are.
* `readLine_chars`, `assemble_policy`: the lines are read back.
* `emitted_loads_iff`: when a written policy is read back and loaded.
* `invalid_name_lost`: a name that is not UTF-8.
-/
namespace Lota.L6.PolicyEmit
open Lota.Core Lota.Core.Yaml Lota.L3.Policy
open Lota.L5.Wire (cString)
open Lota.L2.BanList (mem_hexEncode)

/-! ## The snapshot -/

structure PcrEntry where
  index : Int
  value : Bytes
  valid : Bool

/-- The strings are arrays of `char`, and `pcrs` has the first `pcr_count`
elements.
mirrors src/agent/policy.h:48-79 -/
structure PolicySnapshot where
  name : Bytes
  description : Bytes
  hostname : Bytes
  timestamp : Bytes
  pcrs : List PcrEntry
  kernelPath : Bytes
  kernelHash : Bytes
  kernelHashValid : Bool
  agentPath : Bytes
  agentHash : Bytes
  agentHashValid : Bool
  iommuEnabled : Bool
  enforceMode : Bool
  moduleSig : Bool
  secureboot : Bool
  lockdown : Bool

/-- The PCRs that were read. -/
def PolicySnapshot.validPcrs (snap : PolicySnapshot) : List PcrEntry := snap.pcrs.filter PcrEntry.valid

/-! ## Writing -/

/-- mirrors src/agent/policy.c:33-37 -/
def emitHashHex (hash : Bytes) : Bytes := ascii (hexEncode hash)

/-- mirrors src/agent/policy.c:51-85 -/
def escapeByte (c : UInt8) : Bytes :=
  if c = 0x22 then ascii "\\\""
  else if c = 0x5c then ascii "\\\\"
  else if c = 0 then ascii "\\0"
  else if c = 0x07 then ascii "\\a"
  else if c = 0x08 then ascii "\\b"
  else if c = 0x09 then ascii "\\t"
  else if c = 0x0a then ascii "\\n"
  else if c = 0x0d then ascii "\\r"
  else if c = 0x1b then ascii "\\e"
  else if c < 0x20 ∨ c = 0x7f then ascii "\\x" ++ ascii (hexEncode [c])
  else [c]

/-- mirrors src/agent/policy.c:46-88 -/
def emitYamlString (s : Bytes) : Bytes := ascii "\"" ++ (cString s).flatMap escapeByte ++ ascii "\""

/-- mirrors src/agent/policy.c:94-98 -/
def commentByte (c : UInt8) : Bytes := if c < 0x20 ∨ c = 0x7f then ascii "?" else [c]

/-- mirrors src/agent/policy.c:90-101 -/
def emitYamlComment (label : String) (s : Bytes) : Bytes :=
  ascii ("# " ++ label ++ ": ") ++ (cString s).flatMap commentByte ++ ascii "\n"

/-- The lines that are written. -/
inductive Output where
  | blank
  | note (s : String)
  | comment (label : String) (s : Bytes)
  | string (key : String) (s : Bytes)
  | flag (key : String) (b : Bool)
  | emptyMap (key : String)
  | emptySeq (key : String)
  | opening (key : String)
  | pcr (index : Int) (value : Bytes)
  | hash (value : Bytes)

def Output.bytes : Output → Bytes
  | .blank => ascii "\n"
  | .note s => ascii s ++ ascii "\n"
  | .comment label s => emitYamlComment label s
  | .string key s => ascii key ++ ascii ": " ++ emitYamlString s ++ ascii "\n"
  | .flag key b => ascii key ++ ascii ": " ++ ascii (if b then "true" else "false") ++ ascii "\n"
  | .emptyMap key => ascii key ++ ascii ": \x7b\x7d\n"
  | .emptySeq key => ascii key ++ ascii ": []\n"
  | .opening key => ascii key ++ ascii ":\n"
  | .pcr index value => ascii "  " ++ ascii (toString index) ++ ascii ": \"" ++
    emitHashHex value ++ ascii "\"\n"
  | .hash value => ascii "  - \"" ++ emitHashHex value ++ ascii "\"\n"

/-- `if (s[0]) emit_yaml_comment(out, label, s)` -/
def commentLines (label : String) (s : Bytes) : List Output :=
  if cString s = [] then [] else [.comment label s]

/-- mirrors src/agent/policy.c:145-163 -/
def pcrLines (pcrs : List PcrEntry) : List Output :=
  if pcrs = [] then [.emptyMap "pcrs"] else .opening "pcrs" :: pcrs.map fun p => .pcr p.index p.value

/-- mirrors src/agent/policy.c:175-182 and 193-200 -/
def hashLines (key : String) (valid : Bool) (hash : Bytes) : List Output :=
  if valid then [.opening key, .hash hash] else [.emptySeq key]

/-- mirrors src/agent/policy.c:115-126 -/
def headerLines (snap : PolicySnapshot) : List Output :=
  List.flatten [
    [.note "# SPDX-License-Identifier: MIT",
      .note "# LOTA Policy - Auto-generated from live system", .note "#"],
    commentLines "Host" snap.hostname,
    commentLines "Date" snap.timestamp,
    [.note "# Generator: lota-agent --export-policy", .note "#",
      .note "# Review all values before production use.",
      .note "# Load with: lota-verifier --policy <this-file>", .blank]]

/-- mirrors src/agent/policy.c:208-219 -/
def requirementLines (snap : PolicySnapshot) : List Output :=
  [.note "# Security requirements (auto-detected from live system)",
    .flag "require_iommu" snap.iommuEnabled,
    .flag "require_enforce" snap.enforceMode,
    .flag "require_module_sig" snap.moduleSig,
    .flag "require_secureboot" snap.secureboot,
    .flag "require_lockdown" snap.lockdown]

/-- mirrors src/agent/policy.c:110-219 -/
def policyLines (snap : PolicySnapshot) : List Output :=
  List.flatten [
    headerLines snap,
    [.string "name" snap.name, .string "description" snap.description, .blank],
    [.note "# PCR values (SHA-256, hex-encoded)",
      .note "# Only listed PCRs are verified; others are ignored."],
    pcrLines snap.validPcrs,
    [.blank, .note "# Allowed measured-boot digests (kernel-relevant PCR, SHA-256)"],
    commentLines "Source" snap.kernelPath,
    hashLines "kernel_hashes" snap.kernelHashValid snap.kernelHash,
    [.blank, .note "# Allowed LOTA agent hashes (SHA-256)"],
    commentLines "Source" snap.agentPath,
    hashLines "agent_hashes" snap.agentHashValid snap.agentHash,
    [.blank],
    requirementLines snap]

/-- The text that is written to a stream that takes it.
mirrors src/agent/policy.c:103-225 -/
def policyEmit (snap : PolicySnapshot) : Bytes := (policyLines snap).flatMap Output.bytes

/-! ## The shape of a line -/

/-- What is written in front of the string of a line, and behind it. -/
def Output.before : Output → String
  | .blank => ""
  | .note s => s
  | .comment label _ => "# " ++ label ++ ": "
  | .string key _ => key ++ ": \""
  | .flag key b => key ++ ": " ++ (if b then "true" else "false")
  | .emptyMap key => key ++ ": \x7b\x7d"
  | .emptySeq key => key ++ ": []"
  | .opening key => key ++ ":"
  | .pcr index value => "  " ++ toString index ++ ": \"" ++ hexEncode value ++ "\""
  | .hash value => "  - \"" ++ hexEncode value ++ "\""

def Output.behind : Output → String
  | .string _ _ => "\""
  | _ => ""

def Output.text : Output → Bytes
  | .comment _ s => cString s
  | .string _ s => cString s
  | _ => []

def Output.replace : Output → UInt8 → Bytes
  | .comment _ _ => commentByte
  | _ => escapeByte

theorem ascii_append (s t : String) : ascii (s ++ t) = ascii s ++ ascii t := by
  unfold ascii
  rw [String.toList_append, List.map_append]

theorem bytes_eq (o : Output) :
    o.bytes = ascii o.before ++ (o.text.flatMap o.replace ++ (ascii o.behind ++ ascii "\n")) := by
  have hmap : ascii ": \x7b\x7d\n" = ascii ": \x7b\x7d" ++ ascii "\n" := by decide +kernel
  have hseq : ascii ": []\n" = ascii ": []" ++ ascii "\n" := by decide +kernel
  have hcolon : ascii ":\n" = ascii ":" ++ ascii "\n" := by decide +kernel
  have hquote : ascii "\"\n" = ascii "\"" ++ ascii "\n" := by decide +kernel
  have hstring : ascii ": \"" = ascii ": " ++ ascii "\"" := by decide +kernel
  have hempty : ascii "" = [] := rfl
  cases o with
  | blank => rfl
  | note s => rfl
  | comment label s =>
    simp only [Output.bytes, emitYamlComment, Output.before, Output.text, Output.replace,
      Output.behind, hempty, List.append_assoc, List.nil_append]
  | string key s =>
    simp only [Output.bytes, emitYamlString, Output.before, Output.text, Output.replace,
      Output.behind, ascii_append, hstring, List.append_assoc]
  | flag key b => simp [Output.bytes, Output.before, Output.text, Output.behind, ascii_append, hempty]
  | emptyMap key =>
    simp [Output.bytes, Output.before, Output.text, Output.behind, ascii_append, hempty, hmap]
  | emptySeq key =>
    simp [Output.bytes, Output.before, Output.text, Output.behind, ascii_append, hempty, hseq]
  | opening key =>
    simp [Output.bytes, Output.before, Output.text, Output.behind, ascii_append, hempty, hcolon]
  | pcr index value =>
    simp [Output.bytes, emitHashHex, Output.before, Output.text, Output.behind, ascii_append,
      hempty, hquote]
  | hash value =>
    simp [Output.bytes, emitHashHex, Output.before, Output.text, Output.behind, ascii_append,
      hempty, hquote]

/-! ## Characters -/

def Printable (cs : List Char) : Prop := ∀ c ∈ cs, 0x20 ≤ c.toNat ∧ c.toNat ≤ 0x7E

theorem printable_of_all {cs : List Char}
    (h : (cs.all fun c => 0x20 ≤ c.toNat && c.toNat ≤ 0x7E) = true) : Printable cs := by
  intro c hc
  simpa using List.all_eq_true.mp h c hc

theorem printable_append {cs ds : List Char} : Printable (cs ++ ds) ↔ Printable cs ∧ Printable ds :=
  List.forall_mem_append

def isNote (s : String) : Bool :=
  s.toList.head? = some '#' && s.toList.all fun c => 0x20 ≤ c.toNat && c.toNat ≤ 0x7E

theorem isNote_spec {s : String} (h : isNote s = true) :
    s.toList.head? = some '#' ∧ Printable s.toList := by
  unfold isNote at h
  rw [Bool.and_eq_true, decide_eq_true_eq] at h
  exact ⟨h.1, printable_of_all h.2⟩

/-- What is asked of the texts of the source. -/
def Output.Fixed : Output → Prop
  | .note s => isNote s = true
  | .comment label _ => Printable label.toList
  | .string key _ => readKey key.toList = some key
  | .flag key _ => readKey key.toList = some key
  | .emptyMap key => readKey key.toList = some key
  | .emptySeq key => readKey key.toList = some key
  | .opening key => readKey key.toList = some key
  | _ => True

theorem printable_key {cs : List Char} {key : String} (h : readKey cs = some key) : Printable cs := by
  intro c hc
  have hkey := (readKey_ok h).2.1 c hc
  simp only [keyChar, Bool.or_eq_true, Bool.and_eq_true, decide_eq_true_eq, beq_iff_eq] at hkey
  omega

theorem printable_hexEncode (bs : Bytes) : Printable (hexEncode bs).toList := by
  intro c hc
  have hdigit : ∀ n < 16, 0x20 ≤ (hexDigit n).toNat ∧ (hexDigit n).toNat ≤ 0x7E := by decide
  obtain ⟨n, hn, rfl⟩ := mem_hexEncode hc
  exact hdigit n hn

theorem printable_toString (n : Int) : Printable (toString n).toList := by
  have hdigits : ∀ m, Printable (Nat.toDigits 10 m) := by
    intro m c hc
    have hdigit := isDigit_toDigits hc
    simp only [Char.isDigit, Bool.and_eq_true, decide_eq_true_eq, ge_iff_le] at hdigit
    have hlo : 48 ≤ c.toNat := hdigit.1
    have hhi : c.toNat ≤ 57 := hdigit.2
    omega
  cases n with
  | ofNat m =>
    rw [show (toString (Int.ofNat m)).toList = Nat.toDigits 10 m from toList_toString m]
    exact hdigits m
  | negSucc m =>
    rw [toList_toString_neg]
    exact List.forall_mem_cons.mpr ⟨by decide, hdigits _⟩

theorem printable_before {o : Output} (h : o.Fixed) : Printable o.before.toList := by
  cases o with
  | blank => exact printable_of_all rfl
  | note s => exact (isNote_spec h).2
  | comment label s =>
    simp only [Output.before, String.toList_append, printable_append]
    exact ⟨⟨printable_of_all (by decide +kernel), h⟩, printable_of_all (by decide +kernel)⟩
  | string key s =>
    simp only [Output.before, String.toList_append, printable_append]
    exact ⟨printable_key h, printable_of_all (by decide +kernel)⟩
  | flag key b =>
    simp only [Output.before, String.toList_append, printable_append]
    refine ⟨⟨printable_key h, printable_of_all (by decide +kernel)⟩, ?_⟩
    cases b with
    | false => exact printable_of_all (by decide +kernel)
    | true => exact printable_of_all (by decide +kernel)
  | emptyMap key =>
    simp only [Output.before, String.toList_append, printable_append]
    exact ⟨printable_key h, printable_of_all (by decide +kernel)⟩
  | emptySeq key =>
    simp only [Output.before, String.toList_append, printable_append]
    exact ⟨printable_key h, printable_of_all (by decide +kernel)⟩
  | opening key =>
    simp only [Output.before, String.toList_append, printable_append]
    exact ⟨printable_key h, printable_of_all (by decide +kernel)⟩
  | pcr index value =>
    simp only [Output.before, String.toList_append, printable_append]
    exact ⟨⟨⟨⟨printable_of_all (by decide +kernel), printable_toString index⟩,
      printable_of_all (by decide +kernel)⟩, printable_hexEncode value⟩,
      printable_of_all (by decide +kernel)⟩
  | hash value =>
    simp only [Output.before, String.toList_append, printable_append]
    exact ⟨⟨printable_of_all (by decide +kernel), printable_hexEncode value⟩,
      printable_of_all (by decide +kernel)⟩

theorem printable_behind (o : Output) : Printable o.behind.toList := by
  unfold Output.behind
  split
  · exact printable_of_all (by decide +kernel)
  · exact printable_of_all rfl

/-- Control characters are replaced by printable text. -/
structure Cleans (f : UInt8 → Bytes) : Prop extends AsciiMap f where
  printable : ∀ b, b.toNat < 0x80 → ∀ x ∈ f b, 0x20 ≤ x.toNat ∧ x.toNat ≤ 0x7E

theorem cleans_of_table {f : UInt8 → Bytes}
    (h : ∀ n < 0x80, (f (UInt8.ofNat n)).isEmpty = false ∧
      (f (UInt8.ofNat n)).all (fun x => 0x20 ≤ x.toNat && x.toNat ≤ 0x7E) = true)
    (hwide : ∀ b, 0x80 ≤ b.toNat → f b = [b]) : Cleans f := by
  have hbyte : ∀ b : UInt8, b.toNat < 0x80 → f b ≠ [] ∧ ∀ x ∈ f b, 0x20 ≤ x.toNat ∧ x.toNat ≤ 0x7E := by
    intro b hb
    have hb' := h b.toNat hb
    rw [UInt8.ofNat_toNat] at hb'
    exact ⟨List.isEmpty_eq_false_iff.mp hb'.1,
      fun x hx => by simpa using List.all_eq_true.mp hb'.2 x hx⟩
  refine ⟨⟨fun b hb => (hbyte b hb).1, fun b hb x hx => ?_, hwide⟩, fun b hb => (hbyte b hb).2⟩
  have := (hbyte b hb).2 x hx
  omega

theorem cleans_escapeByte : Cleans escapeByte := by
  refine cleans_of_table (by decide +kernel) fun b hb => ?_
  have hne : ∀ x : UInt8, x.toNat < 0x80 → b ≠ x := by
    rintro x hx rfl
    omega
  have hctl : ¬ (b < 0x20 ∨ b = 0x7f) := by
    rintro (hlt | heq)
    · have : b.toNat < 0x20 := hlt
      omega
    · exact hne 0x7f (by decide) heq
  unfold escapeByte
  rw [if_neg (hne _ (by decide)), if_neg (hne _ (by decide)), if_neg (hne _ (by decide)),
    if_neg (hne _ (by decide)),
    if_neg (hne _ (by decide)), if_neg (hne _ (by decide)), if_neg (hne _ (by decide)),
    if_neg (hne _ (by decide)), if_neg (hne _ (by decide)), if_neg hctl]

theorem cleans_commentByte : Cleans commentByte := by
  refine cleans_of_table (by decide +kernel) fun b hb => if_neg ?_
  rintro (hlt | heq)
  · have : b.toNat < 0x20 := hlt
    omega
  · rw [heq] at hb
    exact absurd hb (by decide)

theorem cleans_replace (o : Output) : Cleans o.replace := by
  cases o with
  | comment label s => exact cleans_commentByte
  | _ => exact cleans_escapeByte

/-- The characters of a line, without the line break. -/
noncomputable def Output.chars (o : Output) : List Char :=
  o.before.toList ++ ((decodeUtf8 o.text).flatMap (onChars o.replace) ++ o.behind.toList)

theorem ascii_printable {s : String} (h : Printable s.toList) : ascii s = utf8 s.toList :=
  ascii_eq_utf8 fun c hc => by have := h c hc; omega

/-- **Line.** -/
theorem chars_spec {o : Output} (h : o.Fixed) (htext : IsUtf8 o.text) :
    o.bytes = utf8 (o.chars ++ ['\n']) := by
  have hmap := flatMap_utf8 (cleans_replace o).toAsciiMap (decodeUtf8 o.text)
  rw [utf8_decodeUtf8 htext] at hmap
  have hnl : ascii "\n" = utf8 ['\n'] := by decide +kernel
  rw [bytes_eq, ascii_printable (printable_before h), ascii_printable (printable_behind o), hmap, hnl]
  simp only [Output.chars, utf8_append, List.append_assoc]

theorem mem_ascii {s : String} (h : Printable s.toList) {b : UInt8} (hb : b ∈ ascii s) :
    b.toNat < 0x80 := by
  obtain ⟨c, hc, rfl⟩ := List.mem_map.mp hb
  have hprint := h c hc
  rw [toNat_ofNat_ascii (by omega)]
  omega

theorem isUtf8_bytes {o : Output} (h : o.Fixed) (rest : Bytes) :
    IsUtf8 (o.bytes ++ rest) ↔ IsUtf8 o.text ∧ IsUtf8 rest := by
  have hbehind : ∀ b ∈ ascii o.behind ++ ascii "\n", b.toNat < 0x80 := by
    intro b hb
    rcases List.mem_append.mp hb with hb | hb
    · exact mem_ascii (printable_behind o) hb
    · obtain rfl : b = 10 := by simpa [ascii] using hb
      decide
  rw [bytes_eq, List.append_assoc, List.append_assoc,
    isUtf8_ascii_append fun b => mem_ascii (printable_before h),
    isUtf8_ascii_cut (List.append_ne_nil_of_right_ne_nil _ (by decide +kernel)) hbehind,
    isUtf8_flatMap (cleans_replace o).toAsciiMap]

/-- The lines are UTF-8 when their strings are. -/
theorem isUtf8_lines {ls : List Output} (h : ∀ o ∈ ls, o.Fixed) :
    IsUtf8 (ls.flatMap Output.bytes) ↔ ∀ o ∈ ls, IsUtf8 o.text := by
  induction ls with
  | nil => exact ⟨fun _ _ hmem => absurd hmem List.not_mem_nil, fun _ => isUtf8_nil⟩
  | cons o ls ih =>
    rw [List.flatMap_cons, isUtf8_bytes (h o List.mem_cons_self),
      ih fun x hx => h x (List.mem_cons_of_mem o hx), List.forall_mem_cons]

theorem lines_chars {ls : List Output} (h : ∀ o ∈ ls, o.Fixed) (htext : ∀ o ∈ ls, IsUtf8 o.text) :
    ls.flatMap Output.bytes = utf8 (ls.flatMap fun o => o.chars ++ ['\n']) := by
  induction ls with
  | nil => rfl
  | cons o ls ih =>
    rw [List.flatMap_cons, List.flatMap_cons, utf8_append,
      chars_spec (h o List.mem_cons_self) (htext o List.mem_cons_self),
      ih (fun x hx => h x (List.mem_cons_of_mem o hx)) fun x hx => htext x (List.mem_cons_of_mem o hx)]

/-- A character of a line is printable ASCII, or stands in its string. -/
theorem mem_chars {o : Output} (h : o.Fixed) {c : Char} (hc : c ∈ o.chars) :
    (0x20 ≤ c.toNat ∧ c.toNat ≤ 0x7E) ∨ (0x80 ≤ c.toNat ∧ c ∈ decodeUtf8 o.text) := by
  rcases List.mem_append.mp hc with hc | hc
  · exact .inl (printable_before h c hc)
  rcases List.mem_append.mp hc with hc | hc
  · obtain ⟨d, hd, hcd⟩ := List.mem_flatMap.mp hc
    unfold onChars at hcd
    split at hcd
    next hascii =>
      have hbyte : (UInt8.ofNat d.toNat).toNat < 0x80 := by
        rw [toNat_ofNat_ascii hascii]
        exact hascii
      obtain ⟨x, hx, rfl⟩ := List.mem_map.mp hcd
      have hprint := (cleans_replace o).printable _ hbyte x hx
      rw [toNat_charOfNat (by omega)]
      exact .inl hprint
    next hwide =>
      rw [List.mem_singleton.mp hcd]
      exact .inr ⟨by omega, hd⟩
  · exact .inl (printable_behind o c hc)

theorem break_not_mem_chars {o : Output} (h : o.Fixed) : '\n' ∉ o.chars := by
  intro hmem
  have hval : ('\n' : Char).toNat = 10 := rfl
  rcases mem_chars h hmem with hprint | ⟨hwide, -⟩
  · omega
  · omega

/-- UTF-8 text of characters that stand for themselves in every YAML. -/
def PortableText (bs : Bytes) : Prop :=
  ∃ cs, bs = utf8 cs ∧ ∀ c ∈ cs, 0x80 ≤ c.toNat → portable c = true

theorem portable_chars {o : Output} (h : o.Fixed) (htext : IsUtf8 o.text) :
    (∀ c ∈ o.chars, portable c = true) ↔ PortableText o.text := by
  constructor
  · intro hall
    refine ⟨decodeUtf8 o.text, (utf8_decodeUtf8 htext).symm, fun c hc hwide => hall c ?_⟩
    refine List.mem_append_right _ (List.mem_append_left _ (List.mem_flatMap.mpr ⟨c, hc, ?_⟩))
    rw [onChars, if_neg (by omega)]
    exact List.mem_singleton_self c
  · rintro ⟨cs, hcs, hport⟩ c hc
    rcases mem_chars h hc with hprint | ⟨hwide, hmem⟩
    · simp [portable, hprint.1, hprint.2]
    · rw [hcs, decodeUtf8_utf8] at hmem
      exact hport c hmem hwide

/-! ## Reading the lines back -/

/-- What a parser finds in a line. -/
noncomputable def Output.line : Output → Line
  | .blank => .blank
  | .note _ => .comment
  | .comment _ _ => .comment
  | .string key s => .entry key (.scalar (.str (String.ofList (decodeUtf8 (cString s)))))
  | .flag key b => .entry key (.scalar (.bool b))
  | .emptyMap key => .entry key (.map [])
  | .emptySeq key => .entry key (.seq [])
  | .opening key => .opening key
  | .pcr index value => .pair (.int index) (.str (hexEncode value))
  | .hash value => .item (.str (hexEncode value))

/-- **Round trip of the escapes.** -/
theorem spells_escapeByte (c : Char) : Spells c (onChars escapeByte c) := by
  by_cases hc : c.toNat < 0x80
  · have htable : ∀ n < 0x80, spells (Char.ofNat n) (onChars escapeByte (Char.ofNat n)) = true := by
      decide +kernel
    have hspells := htable c.toNat hc
    rw [Char.ofNat_toNat] at hspells
    exact spells_of_spells hspells
  · have hne : ∀ d : Char, d.toNat < 0x80 → c ≠ d := by
      rintro d hd rfl
      exact hc hd
    rw [onChars, if_neg hc]
    exact .plain (hne _ (by decide)) (hne _ (by decide))

theorem readQuoted_hex (bs : Bytes) :
    readQuoted ('"' :: ((hexEncode bs).toList ++ ['"'])) = some (.str (hexEncode bs)) := by
  have hdigit : ∀ n < 16, hexDigit n ≠ '"' ∧ hexDigit n ≠ '\\' := by decide
  have hplain : ∀ c ∈ (hexEncode bs).toList, c ≠ '"' ∧ c ≠ '\\' := by
    intro c hc
    obtain ⟨n, hn, rfl⟩ := mem_hexEncode hc
    exact hdigit n hn
  rw [readQuoted_plain hplain, String.ofList_toList]

theorem readLine_chars {o : Output} (h : o.Fixed) : readLine o.chars = some o.line := by
  have hcolon : (": " : String).toList = [':', ' '] := by decide +kernel
  have hstring : (": \"" : String).toList = [':', ' ', '"'] := by decide +kernel
  have hquote : ("\"" : String).toList = ['"'] := by decide +kernel
  have hnil : decodeUtf8 [] = [] := decodeUtf8_utf8 []
  -- A line without a string is its fixed part.
  have hfixed : o.text = [] → o.behind = "" → o.chars = o.before.toList := by
    intro ht hb
    rw [Output.chars, ht, hb, hnil]
    exact List.append_nil _
  cases o with
  | blank => rw [hfixed rfl rfl]; rfl
  | note s =>
    rw [hfixed rfl rfl]
    show readLine s.toList = some .comment
    obtain ⟨hhead, -⟩ := isNote_spec h
    cases hs : s.toList with
    | nil => rw [hs] at hhead; cases hhead
    | cons c cs =>
      rw [hs] at hhead
      cases hhead
      rfl
  | comment label s =>
    have hhash : ("# " : String).toList = ['#', ' '] := by decide +kernel
    simp only [Output.chars, Output.before, String.toList_append, hhash, List.cons_append]
    rfl
  | string key s =>
    have hquoted := @readQuoted_text (onChars escapeByte) (decodeUtf8 (cString s)) fun c _ =>
      spells_escapeByte c
    have hread := readLine_entry h (readValue_quoted hquoted)
    simp only [Output.chars, Output.before, Output.text, Output.replace, Output.behind,
      String.toList_append, hstring, hquote, List.append_assoc, List.cons_append, List.nil_append]
    exact hread
  | flag key b =>
    have hvalue : readValue (if b then "true" else "false" : String).toList =
        some (.scalar (.bool b)) := by
      cases b with
      | false => decide +kernel
      | true => decide +kernel
    have hread := readLine_entry h hvalue
    rw [hfixed rfl rfl]
    simp only [Output.before, String.toList_append, hcolon, List.append_assoc, List.cons_append,
      List.nil_append]
    exact hread
  | emptyMap key =>
    have hmap : (": \x7b\x7d" : String).toList = [':', ' ', '\x7b', '\x7d'] := by decide +kernel
    rw [hfixed rfl rfl]
    simp only [Output.before, String.toList_append, hmap]
    exact readLine_entry h rfl
  | emptySeq key =>
    have hseq : (": []" : String).toList = [':', ' ', '[', ']'] := by decide +kernel
    rw [hfixed rfl rfl]
    simp only [Output.before, String.toList_append, hseq]
    exact readLine_entry h rfl
  | opening key =>
    have hopen : (":" : String).toList = [':'] := by decide +kernel
    rw [hfixed rfl rfl]
    simp only [Output.before, String.toList_append, hopen]
    exact readLine_opening h
  | pcr index value =>
    have hindent : ("  " : String).toList = [' ', ' '] := by decide +kernel
    rw [hfixed rfl rfl]
    simp only [Output.before, String.toList_append, hindent, hstring, hquote, List.append_assoc,
      List.cons_append, List.nil_append]
    exact readLine_pair index (readQuoted_hex value)
  | hash value =>
    have hdash : ("  - \"" : String).toList = [' ', ' ', '-', ' ', '"'] := by decide +kernel
    rw [hfixed rfl rfl]
    simp only [Output.before, String.toList_append, hdash, hquote, List.cons_append, List.nil_append]
    exact readLine_item (readQuoted_hex value)

/-! ## The document -/

theorem fixed_note {s : String} (h : isNote s = true) : (Output.note s).Fixed := h

theorem fixed_commentLines {label : String} (h : Printable label.toList) (s : Bytes) :
    ∀ o ∈ commentLines label s, o.Fixed := by
  unfold commentLines
  split
  · exact List.forall_mem_nil _
  · exact List.forall_mem_singleton.mpr h

theorem fixed_pcrLines (pcrs : List PcrEntry) : ∀ o ∈ pcrLines pcrs, o.Fixed := by
  have hkey : readKey ("pcrs" : String).toList = some "pcrs" := by decide +kernel
  unfold pcrLines
  split
  · exact List.forall_mem_singleton.mpr hkey
  · refine List.forall_mem_cons.mpr ⟨hkey, fun o ho => ?_⟩
    obtain ⟨p, -, rfl⟩ := List.mem_map.mp ho
    trivial

theorem fixed_hashLines {key : String} (h : readKey key.toList = some key) (valid : Bool)
    (hash : Bytes) : ∀ o ∈ hashLines key valid hash, o.Fixed := by
  unfold hashLines
  split
  · exact List.forall_mem_cons.mpr ⟨h, List.forall_mem_singleton.mpr trivial⟩
  · exact List.forall_mem_singleton.mpr h

theorem fixed_string {key : String} (h : readKey key.toList = some key) (s : Bytes) :
    (Output.string key s).Fixed := h

theorem fixed_flag {key : String} (h : readKey key.toList = some key) (b : Bool) :
    (Output.flag key b).Fixed := h

theorem fixed_lines (snap : PolicySnapshot) : ∀ o ∈ policyLines snap, o.Fixed := by
  unfold policyLines headerLines requirementLines
  simp only [List.flatten_cons, List.flatten_nil, List.forall_mem_append, List.forall_mem_cons]
  and_intros
  all_goals first
    | exact List.forall_mem_nil _
    | exact fixed_pcrLines _
    | exact trivial
    | (refine fixed_note ?_; decide +kernel)
    | (refine fixed_string ?_ _; decide +kernel)
    | (refine fixed_flag ?_ _; decide +kernel)
    | (refine fixed_commentLines (printable_of_all ?_) _; decide +kernel)
    | (refine fixed_hashLines ?_ _ _; decide +kernel)

/-- The strings that are written. -/
def PolicySnapshot.strings (snap : PolicySnapshot) : List Bytes :=
  [snap.name, snap.description, snap.hostname, snap.timestamp, snap.kernelPath, snap.agentPath]

/-- A property of the empty text holds of the strings of the lines when it holds
of the strings of the snapshot. -/
theorem forall_text {P : Bytes → Prop} (hnil : P []) (snap : PolicySnapshot) :
    (∀ o ∈ policyLines snap, P o.text) ↔ ∀ s ∈ snap.strings, P (cString s) := by
  have hcomment : ∀ label s, (∀ o ∈ commentLines label s, P o.text) ↔ P (cString s) := by
    intro label s
    unfold commentLines
    split
    next hs =>
      rw [hs]
      exact iff_of_true (List.forall_mem_nil _) hnil
    · exact List.forall_mem_singleton
  have hpcrs : ∀ o ∈ pcrLines snap.validPcrs, P o.text := by
    unfold pcrLines
    split
    · exact List.forall_mem_singleton.mpr hnil
    · refine List.forall_mem_cons.mpr ⟨hnil, fun o ho => ?_⟩
      obtain ⟨p, -, rfl⟩ := List.mem_map.mp ho
      exact hnil
  have hhashes : ∀ key valid hash, ∀ o ∈ hashLines key valid hash, P o.text := by
    intro key valid hash
    unfold hashLines
    split
    · exact List.forall_mem_cons.mpr ⟨hnil, List.forall_mem_singleton.mpr hnil⟩
    · exact List.forall_mem_singleton.mpr hnil
  unfold policyLines headerLines requirementLines PolicySnapshot.strings
  simp only [List.flatten_cons, List.flatten_nil, List.forall_mem_append, List.forall_mem_cons,
    hcomment, iff_true_intro hpcrs, iff_true_intro (hhashes _ _ _)]
  simp only [Output.text, hnil, true_and]
  tauto

def pcrPairs (pcrs : List PcrEntry) : List (Scalar × Scalar) :=
  pcrs.map fun p => (.int p.index, .str (hexEncode p.value))

def hashSeq (valid : Bool) (hash : Bytes) : List Scalar := if valid then [.str (hexEncode hash)] else []

noncomputable def stringNode (s : Bytes) : Node :=
  .scalar (.str (String.ofList (decodeUtf8 (cString s))))

/-- What a snapshot is as a document. -/
noncomputable def policyDocument (snap : PolicySnapshot) : Document :=
  [("name", stringNode snap.name), ("description", stringNode snap.description),
    ("pcrs", .map (pcrPairs snap.validPcrs)),
    ("kernel_hashes", .seq (hashSeq snap.kernelHashValid snap.kernelHash)),
    ("agent_hashes", .seq (hashSeq snap.agentHashValid snap.agentHash)),
    ("require_iommu", .scalar (.bool snap.iommuEnabled)),
    ("require_enforce", .scalar (.bool snap.enforceMode)),
    ("require_module_sig", .scalar (.bool snap.moduleSig)),
    ("require_secureboot", .scalar (.bool snap.secureboot)),
    ("require_lockdown", .scalar (.bool snap.lockdown))]

theorem significant_lines (snap : PolicySnapshot) :
    ((policyLines snap).map Output.line).filter Line.significant =
      [.entry "name" (stringNode snap.name), .entry "description" (stringNode snap.description)] ++
        ((pcrLines snap.validPcrs).map Output.line ++
          ((hashLines "kernel_hashes" snap.kernelHashValid snap.kernelHash).map Output.line ++
            ((hashLines "agent_hashes" snap.agentHashValid snap.agentHash).map Output.line ++
              [.entry "require_iommu" (.scalar (.bool snap.iommuEnabled)),
                .entry "require_enforce" (.scalar (.bool snap.enforceMode)),
                .entry "require_module_sig" (.scalar (.bool snap.moduleSig)),
                .entry "require_secureboot" (.scalar (.bool snap.secureboot)),
                .entry "require_lockdown" (.scalar (.bool snap.lockdown))]))) := by
  have hcomment : ∀ label s, ((commentLines label s).map Output.line).filter Line.significant = [] := by
    intro label s
    unfold commentLines
    split <;> rfl
  have hpcrs : ((pcrLines snap.validPcrs).map Output.line).filter Line.significant =
      (pcrLines snap.validPcrs).map Output.line := by
    unfold pcrLines
    split
    · rfl
    · refine List.filter_eq_self.mpr (List.forall_mem_map.mpr (List.forall_mem_cons.mpr ⟨rfl, ?_⟩))
      exact List.forall_mem_map.mpr fun _ _ => rfl
  have hhashes : ∀ key valid hash, ((hashLines key valid hash).map Output.line).filter
      Line.significant = (hashLines key valid hash).map Output.line := by
    intro key valid hash
    unfold hashLines
    split <;> rfl
  unfold policyLines headerLines requirementLines
  simp only [List.flatten_cons, List.flatten_nil, List.map_append, List.filter_append, hcomment,
    hpcrs, hhashes]
  rfl

section
variable {ls : List Line} {doc : Document}

theorem assemble_pcrLines (pcrs : List PcrEntry) (h : assemble ls = some (none, doc))
    (hkey : "pcrs" ∉ doc.map Prod.fst) : assemble ((pcrLines pcrs).map Output.line ++ ls) =
      if (pcrs.map PcrEntry.index).Nodup then some (none, ("pcrs", .map (pcrPairs pcrs)) :: doc)
        else none := by
  cases pcrs with
  | nil => exact assemble_entry h hkey
  | cons p pcrs =>
    have hlines : (pcrLines (p :: pcrs)).map Output.line = .opening "pcrs" ::
        (pcrPairs (p :: pcrs)).map fun kv => .pair kv.1 kv.2 := by
      unfold pcrLines pcrPairs
      rw [if_neg (List.cons_ne_nil _ _), List.map_cons, List.map_map, List.map_map]
      rfl
    have hkeys : ((pcrPairs (p :: pcrs)).map Prod.fst).Nodup ↔
        ((p :: pcrs).map PcrEntry.index).Nodup := by
      have hmap : (pcrPairs (p :: pcrs)).map Prod.fst = ((p :: pcrs).map PcrEntry.index).map
          Scalar.int := by
        unfold pcrPairs
        rw [List.map_map, List.map_map]
        rfl
      rw [hmap]
      exact List.nodup_map_iff fun _ _ => Scalar.int.inj
    have hpairs : assemble ((pcrPairs (p :: pcrs)).map (fun kv => .pair kv.1 kv.2) ++ ls) =
        if ((pcrPairs (p :: pcrs)).map Prod.fst).Nodup
          then some (some (.map (pcrPairs (p :: pcrs))), doc) else none :=
      assemble_pairs (.int p.index, .str (hexEncode p.value)) (pcrPairs pcrs) h
    by_cases hnodup : ((p :: pcrs).map PcrEntry.index).Nodup
    · rw [if_pos (hkeys.mpr hnodup)] at hpairs
      rw [if_pos hnodup, hlines, List.cons_append]
      exact assemble_opening hpairs hkey
    · rw [if_neg (mt hkeys.mp hnodup)] at hpairs
      rw [if_neg hnodup, hlines, List.cons_append, assemble]
      exact congrArg (Option.bind · _) hpairs

theorem assemble_hashLines (key : String) (valid : Bool) (hash : Bytes)
    (h : assemble ls = some (none, doc))
    (hkey : key ∉ doc.map Prod.fst) :
    assemble ((hashLines key valid hash).map Output.line ++ ls) =
    some (none, (key, .seq (hashSeq valid hash)) :: doc) := by
  cases valid with
  | false => exact assemble_entry h hkey
  | true => exact assemble_opening (assemble_item (.str (hexEncode hash)) h) hkey

end

/-- **The lines together.** -/
theorem assemble_policy (snap : PolicySnapshot) :
    assemble (((policyLines snap).map Output.line).filter Line.significant) =
      if (snap.validPcrs.map PcrEntry.index).Nodup then some (none, policyDocument snap) else none := by
  have hflags : assemble [.entry "require_iommu" (.scalar (.bool snap.iommuEnabled)),
      .entry "require_enforce" (.scalar (.bool snap.enforceMode)),
      .entry "require_module_sig" (.scalar (.bool snap.moduleSig)),
      .entry "require_secureboot" (.scalar (.bool snap.secureboot)),
      .entry "require_lockdown" (.scalar (.bool snap.lockdown))] =
      some (none, (policyDocument snap).drop 5) := by
    refine assemble_entry
      (assemble_entry (assemble_entry (assemble_entry (assemble_entry rfl ?_) ?_) ?_) ?_) ?_
    all_goals simp
  have hagent :=
    assemble_hashLines "agent_hashes" snap.agentHashValid snap.agentHash hflags
      (by simp [policyDocument])
  have hkernel :=
    assemble_hashLines "kernel_hashes" snap.kernelHashValid snap.kernelHash hagent
      (by simp [policyDocument])
  have hpcrs := assemble_pcrLines snap.validPcrs hkernel (by simp [policyDocument])
  rw [significant_lines, List.cons_append, List.cons_append, List.nil_append]
  by_cases hnodup : (snap.validPcrs.map PcrEntry.index).Nodup
  · rw [if_pos hnodup] at hpcrs ⊢
    exact assemble_entry (assemble_entry hpcrs (by simp)) (by simp)
  · rw [if_neg hnodup] at hpcrs ⊢
    rw [assemble, assemble, hpcrs]
    rfl

/-- The characters of the file. -/
noncomputable def policyChars (snap : PolicySnapshot) : List Char :=
  (policyLines snap).flatMap fun o => o.chars ++ ['\n']

theorem isUtf8_emit (snap : PolicySnapshot) :
    IsUtf8 (policyEmit snap) ↔ ∀ s ∈ snap.strings, IsUtf8 (cString s) :=
  (isUtf8_lines (fixed_lines snap)).trans (forall_text isUtf8_nil snap)

theorem portableText_isUtf8 {bs : Bytes} (h : PortableText bs) : IsUtf8 bs := by
  obtain ⟨cs, hcs, -⟩ := h
  exact ⟨cs, hcs⟩

/-- **The file read back.** -/
theorem readDocument_policyChars {snap : PolicySnapshot}
    (h : ∀ s ∈ snap.strings, IsUtf8 (cString s)) {doc : Document} :
    readDocument (policyChars snap) = some doc ↔
      (∀ s ∈ snap.strings, PortableText (cString s)) ∧ (snap.validPcrs.map PcrEntry.index).Nodup ∧
      doc = policyDocument snap := by
  have htext := (forall_text isUtf8_nil snap).mpr h
  have hportable : (∀ o ∈ policyLines snap, ∀ c ∈ o.chars, portable c = true) ↔
      ∀ s ∈ snap.strings, PortableText (cString s) := by
    rw [← forall_text ⟨[], rfl, List.forall_mem_nil _⟩ snap]
    exact forall₂_congr fun o ho => portable_chars (fixed_lines snap o ho) (htext o ho)
  unfold policyChars
  rw [readDocument_lines (fun o ho => readLine_chars (fixed_lines snap o ho))
    (fun o ho => break_not_mem_chars (fixed_lines snap o ho)), assemble_policy, hportable]
  refine and_congr_right fun _ => ?_
  by_cases hnodup : (snap.validPcrs.map PcrEntry.index).Nodup
  · rw [if_pos hnodup]
    show some (policyDocument snap) = some doc ↔ _
    rw [Option.some.injEq, eq_comm]
    exact (and_iff_right hnodup).symm
  · rw [if_neg hnodup]
    exact iff_of_false nofun fun hand => hnodup hand.1

/-! ## Loading -/

def asString : Scalar → Option String
  | .str s => some s
  | _ => none

def asPair : Scalar × Scalar → Option (Int × String)
  | (.int k, .str v) => some (k, v)
  | _ => none

def goMap (kvs : List (Int × String)) : GoMap Int String := kvs.foldr (fun kv m => m.insert kv.1 kv.2) ∅

section
variable (doc : Document) (key : String)

/-- A field of a struct by its tag: zero when the key is missing. Of nodes of
another kind nothing is said. -/
def stringField : Option String :=
  match doc.lookup key with
  | none => some ""
  | some (.scalar x) => asString x
  | _ => none

def boolField : Option Bool :=
  match doc.lookup key with
  | none => some false
  | some (.scalar (.bool b)) => some b
  | _ => none

def listField : Option (List String) :=
  match doc.lookup key with
  | none => some []
  | some (.seq xs) => xs.mapM asString
  | _ => none

def mapField : Option (GoMap Int String) :=
  match doc.lookup key with
  | none => some ∅
  | some (.map kvs) => (kvs.mapM asPair).map goMap
  | _ => none

end

/-- The struct of a document, by the tags.
mirrors src/verifier/verify/pcr.go:24-55 -/
def decodePolicy (doc : Document) : Option PCRPolicy := do
  let name ← stringField doc "name"
  let description ← stringField doc "description"
  let pcrs ← mapField doc "pcrs"
  let kernelHashes ← listField doc "kernel_hashes"
  let agentHashes ← listField doc "agent_hashes"
  let requireIOMMU ← boolField doc "require_iommu"
  let requireEnforce ← boolField doc "require_enforce"
  let requireModuleSig ← boolField doc "require_module_sig"
  let requireSecureBoot ← boolField doc "require_secureboot"
  let requireLockdown ← boolField doc "require_lockdown"
  some { name, description, pcrs, kernelHashes, agentHashes, requireIOMMU, requireEnforce,
         requireModuleSig, requireSecureBoot, requireLockdown }

/-- `yaml.Unmarshal` as a parser of documents and the tags of the struct. -/
structure Unmarshals (L : PolicyLib) (parse : Bytes → Option Document) :
    Prop extends Conforms parse where
  decodes : ∀ bs doc policy, parse bs = some doc → decodePolicy doc = some policy →
    L.unmarshal bs = .ok policy
  malformed : ∀ bs, parse bs = none → ∃ e, L.unmarshal bs = .error e

/-- The snapshot measures something. -/
def PolicySnapshot.Measured (snap : PolicySnapshot) : Prop :=
  snap.validPcrs ≠ [] ∨ snap.kernelHashValid = true ∨ snap.agentHashValid = true

/-- The document has what the snapshot has. -/
structure SameDocument (snap : PolicySnapshot) (doc : Document) : Prop where
  name : ∃ s : String, doc.lookup "name" = some (.scalar (.str s)) ∧ utf8 s.toList = cString snap.name
  description : ∃ s : String, doc.lookup "description" = some (.scalar (.str s)) ∧
    utf8 s.toList = cString snap.description
  pcrs : doc.lookup "pcrs" = some (.map (pcrPairs snap.validPcrs))
  kernelHashes : doc.lookup "kernel_hashes" = some (.seq (hashSeq snap.kernelHashValid snap.kernelHash))
  agentHashes : doc.lookup "agent_hashes" = some (.seq (hashSeq snap.agentHashValid snap.agentHash))

/-- The file is read back, and a verifier without a key loads it. -/
structure LoadsWith (L : PolicyLib) (parse : Bytes → Option Document) (snap : PolicySnapshot) :
    Prop where
  document : ∃ doc, parse (policyEmit snap) = some doc ∧ SameDocument snap doc
  accepted : ∀ (v : PolicyLoader) (reads : Reads), v.policyPubKey = none →
    reads.first = .ok (policyEmit snap) → (v.loadPolicy L reads).result = .ok ()

def LoadsBack (snap : PolicySnapshot) : Prop := ∀ L parse, Unmarshals L parse → LoadsWith L parse snap

/-- The strings are text that every YAML reads alike, and the PCRs are distinct
and exist. -/
structure PolicySnapshot.Portable (snap : PolicySnapshot) : Prop where
  strings : ∀ s ∈ snap.strings, PortableText (cString s)
  distinct : (snap.validPcrs.map PcrEntry.index).Nodup
  indices : ∀ p ∈ snap.validPcrs, ValidIndex p.index

noncomputable def policyOf (snap : PolicySnapshot) : PCRPolicy where
  name := String.ofList (decodeUtf8 (cString snap.name))
  description := String.ofList (decodeUtf8 (cString snap.description))
  pcrs := goMap (snap.validPcrs.map fun p => (p.index, hexEncode p.value))
  kernelHashes := if snap.kernelHashValid then [hexEncode snap.kernelHash] else []
  agentHashes := if snap.agentHashValid then [hexEncode snap.agentHash] else []
  requireIOMMU := snap.iommuEnabled
  requireEnforce := snap.enforceMode
  requireModuleSig := snap.moduleSig
  requireSecureBoot := snap.secureboot
  requireLockdown := snap.lockdown

theorem mapM_asPair (pcrs : List PcrEntry) :
    (pcrPairs pcrs).mapM asPair = some (pcrs.map fun p => (p.index, hexEncode p.value)) := by
  induction pcrs with
  | nil => rfl
  | cons p pcrs ih =>
    have hcons : pcrPairs (p :: pcrs) = (.int p.index, .str (hexEncode p.value)) :: pcrPairs pcrs := rfl
    rw [hcons, List.mapM_cons, ih]
    rfl

theorem mapM_asString (valid : Bool) (hash : Bytes) :
    (hashSeq valid hash).mapM asString = some (if valid then [hexEncode hash] else []) := by
  cases valid with
  | false => rfl
  | true => rfl

theorem sameDocument {snap : PolicySnapshot} (h : ∀ s ∈ snap.strings, IsUtf8 (cString s)) :
    SameDocument snap (policyDocument snap) where
  name := ⟨_, rfl,
    by rw [String.toList_ofList, utf8_decodeUtf8 (h _ (by simp [PolicySnapshot.strings]))]⟩
  description :=
    ⟨_, rfl, by rw [String.toList_ofList, utf8_decodeUtf8 (h _ (by simp [PolicySnapshot.strings]))]⟩
  pcrs := rfl
  kernelHashes := rfl
  agentHashes := rfl

theorem decodePolicy_policyDocument (snap : PolicySnapshot) :
    decodePolicy (policyDocument snap) = some (policyOf snap) := by
  have hpcrs : mapField (policyDocument snap) "pcrs" = some (policyOf snap).pcrs := by
    show ((pcrPairs snap.validPcrs).mapM asPair).map goMap = _
    rw [mapM_asPair]
    rfl
  have hkernel : listField (policyDocument snap) "kernel_hashes" = some (policyOf snap).kernelHashes :=
    mapM_asString snap.kernelHashValid snap.kernelHash
  have hagent : listField (policyDocument snap) "agent_hashes" = some (policyOf snap).agentHashes :=
    mapM_asString snap.agentHashValid snap.agentHash
  unfold decodePolicy
  rw [hpcrs, hkernel, hagent]
  rfl

/-- A verifier without a key loads what it can parse and admits. -/
theorem loadPolicy_unsigned {L : PolicyLib} {v : PolicyLoader} {reads : Reads} {data : Bytes}
    (hkey : v.policyPubKey = none)
    (hf : reads.first = .ok data) :
    (v.loadPolicy L reads).result = .ok () ↔ ∃ policy, Admissible L v data policy := by
  have hsig : v.checkSignature L reads = (.ok (), []) := by
    unfold PolicyLoader.checkSignature
    rw [hkey]
  unfold PolicyLoader.loadPolicy
  simp only [hf, hsig]
  cases hi : v.install L data with
  | error e =>
    refine iff_of_false nofun ?_
    rintro ⟨policy, ha⟩
    cases hi.symm.trans (install_ok_iff.mpr ⟨policy, ha, rfl⟩)
  | ok v' =>
    obtain ⟨policy, ha, -⟩ := install_ok_iff.mp hi
    exact iff_of_true rfl ⟨policy, ha⟩

theorem mem_goMap {kvs : List (Int × String)} {k : Int} :
    k ∈ (goMap kvs).keys ↔ k ∈ kvs.map Prod.fst := by
  induction kvs with
  | nil => exact Iff.rfl
  | cons kv kvs ih =>
    have hinsert : k ∈ (goMap kvs).insert kv.1 kv.2 ↔ k = kv.1 ∨ k ∈ goMap kvs := AList.mem_insert _
    show k ∈ (goMap kvs).insert kv.1 kv.2 ↔ _
    rw [hinsert, List.map_cons, List.mem_cons]
    exact or_congr_right ih

theorem validatePolicyPCRIndices_ok {policy : PCRPolicy} :
    policy.validatePolicyPCRIndices = .ok () ↔ ∀ k ∈ policy.pcrs.keys, ValidIndex k := by
  unfold PCRPolicy.validatePolicyPCRIndices
  cases hfind : policy.pcrs.keys.find? fun pcrIdx => ¬ ValidIndex pcrIdx with
  | none =>
    refine iff_of_true rfl fun k hk => ?_
    simpa using List.find?_eq_none.mp hfind k hk
  | some k =>
    have hbad : ¬ ValidIndex k := by simpa using List.find?_some hfind
    exact iff_of_false nofun fun hall => hbad (hall k (List.mem_of_find?_eq_some hfind))

section
variable {snap : PolicySnapshot}

theorem indices_policyOf : (policyOf snap).validatePolicyPCRIndices = .ok () ↔ ∀ p ∈ snap.validPcrs,
    ValidIndex p.index := by
  rw [validatePolicyPCRIndices_ok]
  constructor
  · intro h p hp
    exact h p.index (mem_goMap.mpr (List.mem_map.mpr ⟨_, List.mem_map.mpr ⟨p, hp, rfl⟩, rfl⟩))
  · intro h k hk
    obtain ⟨kv, hkv, rfl⟩ := List.mem_map.mp (mem_goMap.mp hk)
    obtain ⟨p, hp, rfl⟩ := List.mem_map.mp hkv
    exact h p hp

theorem measured_policyOf (h : snap.Measured) : isMeasurementEmptyPolicy (policyOf snap) = false := by
  rw [isMeasurementEmptyPolicy, decide_eq_false_iff_not]
  rintro ⟨hpcrs, hkernel, hagent⟩
  rcases h with hvalid | hvalid | hvalid
  · obtain ⟨p, hp⟩ := List.exists_mem_of_ne_nil _ hvalid
    have hmem : p.index ∈ (policyOf snap).pcrs.keys :=
      mem_goMap.mpr (List.mem_map.mpr ⟨_, List.mem_map.mpr ⟨p, hp, rfl⟩, rfl⟩)
    rw [List.length_eq_zero_iff.mp hpcrs] at hmem
    cases hmem
  · simp [policyOf, hvalid] at hkernel
  · simp [policyOf, hvalid] at hagent

theorem emit_chars (h : ∀ s ∈ snap.strings, IsUtf8 (cString s)) :
    policyEmit snap = utf8 (policyChars snap) :=
  lines_chars (fixed_lines snap) ((forall_text isUtf8_nil snap).mpr h)

/-- **Loaded.** -/
theorem loadsBack_of_portable (hmeasured : snap.Measured) (h : snap.Portable) : LoadsBack snap := by
  intro L parse hL
  have htext : ∀ s ∈ snap.strings, IsUtf8 (cString s) :=
    fun s hs => portableText_isUtf8 (h.strings s hs)
  have hdoc : parse (policyEmit snap) = some (policyDocument snap) := by
    rw [emit_chars htext]
    exact hL.reads _ _ ((readDocument_policyChars htext).mpr ⟨h.strings, h.distinct, rfl⟩)
  refine ⟨⟨_, hdoc, sameDocument htext⟩,
    fun v reads hkey hf => (loadPolicy_unsigned hkey hf).mpr ⟨policyOf snap, ?_, ?_, ?_⟩⟩
  · exact hL.decodes _ _ _ hdoc (decodePolicy_policyDocument snap)
  · exact indices_policyOf.mpr h.indices
  · intro hempty
    rw [measured_policyOf hmeasured] at hempty
    cases hempty

end

/-- No parser reads strings that are not UTF-8. -/
theorem LoadsWith.isUtf8 {L : PolicyLib} {parse : Bytes → Option Document} {snap : PolicySnapshot}
    (h : LoadsWith L parse snap)
    (hL : Unmarshals L parse) : ∀ s ∈ snap.strings, IsUtf8 (cString s) := by
  obtain ⟨doc, hdoc, -⟩ := h.document
  refine (isUtf8_emit snap).mp ?_
  by_contra hno
  cases (hL.rejects _ hno).symm.trans hdoc

/-- The library around the parser that reads the fragment and nothing else. -/
noncomputable def referenceLib : PolicyLib where
  unmarshal bs := ((reference bs).bind decodePolicy).elim (.error "yaml") .ok
  ed25519Verify _ _ _ := false

theorem referenceLib_unmarshals : Unmarshals referenceLib reference where
  toConforms := reference_conforms
  decodes bs doc policy hdoc hpolicy := by
    show ((reference bs).bind decodePolicy).elim _ _ = _
    rw [hdoc, Option.bind_some, hpolicy]
    rfl
  malformed bs hnone := by
    refine ⟨"yaml", ?_⟩
    show ((reference bs).bind decodePolicy).elim _ _ = _
    rw [hnone]
    rfl

theorem portable_of_loadsBack {snap : PolicySnapshot} (h : LoadsBack snap) : snap.Portable := by
  have hloads := h referenceLib reference referenceLib_unmarshals
  have htext := hloads.isUtf8 referenceLib_unmarshals
  obtain ⟨doc, hdoc, -⟩ := hloads.document
  have hread : readDocument (policyChars snap) = some doc := by
    rw [← reference_utf8, ← emit_chars htext]
    exact hdoc
  obtain ⟨hstrings, hdistinct, rfl⟩ := (readDocument_policyChars htext).mp hread
  refine ⟨hstrings, hdistinct, ?_⟩
  -- What the verifier admits is the policy of the document.
  have hresult := hloads.accepted {} ⟨.ok (policyEmit snap), .ok 0, .ok [], .ok []⟩ rfl rfl
  obtain ⟨policy, ha⟩ := (loadPolicy_unsigned rfl rfl).mp hresult
  have hparsed := referenceLib_unmarshals.decodes _ _ _ hdoc (decodePolicy_policyDocument snap)
  cases hparsed.symm.trans ha.parsed
  exact indices_policyOf.mp ha.indices

/-- **Written and loaded.** A snapshot that measures something is written as a
file that every parser reads back and that the verifier loads exactly when its
strings are text that all versions of YAML read alike and its PCR indices are
distinct and exist; and no parser reads it back when a string is not UTF-8. -/
theorem emitted_loads_iff {snap : PolicySnapshot} (h : snap.Measured) :
    (LoadsBack snap ↔ snap.Portable) ∧
      ((∃ s ∈ snap.strings, ¬ IsUtf8 (cString s)) → ∀ L parse, Unmarshals L parse →
        ¬ LoadsWith L parse snap) := by
  refine ⟨⟨portable_of_loadsBack, loadsBack_of_portable h⟩, ?_⟩
  rintro ⟨s, hs, hno⟩ L parse hL hloads
  exact hno (hloads.isUtf8 hL s hs)

/-! ## Two snapshots -/

/-- Two PCRs and the hash of the agent, under a name. -/
def sampleSnapshot (name : Bytes) : PolicySnapshot where
  name := name
  description := ascii "Auto-generated policy from \"box\"\n" ++ [0]
  hostname := ascii "box" ++ [0]
  timestamp := ascii "2026-01-01T00:00:00Z" ++ [0]
  pcrs := [⟨0, List.replicate 32 0x11, true⟩, ⟨7, List.replicate 32 0, false⟩,
    ⟨14, List.replicate 32 0x22, true⟩]
  kernelPath := [0]
  kernelHash := List.replicate 32 0
  kernelHashValid := false
  agentPath := ascii "/usr/bin/lota-agent" ++ [0]
  agentHash := List.replicate 32 0x33
  agentHashValid := true
  iommuEnabled := true
  enforceMode := true
  moduleSig := true
  secureboot := true
  lockdown := false

theorem portableText_ascii {bs : Bytes} (h : (bs.all fun b => b.toNat < 0x80) = true) :
    PortableText bs := by
  have hascii : ∀ b ∈ bs, b.toNat < 0x80 := fun b hb => by simpa using List.all_eq_true.mp h b hb
  refine ⟨bs.map fun b => Char.ofNat b.toNat, (utf8_map_ascii hascii).symm, fun c hc hwide => ?_⟩
  obtain ⟨b, hb, rfl⟩ := List.mem_map.mp hc
  have hlt := hascii b hb
  rw [toNat_charOfNat hlt] at hwide
  omega

/-- The name of an exported policy. -/
theorem baseline_loads : (sampleSnapshot (ascii "box-baseline" ++ [0])).Measured ∧
    LoadsBack (sampleSnapshot (ascii "box-baseline" ++ [0])) := by
  have hmeasured : (sampleSnapshot (ascii "box-baseline" ++ [0])).Measured := .inr (.inr rfl)
  have hall : ((sampleSnapshot (ascii "box-baseline" ++ [0])).strings.all fun s =>
      (cString s).all fun b => b.toNat < 0x80) = true := by decide +kernel
  refine ⟨hmeasured,
    (emitted_loads_iff hmeasured).1.mpr ⟨fun s hs => ?_, by decide +kernel, by decide +kernel⟩⟩
  exact portableText_ascii (List.all_eq_true.mp hall s hs)

/-- A host name that ends inside a character, as the cut after 54 bytes can
leave it. -/
def cutName : Bytes := ascii "caf" ++ 0xc3 :: ascii "-baseline" ++ [0]

/-- A name that is not UTF-8 makes a file that no parser reads. -/
theorem invalid_name_lost : (sampleSnapshot cutName).Measured ∧ ¬ LoadsBack (sampleSnapshot cutName) ∧
    ∀ L parse, Unmarshals L parse → parse (policyEmit (sampleSnapshot cutName)) = none := by
  have hname : ¬ IsUtf8 (cString cutName) := by
    have hsplit : cString cutName = (ascii "caf" ++ [0xc3]) ++ 0x2d :: ascii "baseline" := by
      decide +kernel
    have hascii : ∀ b ∈ ascii "caf", b.toNat < 0x80 := by decide +kernel
    rw [hsplit, isUtf8_cut (by decide), isUtf8_ascii_append hascii]
    exact fun h => not_isUtf8_wide (by decide) h.1
  have hemit : ¬ IsUtf8 (policyEmit (sampleSnapshot cutName)) := fun h =>
    hname ((isUtf8_emit _).mp h cutName (List.mem_cons_self))
  refine ⟨.inr (.inr rfl), fun h => ?_, fun L parse hL => hL.rejects _ hemit⟩
  exact hname ((h referenceLib reference referenceLib_unmarshals).isUtf8 referenceLib_unmarshals
    cutName List.mem_cons_self)

end Lota.L6.PolicyEmit

import Lota.Core.Utf8
import Lota.Core.Pem
import Lota.Core.Sha256
import Lota.Core.SortedSet
import Lota.Core.Text
import Mathlib.Data.List.Forall2
import Mathlib.Data.List.TakeWhile

/-!
# The EK root bundle (`attestca/ca/ekbundle.go`)

A bundle is a directory of PEM files and a manifest with one line for each
root: its SHA-256 in hexadecimal, the file, and a label. `LoadEKRootBundle`
reads the manifest, then each file it names, and last looks for `.pem` files
that it does not name.

* `Pinned`: what the directory has to be, with digests in place of their
  spellings.
* `spells_iff`: a field passes the checks of a pin exactly when it spells a
  digest, in either case.
* `parseLines_ok`, `loadRoots_ok`, `rejectUnpinnedCerts_ok`: the three passes.
* `loadEKRootBundle_iff`: the bundle loads exactly when it is pinned, and what
  is returned are the certificates of its roots, in the order of the manifest.
-/
namespace Lota.L5.EkBundle
open Lota.Core

/-! ## The Go library -/

/-- A digit of a pin. mirrors src/attestca/ca/ekbundle.go:196-205 -/
def hexRune (n : Nat) : Bool := (48 ≤ n && n ≤ 57) || (97 ≤ n && n ≤ 102)

/-- `unicode.ToLower`: on ASCII, and that no character beyond it becomes a
hexadecimal digit. -/
structure Lower where
  toLower : Nat → Nat
  ascii : ∀ n < 0x80, toLower n = if 65 ≤ n ∧ n ≤ 90 then n + 32 else n
  wide : ∀ n, 0x80 ≤ n → hexRune (toLower n) = false

/-- `unicode.IsSpace`. -/
def isSpace (r : Rune) : Bool := isUnicodeSpace r.val

/-- `strings.TrimSpace`. -/
def trimSpace (s : List Rune) : List Rune := trimBoth isSpace s

/-- `strings.Fields`: the maximal runs without spaces. -/
def fields (s : List Rune) : List (List Rune) := (s.splitOnP isSpace).filter (· ≠ [])

/-- `strings.ToLower`. -/
def lowerText (U : Lower) (s : List Rune) : Bytes := s.flatMap fun r => encodeRune (U.toLower r.val)

/-- `filepath.Base` where the separator is a slash. -/
def base (path : Bytes) : Bytes :=
  if path = [] then ascii "."
  else
    let path := (path.reverse.dropWhile (· = 47)).takeWhile (· ≠ 47)
    if path = [] then ascii "/" else path.reverse

def hexByteOf (n : Nat) : UInt8 := UInt8.ofNat (if n < 10 then 48 + n else 87 + n)

/-- `hex.EncodeToString`. -/
def hexText (bs : Bytes) : Bytes :=
  bs.flatMap fun b => [hexByteOf (b.toNat / 16), hexByteOf (b.toNat % 16)]

structure Block where
  type : Bytes
  bytes : Bytes

/-- `encoding/pem` and `crypto/x509`. A block that is found takes some of the
text, and a certificate that is written is found again. -/
structure Codec where
  /-- `pem.Decode`: the next block and what follows it. -/
  decode : Bytes → Option (Block × Bytes)
  decode_lt : ∀ {text block rest}, decode text = some (block, rest) → rest.length < text.length
  /-- `pem.EncodeToMemory` of a block of type "CERTIFICATE". -/
  encode : Bytes → Bytes
  decode_encode : ∀ der, decode (encode der) = some (⟨ascii "CERTIFICATE", der⟩, [])
  /-- `x509.ParseCertificate`, as far as its error. -/
  parseCertificate : Bytes → Except String Unit

/-! ## The directory -/

/-- What a name of the directory stands for: what `IsDir` says of it, and what
`os.ReadFile` reads. -/
structure DirEntry where
  isDir : Bool
  content : Except String Bytes

/-- A directory, and what `os.ReadDir` says of it. A name in it has no slash
and is neither empty nor one of the two dots. -/
structure Dir where
  entries : GoMap Bytes DirEntry
  listing : Except String Unit
  bare : ∀ name ∈ entries, (47 : UInt8) ∉ name ∧ name ≠ [] ∧ name ≠ ascii "." ∧ name ≠ ascii ".."

/-- `os.ReadFile` of the directory joined with a name. -/
def Dir.readFile (d : Dir) (name : Bytes) : Except String Bytes :=
  match d.entries.lookup name with
  | none => .error (if name = ascii "/" then "is a directory" else "no such file or directory")
  | some entry => entry.content

/-- The errors of this file, with what their messages show. -/
inductive Error where
  | manifest (path : Bytes) (cause : String)
  | empty
  | entry (line : Nat)
  | badPin (line : Nat)
  | badName (line : Nat)
  | dupPin (pin : Bytes)
  | dupFile (filename : Bytes)
  | missing (path : Bytes) (cause : String)
  | pem (path : Bytes) (cause : Option String)
  | pinMismatch (filename pin got : Bytes)
  | listing (cause : String)
  | unpinned (stray : List Bytes)

/-! ## The manifest -/

/-- mirrors src/attestca/ca/ekbundle.go:29-30 -/
def manifestName : Bytes := ascii "ek-roots.manifest"

/-- mirrors src/attestca/ca/ekbundle.go:43-49 -/
structure EkBundleEntry where
  pin : Bytes
  filename : Bytes
  label : Bytes

/-- mirrors src/attestca/ca/ekbundle.go:196-205 -/
def isHex (s : Bytes) : Bool := (runes s).all fun r => hexRune r.val

/-- The line, unless it is blank or a comment. -/
def entryLine (raw : Bytes) : Option (List Rune) :=
  let line := trimSpace (runes raw)
  if line = [] || line.head?.map Rune.val = some 35 then none else some line

/-- mirrors src/attestca/ca/ekbundle.go:117-127, 136-140 -/
def parseEntry (U : Lower) (i : Nat) (line : List Rune) : Except Error EkBundleEntry :=
  match fields line with
  | pinField :: nameField :: rest =>
    let pin := lowerText U pinField
    if pin.length ≠ 64 || !isHex pin then .error (.badPin (i + 1))
    else
      let filename := runesText nameField
      if filename ≠ base filename || filename = ascii "." || filename = ascii ".."
        then .error (.badName (i + 1))
      else .ok ⟨pin, filename, List.intercalate (ascii " ") (rest.map runesText)⟩
  | _ => .error (.entry (i + 1))

def parseLines (U : Lower) (seenPin seenFile : List Bytes) (i : Nat) :
    List Bytes → Except Error (List EkBundleEntry)
  | [] => .ok []
  | raw :: lines =>
    match entryLine raw with
    | none => parseLines U seenPin seenFile (i + 1) lines
    | some line =>
      match parseEntry U i line with
      | .error err => .error err
      | .ok e =>
        if e.pin ∈ seenPin then .error (.dupPin e.pin)
        else if e.filename ∈ seenFile then .error (.dupFile e.filename)
        else (parseLines U (e.pin :: seenPin) (e.filename :: seenFile) (i + 1) lines).map (e :: ·)

/-- mirrors src/attestca/ca/ekbundle.go:105-143 -/
def parseEKBundleManifest (U : Lower) (data : Bytes) : Except Error (List EkBundleEntry) :=
  parseLines U [] [] 0 (data.splitOn 10)

/-! ## The files -/

/-- The loop over the blocks; a second certificate ends it.
mirrors src/attestca/ca/ekbundle.go:154-169 -/
def certLoop (X : Codec) (rest : Bytes) (certDER : Option Bytes) : Option (Option Bytes) :=
  match _h : X.decode rest with
  | none => some certDER
  | some (block, rest') =>
    if block.type ≠ ascii "CERTIFICATE" then certLoop X rest' certDER
    else if certDER ≠ none then none
    else certLoop X rest' (some block.bytes)
termination_by rest.length
decreasing_by
  · exact X.decode_lt _h
  · exact X.decode_lt _h

/-- mirrors src/attestca/ca/ekbundle.go:145-177 -/
def readSingleCertPEM (X : Codec) (d : Dir) (path : Bytes) : Except Error (Bytes × Bytes) :=
  match d.readFile path with
  | .error cause => .error (.missing path cause)
  | .ok data =>
    match certLoop X data none with
    | none => .error (.pem path none)
    | some none => .error (.pem path none)
    | some (some certDER) =>
      match X.parseCertificate certDER with
      | .error cause => .error (.pem path (some cause))
      | .ok _ => .ok (certDER, X.encode certDER)

/-- mirrors src/attestca/ca/ekbundle.go:82-97 -/
def loadRoots (X : Codec) (d : Dir) : List EkBundleEntry → Except Error (List Bytes)
  | [] => .ok []
  | e :: entries =>
    match readSingleCertPEM X d e.filename with
    | .error err => .error err
    | .ok (der, pemBytes) =>
      let got := hexText (sha256 der).toList
      if got ≠ e.pin then .error (.pinMismatch e.filename e.pin got)
      else (loadRoots X d entries).map (pemBytes :: ·)

/-- mirrors src/attestca/ca/ekbundle.go:179-205 -/
def rejectUnpinnedCerts (d : Dir) (pinned : List Bytes) : Except Error Unit :=
  match d.listing with
  | .error cause => .error (.listing cause)
  | .ok _ =>
    let stray := (d.entries.entries.filter fun ent =>
      !ent.2.isDir && (ascii ".pem").isSuffixOf ent.1 && !pinned.contains ent.1).map Sigma.fst
    if stray ≠ [] then .error (.unpinned (qsort (List.compareLex compare) stray)) else .ok ()

/-- mirrors src/attestca/ca/ekbundle.go:65-101 -/
def loadEKRootBundle (U : Lower) (X : Codec) (d : Dir) : Except Error (List Bytes) :=
  match d.readFile manifestName with
  | .error cause => .error (.manifest manifestName cause)
  | .ok manifest =>
    match parseEKBundleManifest U manifest with
    | .error err => .error err
    | .ok entries =>
      if entries.length = 0 then .error .empty
      else
        match loadRoots X d entries with
        | .error err => .error err
        | .ok out =>
          match rejectUnpinnedCerts d (entries.map EkBundleEntry.filename) with
          | .error err => .error err
          | .ok _ => .ok out

/-! ## What the bundle has to be -/

/-- A root of the manifest and the certificate that its file holds. -/
structure Root where
  digest : Blob 32
  filename : Bytes
  der : Bytes

def lowerByte (b : UInt8) : UInt8 := if 65 ≤ b.toNat ∧ b.toNat ≤ 90 then b + 32 else b

/-- The text is the digest in hexadecimal, with letters of either case. -/
def Spells (text : Bytes) (digest : Blob 32) : Prop := text.map lowerByte = hexText digest.toList

/-- The fields of the lines that are neither blank nor comments. -/
def listed (manifest : Bytes) : List (List Bytes) :=
  ((manifest.splitOn 10).filterMap entryLine).map fun line => (fields line).map runesText

example : listed (ascii "# roots\n\n  ABCD\tinfineon.pem  Infineon OPTIGA \r\n") =
    [[ascii "ABCD", ascii "infineon.pem", ascii "Infineon", ascii "OPTIGA"]] := by decide +kernel

/-- The line pins this root. -/
def Lists (line : List Bytes) (r : Root) : Prop :=
  ∃ pin label, line = pin :: r.filename :: label ∧ Spells pin r.digest

/-- The certificates among the blocks of a text. -/
def certificates (X : Codec) (text : Bytes) : List Bytes :=
  match _h : X.decode text with
  | none => []
  | some (block, rest) =>
    if block.type = ascii "CERTIFICATE" then block.bytes :: certificates X rest else certificates X rest
termination_by text.length
decreasing_by
  · exact X.decode_lt _h
  · exact X.decode_lt _h

/-- The file of the root lies in the directory and holds one certificate, and
that is the one with the digest of the root. -/
structure Held (X : Codec) (d : Dir) (r : Root) : Prop where
  single : ∃ text, d.readFile r.filename = .ok text ∧ certificates X text = [r.der]
  parses : X.parseCertificate r.der = .ok ()
  pinned : sha256 r.der = r.digest

/-- The directory holds the roots that its manifest pins, and no other. -/
structure Pinned (X : Codec) (d : Dir) (roots : List Root) : Prop where
  manifest : ∃ text, d.readFile manifestName = .ok text ∧ List.Forall₂ Lists (listed text) roots
  some_root : roots ≠ []
  digests : (roots.map Root.digest).Nodup
  files : (roots.map Root.filename).Nodup
  held : ∀ r ∈ roots, Held X d r
  listing : d.listing = .ok ()
  covered : ∀ name entry, d.entries.lookup name = some entry → entry.isDir = false →
    ascii ".pem" <:+ name → name ∈ roots.map Root.filename

/-! ## Hexadecimal -/

theorem hexRune_ascii {n : Nat} (h : hexRune n = true) : n < 0x80 := by
  simp only [hexRune, Bool.or_eq_true, Bool.and_eq_true, decide_eq_true_eq] at h
  omega

theorem isHex_iff {s : Bytes} : isHex s = true ↔ ∀ b ∈ s, hexRune b.toNat = true := by
  unfold isHex
  rw [all_runes (fun n => hexRune_ascii) s, List.all_eq_true]

theorem hexRune_hexByteOf : ∀ n < 16, hexRune (hexByteOf n).toNat = true := by decide

theorem hexByteOf_inj : ∀ m < 16, ∀ n < 16, hexByteOf m = hexByteOf n → m = n := by decide

theorem hexText_hex {bs : Bytes} {c : UInt8} (h : c ∈ hexText bs) : hexRune c.toNat = true := by
  obtain ⟨b, -, hc⟩ := List.mem_flatMap.mp h
  have hlt := b.toNat_lt
  simp only [List.mem_cons, List.not_mem_nil, or_false] at hc
  rcases hc with rfl | rfl
  · exact hexRune_hexByteOf _ (by omega)
  · exact hexRune_hexByteOf _ (by omega)

theorem hexText_length (bs : Bytes) : (hexText bs).length = 2 * bs.length := by
  unfold hexText
  simp [List.length_flatMap, Nat.mul_comm]

theorem hexText_inj {as bs : Bytes} (h : hexText as = hexText bs) : as = bs := by
  induction as generalizing bs with
  | nil =>
    cases bs with
    | nil => rfl
    | cons b bs => cases h
  | cons a as ih =>
    cases bs with
    | nil => cases h
    | cons b bs =>
      have ha := a.toNat_lt
      have hb := b.toNat_lt
      simp only [hexText, List.flatMap_cons, List.cons_append, List.nil_append, List.cons.injEq] at h
      have hhi := hexByteOf_inj _ (by omega) _ (by omega) h.1
      have hlo := hexByteOf_inj _ (by omega) _ (by omega) h.2.1
      have heq : a = b := UInt8.toNat_inj.mp (by omega)
      rw [heq, ih h.2.2]

/-! ## Pins -/

theorem lowerText_ascii (U : Lower) {s : List Rune} (h : ∀ r ∈ s, r.val < 0x80) :
    lowerText U s = (runesText s).map lowerByte := by
  rw [runesText_ascii h, List.map_map]
  unfold lowerText
  induction s with
  | nil => rfl
  | cons r s ih =>
    have hr := h r List.mem_cons_self
    have hbyte : encodeRune (U.toLower r.val) = [lowerByte (UInt8.ofNat r.val)] := by
      rw [U.ascii _ hr]
      unfold encodeRune lowerByte
      rw [toNat_ofNat_ascii hr]
      split
      · rw [if_pos (by omega), UInt8.ofNat_add]
        rfl
      · rfl
    rw [List.flatMap_cons, List.map_cons, hbyte, ih fun x hx => h x (List.mem_cons_of_mem r hx)]
    rfl

/-- **Pins.** The field in lower case is the text of a digest exactly when the
field spells the digest. -/
theorem spells_iff (U : Lower) (s : List Rune) (digest : Blob 32) :
    lowerText U s = hexText digest.toList ↔ Spells (runesText s) digest := by
  constructor
  · intro h
    have hascii : ∀ r ∈ s, r.val < 0x80 := by
      intro r hr
      by_contra hwide
      have hhex : ∀ b ∈ encodeRune (U.toLower r.val), hexRune b.toNat = true := by
        intro b hb
        have hmem : b ∈ hexText digest.toList := by
          rw [← h]
          exact List.mem_flatMap.mpr ⟨r, hr, hb⟩
        exact hexText_hex hmem
      have hlt : U.toLower r.val < 0x80 := by
        by_contra hge
        obtain ⟨b, hb, hb80⟩ := encodeRune_wide (Nat.le_of_not_lt hge)
        have := hexRune_ascii (hhex b hb)
        omega
      have hself := hhex (UInt8.ofNat (U.toLower r.val)) (by simp [encodeRune, hlt])
      rw [toNat_ofNat_ascii hlt, U.wide _ (Nat.le_of_not_lt hwide)] at hself
      cases hself
    rw [Spells, ← lowerText_ascii U hascii, h]
  · intro h
    have hascii : ∀ r ∈ s, r.val < 0x80 := by
      intro r hr
      refine val_lt_of_runesText (fun b hb => ?_) hr
      have hmem : lowerByte b ∈ hexText digest.toList := by
        rw [← h]
        exact List.mem_map_of_mem hb
      have hlow := hexRune_ascii (hexText_hex hmem)
      unfold lowerByte at hlow
      split at hlow
      · omega
      · exact hlow
    rw [lowerText_ascii U hascii]
    exact h

/-! ## The manifest -/

/-- A name that is its own last element. -/
def Bare (name : Bytes) : Prop := name = base name ∧ name ≠ ascii "." ∧ name ≠ ascii ".."

/-- What is parsed from a line. -/
def EntryOf (U : Lower) (line : List Rune) (e : EkBundleEntry) : Prop :=
  ∃ pinField nameField rest, fields line = pinField :: nameField :: rest ∧
    e = ⟨lowerText U pinField, runesText nameField, List.intercalate (ascii " ") (rest.map runesText)⟩ ∧
    e.pin.length = 64 ∧ isHex e.pin = true ∧ Bare e.filename

theorem parseEntry_ok {U : Lower} {i : Nat} {line : List Rune} {e : EkBundleEntry} :
    parseEntry U i line = .ok e ↔ EntryOf U line e := by
  unfold parseEntry EntryOf
  split
  next pinField nameField rest hfields =>
    simp only [hfields, List.cons.injEq]
    constructor
    · intro h
      split at h
      · cases h
      next hpin =>
      split at h
      · cases h
      next hname =>
      cases h
      simp only [ne_eq, Bool.or_eq_true, decide_eq_true_eq, Bool.not_eq_true', not_or, not_not,
        Bool.not_eq_false] at hpin hname
      exact ⟨pinField, nameField, rest, ⟨rfl, rfl, rfl⟩, rfl, hpin.1, hpin.2, hname.1.1,
        hname.1.2, hname.2⟩
    · rintro ⟨p, n, l, ⟨rfl, rfl, rfl⟩, rfl, hlen, hhex, hbase, hdot, hdots⟩
      rw [if_neg (by simp [hlen, hhex]),
        if_neg (by simp only [ne_eq, Bool.or_eq_true, decide_eq_true_eq, not_or,
          not_not]; exact ⟨⟨hbase, hdot⟩, hdots⟩)]
  next hshort =>
    refine iff_of_false (by simp) ?_
    rintro ⟨p, n, l, hfields, -⟩
    exact hshort p n l hfields

/-- **Run.** The entries are those of the lines, and none repeats a pin or a
file that was seen before. -/
theorem parseLines_ok {U : Lower} {seenPin seenFile : List Bytes} {i : Nat} {lines : List Bytes}
    {entries : List EkBundleEntry} : parseLines U seenPin seenFile i lines = .ok entries ↔
      List.Forall₂ (EntryOf U) (lines.filterMap entryLine) entries ∧
        ((entries.map EkBundleEntry.pin).Nodup ∧ ∀ e ∈ entries, e.pin ∉ seenPin) ∧
        ((entries.map EkBundleEntry.filename).Nodup ∧ ∀ e ∈ entries, e.filename ∉ seenFile) := by
  induction lines generalizing seenPin seenFile i entries with
  | nil =>
    simp only [parseLines, Except.ok.injEq, List.filterMap_nil, List.forall₂_nil_left_iff]
    constructor
    · rintro rfl
      simp
    · intro h
      exact h.1.symm
  | cons raw lines ih =>
    cases hline : entryLine raw with
    | none =>
      simp only [parseLines, hline, List.filterMap_cons_none hline]
      exact ih
    | some line =>
      simp only [parseLines, hline, List.filterMap_cons_some hline]
      constructor
      · intro h
        split at h
        · cases h
        next e hentry =>
        split at h
        · cases h
        next hpin =>
        split at h
        · cases h
        next hfile =>
        cases hrest : parseLines U (e.pin :: seenPin) (e.filename :: seenFile) (i + 1) lines with
        | error err =>
          rw [hrest] at h
          cases h
        | ok es =>
          rw [hrest] at h
          cases h
          obtain ⟨hall, ⟨hpins, hnewPin⟩, hfiles, hnewFile⟩ := ih.mp hrest
          simp only [List.mem_cons, not_or] at hnewPin hnewFile
          refine ⟨.cons (parseEntry_ok.mp hentry) hall, ⟨?_, ?_⟩, ?_, ?_⟩
          · rw [List.map_cons, List.nodup_cons]
            refine ⟨fun hmem => ?_, hpins⟩
            obtain ⟨x, hx, heq⟩ := List.mem_map.mp hmem
            exact (hnewPin x hx).1 heq
          · exact List.forall_mem_cons.mpr ⟨hpin, fun x hx => (hnewPin x hx).2⟩
          · rw [List.map_cons, List.nodup_cons]
            refine ⟨fun hmem => ?_, hfiles⟩
            obtain ⟨x, hx, heq⟩ := List.mem_map.mp hmem
            exact (hnewFile x hx).1 heq
          · exact List.forall_mem_cons.mpr ⟨hfile, fun x hx => (hnewFile x hx).2⟩
      · rintro ⟨hall, ⟨hpins, hnewPin⟩, hfiles, hnewFile⟩
        obtain ⟨e, es, hentry, hrest, rfl⟩ := List.forall₂_cons_left_iff.mp hall
        rw [List.map_cons, List.nodup_cons] at hpins hfiles
        obtain ⟨hpin, hnewPin⟩ := List.forall_mem_cons.mp hnewPin
        obtain ⟨hfile, hnewFile⟩ := List.forall_mem_cons.mp hnewFile
        have hrec : parseLines U (e.pin :: seenPin) (e.filename :: seenFile) (i + 1)
            lines = .ok es := by
          refine ih.mpr ⟨hrest, ⟨hpins.2, fun x hx => ?_⟩, hfiles.2, fun x hx => ?_⟩
          · exact List.not_mem_cons_of_ne_of_not_mem
              (fun heq => hpins.1 (heq ▸ List.mem_map_of_mem hx)) (hnewPin x hx)
          · exact List.not_mem_cons_of_ne_of_not_mem
              (fun heq => hfiles.1 (heq ▸ List.mem_map_of_mem hx)) (hnewFile x hx)
        rw [parseEntry_ok.mpr hentry]
        simp only
        rw [if_neg hpin, if_neg hfile, hrec]
        rfl

/-- The entry is that of the root. -/
def EntryFor (e : EkBundleEntry) (r : Root) : Prop :=
  e.pin = hexText r.digest.toList ∧ e.filename = r.filename

theorem lists_of_entry {U : Lower} {line : List Rune} {e : EkBundleEntry} {r : Root}
    (he : EntryOf U line e)
    (hr : EntryFor e r) : Lists ((fields line).map runesText) r := by
  obtain ⟨pinField, nameField, rest, hfields, rfl, -, -, -⟩ := he
  obtain ⟨hpin, hname⟩ := hr
  refine ⟨runesText pinField, rest.map runesText, ?_, (spells_iff U pinField r.digest).mp hpin⟩
  rw [hfields, ← hname]
  rfl

theorem entry_of_lists (U : Lower) {line : List Rune} {r : Root}
    (h : Lists ((fields line).map runesText) r)
    (hbare : Bare r.filename) : ∃ e, EntryOf U line e ∧ EntryFor e r := by
  obtain ⟨pin, label, hline, hspells⟩ := h
  obtain ⟨pinField, tail, hfields, rfl, htail⟩ := List.map_eq_cons_iff.mp hline
  obtain ⟨nameField, rest, rfl, hname, rfl⟩ := List.map_eq_cons_iff.mp htail
  have hpin : lowerText U pinField = hexText r.digest.toList :=
    (spells_iff U pinField r.digest).mpr hspells
  refine ⟨⟨lowerText U pinField, runesText nameField,
    List.intercalate (ascii " ") (rest.map runesText)⟩,
    ⟨pinField, nameField, rest, hfields, rfl, ?_, ?_, ?_⟩, hpin, hname⟩
  · rw [hpin, hexText_length, List.Vector.toList_length]
  · rw [hpin]
    exact isHex_iff.mpr fun b hb => hexText_hex hb
  · rw [hname]
    exact hbare

theorem lists_of_entries {U : Lower} {lines : List (List Rune)} {entries : List EkBundleEntry}
    {roots : List Root}
    (he : List.Forall₂ (EntryOf U) lines entries) (hr : List.Forall₂ EntryFor entries roots) :
    List.Forall₂ Lists (lines.map fun line => (fields line).map runesText) roots := by
  induction he generalizing roots with
  | nil =>
    cases hr
    exact .nil
  | cons h _ ih =>
    cases hr with
    | cons hr hrs => exact .cons (lists_of_entry h hr) (ih hrs)

theorem entries_of_lists (U : Lower) {lines : List (List Rune)} {roots : List Root}
    (h : List.Forall₂ Lists (lines.map fun line => (fields line).map runesText) roots)
    (hbare : ∀ r ∈ roots, Bare r.filename) :
    ∃ entries, List.Forall₂ (EntryOf U) lines entries ∧ List.Forall₂ EntryFor entries roots := by
  induction lines generalizing roots with
  | nil =>
    cases h
    exact ⟨[], .nil, .nil⟩
  | cons line lines ih =>
    cases h with
    | cons hr hrs =>
      obtain ⟨hb, hbs⟩ := List.forall_mem_cons.mp hbare
      obtain ⟨e, he, hfor⟩ := entry_of_lists U hr hb
      obtain ⟨es, hes, hfors⟩ := ih hrs hbs
      exact ⟨e :: es, .cons he hes, .cons hfor hfors⟩

theorem map_pin {entries : List EkBundleEntry} {roots : List Root}
    (h : List.Forall₂ EntryFor entries roots) :
    entries.map EkBundleEntry.pin = (roots.map Root.digest).map fun digest =>
    hexText digest.toList := by
  induction h with
  | nil => rfl
  | cons h _ ih => rw [List.map_cons, List.map_cons, List.map_cons, h.1, ih]

theorem map_filename {entries : List EkBundleEntry} {roots : List Root}
    (h : List.Forall₂ EntryFor entries roots) :
    entries.map EkBundleEntry.filename = roots.map Root.filename := by
  induction h with
  | nil => rfl
  | cons h _ ih => rw [List.map_cons, List.map_cons, h.2, ih]

/-- No pin repeats where no digest does: a digest has one text. -/
theorem nodup_pins {entries : List EkBundleEntry} {roots : List Root}
    (h : List.Forall₂ EntryFor entries roots) :
    (entries.map EkBundleEntry.pin).Nodup ↔ (roots.map Root.digest).Nodup := by
  rw [map_pin h]
  refine List.nodup_map_iff fun a b heq => ?_
  exact List.Vector.toList_injective (hexText_inj heq)

/-! ## The files -/

theorem certificates_none {X : Codec} {text : Bytes} (h : X.decode text = none) :
    certificates X text = [] := by
  unfold certificates
  split
  · rfl
  next block rest hsome =>
    rw [h] at hsome
    cases hsome

theorem certificates_some {X : Codec} {text rest : Bytes} {block : Block}
    (h : X.decode text = some (block, rest)) : certificates X text =
      if block.type = ascii "CERTIFICATE" then block.bytes :: certificates X rest
        else certificates X rest := by
  rw [certificates]
  split
  next hnone =>
    rw [h] at hnone
    cases hnone
  next block' rest' hsome =>
    rw [h] at hsome
    cases hsome
    rfl

/-- **Run.** The loop ends with a certificate when that is the only one. -/
theorem certLoop_some {X : Codec} {rest : Bytes} {certDER : Option Bytes} {der : Bytes} :
    certLoop X rest certDER = some (some der) ↔ certDER.toList ++ certificates X rest = [der] := by
  fun_induction certLoop X rest certDER with
  | case1 rest certDER hnone =>
    rw [certificates_none hnone]
    cases certDER with
    | none => simp
    | some cert => simp
  | case2 rest certDER block rest' hsome hother ih => rw [certificates_some hsome, if_neg hother, ih]
  | case3 rest certDER block rest' hsome hcert hsecond =>
    rw [certificates_some hsome, if_pos (not_not.mp hcert)]
    obtain ⟨cert, rfl⟩ := Option.ne_none_iff_exists'.mp hsecond
    simp
  | case4 rest certDER block rest' hsome hcert hfirst ih =>
    rw [certificates_some hsome, if_pos (not_not.mp hcert), ih, not_not.mp hfirst]
    rfl

theorem readSingleCertPEM_ok {X : Codec} {d : Dir} {path der pemBytes : Bytes} :
    readSingleCertPEM X d path = .ok (der, pemBytes) ↔
      (∃ text, d.readFile path = .ok text ∧ certificates X text = [der]) ∧
      X.parseCertificate der = .ok () ∧
        pemBytes = X.encode der := by
  unfold readSingleCertPEM
  cases hread : d.readFile path with
  | error cause => simp
  | ok text =>
    have hloop : certLoop X text none = some (some der) ↔ certificates X text = [der] := certLoop_some
    simp only [Except.ok.injEq, exists_eq_left', ← hloop]
    rcases certLoop X text none with - | - | cert
    · simp
    · simp
    · simp only [Option.some.injEq]
      cases hparse : X.parseCertificate cert with
      | error cause =>
        simp only [reduceCtorEq, false_iff, not_and]
        rintro rfl
        simp [hparse]
      | ok u =>
        simp only [Except.ok.injEq, Prod.mk.injEq]
        constructor
        · rintro ⟨rfl, rfl⟩
          exact ⟨rfl, hparse, rfl⟩
        · rintro ⟨rfl, -, rfl⟩
          exact ⟨rfl, rfl⟩

/-- **Run.** The loop over the entries ends when each file holds its root. -/
theorem loadRoots_ok {X : Codec} {d : Dir} {entries : List EkBundleEntry} {out : List Bytes} :
    loadRoots X d entries = .ok out ↔
      ∃ roots, List.Forall₂ EntryFor entries roots ∧ (∀ r ∈ roots, Held X d r) ∧
      out = roots.map fun r => X.encode r.der := by
  induction entries generalizing out with
  | nil =>
    simp only [loadRoots, Except.ok.injEq, List.forall₂_nil_left_iff, exists_eq_left, List.map_nil,
      List.not_mem_nil, false_imp_iff, implies_true, true_and]
    exact eq_comm
  | cons e entries ih =>
    constructor
    · intro h
      unfold loadRoots at h
      split at h
      · cases h
      next der pemBytes hread =>
      obtain ⟨hsingle, hparse, rfl⟩ := readSingleCertPEM_ok.mp hread
      simp only at h
      split at h
      · cases h
      next hpin =>
      cases hrest : loadRoots X d entries with
      | error err =>
        rw [hrest] at h
        cases h
      | ok pems =>
        rw [hrest] at h
        cases h
        obtain ⟨roots, hfor, hheld, rfl⟩ := ih.mp hrest
        refine ⟨⟨sha256 der, e.filename, der⟩ :: roots, .cons ⟨(not_not.mp hpin).symm, rfl⟩ hfor,
          ?_, rfl⟩
        exact List.forall_mem_cons.mpr ⟨⟨hsingle, hparse, rfl⟩, hheld⟩
    · rintro ⟨roots, hfor, hheld, rfl⟩
      cases hfor with
      | @cons _ r _ roots hr hrs =>
        obtain ⟨hheld, hhelds⟩ := List.forall_mem_cons.mp hheld
        have hread : readSingleCertPEM X d e.filename = .ok (r.der, X.encode r.der) := by
          refine readSingleCertPEM_ok.mpr ⟨?_, hheld.parses, rfl⟩
          rw [hr.2]
          exact hheld.single
        have hrest := ih.mpr ⟨roots, hrs, hhelds, rfl⟩
        have hpin : hexText (sha256 r.der).toList = e.pin := by rw [hheld.pinned, hr.1]
        simp only [loadRoots, hread, hrest]
        rw [if_neg (not_not.mpr hpin)]
        rfl

theorem base_of_no_slash {name : Bytes} (hne : name ≠ []) (hslash : (47 : UInt8) ∉ name) :
    base name = name := by
  have hall : ∀ b ∈ name.reverse, b ≠ 47 := fun b hb heq => hslash (heq ▸ List.mem_reverse.mp hb)
  have hdrop : name.reverse.dropWhile (· = 47) = name.reverse := by
    cases hrev : name.reverse with
    | nil => rfl
    | cons b rest =>
      have hb : b ≠ 47 := hall b (by rw [hrev]; exact List.mem_cons_self)
      exact List.dropWhile_cons_of_neg (by simpa using hb)
  have htake : name.reverse.takeWhile (· ≠ 47) = name.reverse :=
    List.takeWhile_eq_self_iff.mpr fun b hb => by simpa using hall b hb
  unfold base
  rw [if_neg hne]
  simp only [hdrop, htake]
  rw [if_neg (by simpa using hne), List.reverse_reverse]

/-- A file that is held has a bare name. -/
theorem Held.bare {X : Codec} {d : Dir} {r : Root} (h : Held X d r) : Bare r.filename := by
  obtain ⟨text, hread, -⟩ := h.single
  unfold Dir.readFile at hread
  cases hlook : d.entries.lookup r.filename with
  | none =>
    rw [hlook] at hread
    cases hread
  | some entry =>
    have hmem : r.filename ∈ d.entries := AList.lookup_isSome.mp (by rw [hlook]; rfl)
    obtain ⟨hslash, hne, hdot, hdots⟩ := d.bare _ hmem
    exact ⟨(base_of_no_slash hne hslash).symm, hdot, hdots⟩

/-! ## The directory -/

theorem rejectUnpinnedCerts_ok {d : Dir} {pinned : List Bytes} :
    rejectUnpinnedCerts d pinned = .ok () ↔ d.listing = .ok () ∧
      ∀ name entry, d.entries.lookup name = some entry → entry.isDir = false →
      ascii ".pem" <:+ name → name ∈ pinned := by
  unfold rejectUnpinnedCerts
  cases d.listing with
  | error cause => simp
  | ok u =>
    simp only [true_and]
    split
    next hstray =>
      refine iff_of_false (by simp) fun h => hstray ?_
      rw [List.map_eq_nil_iff, List.filter_eq_nil_iff]
      intro ent hent
      simp only [Bool.and_eq_true, Bool.not_eq_true', List.isSuffixOf_iff_suffix,
        List.contains_eq_mem, decide_eq_false_iff_not, not_and, not_not]
      intro hfile
      exact h ent.1 ent.2 (AList.mem_lookup_iff.mpr hent) hfile.1 hfile.2
    next hnone =>
      rw [ne_eq, not_not, List.map_eq_nil_iff, List.filter_eq_nil_iff] at hnone
      refine iff_of_true rfl fun name entry hlook hfile hsuffix => ?_
      have hent := hnone ⟨name, entry⟩ (AList.mem_lookup_iff.mp hlook)
      simpa [hfile, hsuffix] using hent

/-! ## The bundle -/

/-- A certificate that is written is the only one of its text. -/
theorem certificates_encode (X : Codec) (der : Bytes) : certificates X (X.encode der) = [der] := by
  have hend : X.decode [] = none := by
    cases h : X.decode [] with
    | none => rfl
    | some r => exact absurd (X.decode_lt h) (by simp)
  rw [certificates_some (X.decode_encode der), if_pos rfl, certificates_none hend]

theorem loadEKRootBundle_ok {U : Lower} {X : Codec} {d : Dir} {out : List Bytes} :
    loadEKRootBundle U X d = .ok out ↔
      ∃ text entries, d.readFile manifestName = .ok text ∧
      parseEKBundleManifest U text = .ok entries ∧ entries ≠ [] ∧
        loadRoots X d entries = .ok out ∧
        rejectUnpinnedCerts d (entries.map EkBundleEntry.filename) = .ok () := by
  unfold loadEKRootBundle
  constructor
  · intro h
    split at h
    · cases h
    next text htext =>
    split at h
    · cases h
    next entries hparse =>
    split at h
    · cases h
    next hne =>
    split at h
    · cases h
    next pems hload =>
    split at h
    · cases h
    next u hreject =>
    cases h
    exact ⟨text, entries, htext, hparse, fun hnil => hne (by rw [hnil]; rfl), hload, hreject⟩
  · rintro ⟨text, entries, htext, hparse, hne, hload, hreject⟩
    simp only [htext, hparse, hload, hreject]
    rw [if_neg (by simpa using hne)]

/-- **Bundle.** For every directory: the bundle loads exactly when the
directory holds the roots that its manifest pins and no other, and what is
returned are the certificates of these roots, in the order of the manifest. -/
theorem loadEKRootBundle_iff (U : Lower) (X : Codec) (d : Dir) (out : List Bytes) :
    loadEKRootBundle U X d = .ok out ↔
      ∃ roots, Pinned X d roots ∧ out = (roots.map fun r => X.encode r.der) ∧
        out.map (certificates X) = roots.map fun r => [r.der] := by
  have hreturned : ∀ roots : List Root,
      (roots.map fun r => X.encode r.der).map (certificates X) = roots.map fun r => [r.der] := by
    intro roots
    rw [List.map_map]
    exact List.map_congr_left fun r _ => certificates_encode X r.der
  rw [loadEKRootBundle_ok]
  constructor
  · rintro ⟨text, entries, htext, hparse, hne, hload, hreject⟩
    obtain ⟨hlines, ⟨hpins, -⟩, hfiles, -⟩ := parseLines_ok.mp hparse
    obtain ⟨roots, hfor, hheld, rfl⟩ := loadRoots_ok.mp hload
    obtain ⟨hlisting, hcovered⟩ := rejectUnpinnedCerts_ok.mp hreject
    rw [map_filename hfor] at hfiles hcovered
    refine ⟨roots, ⟨⟨text, htext, lists_of_entries hlines hfor⟩, ?_, (nodup_pins hfor).mp hpins,
      hfiles, hheld, hlisting, hcovered⟩, rfl, hreturned roots⟩
    rintro rfl
    cases hfor
    exact hne rfl
  · rintro ⟨roots, hpinned, rfl, -⟩
    obtain ⟨text, htext, hlists⟩ := hpinned.manifest
    obtain ⟨entries, hlines, hfor⟩ := entries_of_lists U hlists fun r hr => (hpinned.held r hr).bare
    have hfiles := map_filename hfor
    refine ⟨text, entries, htext,
      parseLines_ok.mpr ⟨hlines, ⟨(nodup_pins hfor).mpr hpinned.digests, by simp⟩, ?_, by simp⟩,
      ?_, loadRoots_ok.mpr ⟨roots, hfor, hpinned.held, rfl⟩,
      rejectUnpinnedCerts_ok.mpr ⟨hpinned.listing, ?_⟩⟩
    · rw [hfiles]
      exact hpinned.files
    · rintro rfl
      cases hfor
      exact hpinned.some_root rfl
    · rw [hfiles]
      exact hpinned.covered

/-! ## A bundle -/

/-- ASCII letters only. -/
def asciiLower : Lower where
  toLower n := if 65 ≤ n ∧ n ≤ 90 then n + 32 else n
  ascii _ _ := rfl
  wide n h := by
    rw [if_neg (by omega)]
    simp only [hexRune, Bool.or_eq_false_iff, Bool.and_eq_false_iff, decide_eq_false_iff_not]
    omega

def beginLine : Bytes := ascii "-----BEGIN CERTIFICATE-----\n"
def endLine : Bytes := ascii "-----END CERTIFICATE-----\n"

/-- Texts of one certificate. -/
def pemCodec (parseCertificate : Bytes → Except String Unit) : Codec where
  decode text := (pemDecode beginLine endLine text).map fun der => (⟨ascii "CERTIFICATE", der⟩, [])
  decode_lt {text _ rest} h := by
    obtain ⟨der, hder, hpair⟩ := Option.map_eq_some_iff.mp h
    cases hpair
    have hnil : pemDecode beginLine endLine [] = none := by decide +kernel
    cases text with
    | nil =>
      rw [hnil] at hder
      cases hder
    | cons b text => exact Nat.succ_pos _
  encode := pemEncode beginLine endLine
  decode_encode der := by rw [pemDecode_pemEncode rfl, Option.map_some]
  parseCertificate := parseCertificate

/-- A self-signed Ed25519 certificate. -/
def sampleDer : Bytes :=
  [0x30, 0x81, 0xd4, 0x30, 0x81, 0x87, 0x02, 0x14, 0x5f, 0x9c, 0x8d, 0x1f, 0xb7, 0x69, 0xa1,
    0x13, 0xa7, 0xe1,
   0x23, 0x6b, 0x25, 0xca, 0xd1, 0x67, 0x5f, 0xaa, 0xc5, 0x11, 0x30, 0x05, 0x06, 0x03, 0x2b,
   0x65, 0x70, 0x30,
   0x0d, 0x31, 0x0b, 0x30, 0x09, 0x06, 0x03, 0x55, 0x04, 0x03, 0x0c, 0x02, 0x45, 0x4b, 0x30,
   0x1e, 0x17, 0x0d,
   0x32, 0x36, 0x31, 0x31, 0x31, 0x37, 0x32, 0x31, 0x30, 0x38, 0x33, 0x31, 0x5a, 0x17, 0x0d,
   0x33, 0x36, 0x31,
   0x31, 0x31, 0x34, 0x32, 0x31, 0x30, 0x38, 0x33, 0x31, 0x5a, 0x30, 0x0d, 0x31, 0x0b, 0x30,
   0x09, 0x06, 0x03,
   0x55, 0x04, 0x03, 0x0c, 0x02, 0x45, 0x4b, 0x30, 0x2a, 0x30, 0x05, 0x06, 0x03, 0x2b, 0x65,
   0x70, 0x03, 0x21,
   0x00, 0x93, 0x6f, 0xe9, 0x8a, 0xe0, 0x14, 0xd4, 0x64, 0x97, 0x0a, 0xe8, 0x9d, 0xa7, 0xf4,
   0x72, 0x57, 0x25,
   0x0a, 0x7f, 0xc2, 0x8e, 0x1d, 0x7a, 0xce, 0xf6, 0x3a, 0x04, 0x63, 0x6f, 0xb3, 0xb5, 0xd5,
   0x30, 0x05, 0x06,
   0x03, 0x2b, 0x65, 0x70, 0x03, 0x41, 0x00, 0x72, 0xd4, 0x28, 0x47, 0x4b, 0x2d, 0x30, 0xc8,
   0xa6, 0x42, 0x05,
   0xeb, 0x95, 0x62, 0xef, 0x8c, 0xcc, 0xe8, 0x7c, 0x55, 0x05, 0x55, 0x4f, 0xe7, 0xbf, 0xf6,
   0xfa, 0x0a, 0x88,
   0x58, 0x01, 0xbd, 0xa4, 0x3f, 0xe4, 0xfb, 0x07, 0x72, 0xb8, 0xc0, 0x00, 0x3b, 0x4f, 0x72,
   0x0a, 0xd1, 0x28,
   0xa8, 0xa6, 0x21, 0x1d, 0x2a, 0xb7, 0x2a, 0x07, 0x8e, 0xd0, 0x8c, 0xde, 0x07, 0x12, 0x7d, 0x6c, 0x0b]

def samplePin : Bytes := ascii "c2bdd6d3fdbf9445679b5df4101c7a19bc54b3ada3cfa5d0c4d236f6abc89044"

def sampleCodec : Codec :=
  pemCodec fun der => if der = sampleDer then .ok () else .error "x509: malformed certificate"

def sampleManifest : Bytes := samplePin ++ ascii "  ek.pem  Sample vendor\n"

def sampleEntries : GoMap Bytes DirEntry :=
  ((∅ : GoMap Bytes DirEntry).insert manifestName ⟨false, .ok sampleManifest⟩).insert (ascii "ek.pem")
    ⟨false, .ok (sampleCodec.encode sampleDer)⟩

theorem sampleEntries_lookup {name : Bytes} {entry : DirEntry}
    (h : sampleEntries.lookup name = some entry) : name = ascii "ek.pem" ∨ name = manifestName := by
  unfold sampleEntries at h
  rw [lookup_insert_ite] at h
  split at h
  next heq => exact .inl heq
  rw [lookup_insert_ite] at h
  split at h
  next heq => exact .inr heq
  cases h

def sampleDir : Dir where
  entries := sampleEntries
  listing := .ok ()
  bare name hmem := by
    obtain ⟨entry, hentry⟩ := Option.isSome_iff_exists.mp (AList.lookup_isSome.mpr hmem)
    rcases sampleEntries_lookup hentry with rfl | rfl
    · decide +kernel
    · decide +kernel

def sampleRoot : Root := ⟨sha256 sampleDer, ascii "ek.pem", sampleDer⟩

theorem sampleDir_pinned : Pinned sampleCodec sampleDir [sampleRoot] where
  manifest := by
    have hlisted : listed sampleManifest =
        [[samplePin, ascii "ek.pem", ascii "Sample", ascii "vendor"]] := by decide +kernel
    have hpin : Spells samplePin sampleRoot.digest := by
      unfold Spells
      decide +kernel
    refine ⟨sampleManifest, ?_, ?_⟩
    · unfold Dir.readFile sampleDir sampleEntries
      rw [lookup_insert_ite, if_neg (by decide +kernel), lookup_insert_ite, if_pos rfl]
    · rw [hlisted]
      exact .cons ⟨samplePin, _, rfl, hpin⟩ .nil
  some_root := List.cons_ne_nil _ _
  digests := List.nodup_singleton _
  files := List.nodup_singleton _
  held := by
    intro r hr
    rw [List.mem_singleton.mp hr]
    refine ⟨⟨sampleCodec.encode sampleDer, ?_, certificates_encode sampleCodec sampleDer⟩, ?_, rfl⟩
    · have hname : sampleRoot.filename = ascii "ek.pem" := rfl
      unfold Dir.readFile sampleDir sampleEntries
      rw [lookup_insert_ite, if_pos hname]
    · have hder : sampleRoot.der = sampleDer := rfl
      rw [hder]
      unfold sampleCodec pemCodec
      simp only [if_true]
  listing := rfl
  covered := by
    intro name entry hentry _ hsuffix
    rcases sampleEntries_lookup hentry with rfl | rfl
    · exact List.mem_singleton.mpr rfl
    · exact absurd hsuffix (by decide +kernel)

theorem sampleDir_loads :
    loadEKRootBundle asciiLower sampleCodec sampleDir = .ok [sampleCodec.encode sampleDer] :=
  (loadEKRootBundle_iff asciiLower sampleCodec sampleDir _).mpr
    ⟨[sampleRoot], sampleDir_pinned, rfl, by rw [List.map_singleton, certificates_encode]; rfl⟩

end Lota.L5.EkBundle

import Lota.Core.Clock
import Lota.Core.Bytes
import Mathlib.Data.List.Sort

/-!
# Certificate revocation lists (`verifier/store/crl.go`)

Lists are verified when they are loaded and kept under the canonical name of
their issuer. A certificate is checked against the lists under the canonical
name of its issuer.

What the source takes from the Go library is the parameter `X`; nothing is
assumed about it.

* `build_filed`: every list of a set stands under its own canonical name.
* `check_error_iff`: when `check` refuses.
* `revoked_refused_iff`: a certificate that some matching list names is
  refused exactly when no matching list is fresh or a fresh one names it. A
  list past its `NextUpdate` is skipped together with its entries.
* `stale_revocation_lost`: a revoked certificate that passes.
-/
namespace Lota.L2.Crl
open Lota.Core

/-! ## Lists and certificates -/

/-- `x509.SignatureAlgorithm`. -/
inductive SignatureAlgorithm where
  | unknown | md2WithRSA | md5WithRSA | sha1WithRSA | sha256WithRSA | sha384WithRSA | sha512WithRSA
  | dsaWithSHA1 | dsaWithSHA256 | ecdsaWithSHA1 | ecdsaWithSHA256 | ecdsaWithSHA384 | ecdsaWithSHA512
  | sha256WithRSAPSS | sha384WithRSAPSS | sha512WithRSAPSS | pureEd25519
  deriving DecidableEq, Repr

/-- mirrors src/verifier/store/crl.go:49-61 -/
def crlAllowedSignatureAlgorithms : List SignatureAlgorithm :=
  [.sha256WithRSA, .sha384WithRSA, .sha512WithRSA, .sha256WithRSAPSS, .sha384WithRSAPSS,
    .sha512WithRSAPSS,
   .ecdsaWithSHA256, .ecdsaWithSHA384, .ecdsaWithSHA512, .pureEd25519]

/-- `x509.RevocationListEntry`; a `nil` serial number is `none`. -/
structure RevokedEntry where
  serialNumber : Option Int
  revocationTime : Time
  deriving DecidableEq

/-- `x509.RevocationList`, the fields that are read. -/
structure RevocationList where
  rawIssuer : Bytes
  signatureAlgorithm : SignatureAlgorithm
  nextUpdate : Time
  revokedCertificateEntries : List RevokedEntry
  signature : Bytes
  deriving DecidableEq

/-- `x509.Certificate`, the fields that are read. -/
structure Certificate where
  rawSubject : Bytes
  rawIssuer : Bytes
  serialNumber : Option Int
  issuer : String
  deriving DecidableEq

/-- The errors of this file; the rest of a message is the path and the block
it is about. -/
inductive CrlError where
  | revoked (serial : Option Int) (revocationTime : Time)
  | stale (issuer : String)
  | signature (path : String) (idx : Nat) (cause : String)
  | noIssuer (path : String) (idx : Nat)
  | missingNextUpdate (path : String) (idx : Nat)
  | weakSignature (path : String) (idx : Nat) (alg : SignatureAlgorithm)
  | canonicalise (path : String) (idx : Nat) (cause : String)
  | read (path cause : String)
  | parse (path cause : String)
  | noTrustedCAs
  deriving DecidableEq

/-! ## Canonical names -/

/-- An attribute value as `asn1.Unmarshal` hands it out: a string, an octet
string, or something `%v` prints. -/
inductive AttributeValue where
  | string (s : Bytes)
  | bytes (b : Bytes)
  | other (shown : Bytes)
  deriving DecidableEq

/-- `pkix.AttributeTypeAndValue`. -/
structure AttributeTypeAndValue where
  type : List Nat
  value : AttributeValue
  deriving DecidableEq

abbrev RDNSequence := List (List AttributeTypeAndValue)

/-- A PEM block. -/
structure PemBlock where
  type : String
  bytes : Bytes

/-- The parts of the Go library behind this file: `asn1.Unmarshal` of a name,
`sort.Slice` of attributes by `cmpOID` of their types (which leaves open how
attributes of one type come out), `strings.Fields`, `strings.ToLower`, the
blocks that repeated `pem.Decode` finds, `x509.ParseRevocationList` and
`RevocationList.CheckSignatureFrom`. -/
structure X509 where
  unmarshalName : Bytes → Except String RDNSequence
  sortSlice : List AttributeTypeAndValue → List AttributeTypeAndValue
  fields : Bytes → List Bytes
  toLower : Bytes → Bytes
  pemBlocks : Bytes → List PemBlock
  parseRevocationList : Bytes → Except String RevocationList
  checkSignatureFrom : RevocationList → Certificate → Except String Unit

variable (X : X509)

/-- mirrors src/verifier/store/crl.go:243-246 -/
def foldDirectoryString (s : Bytes) : Bytes := X.toLower (List.intercalate (ascii " ") (X.fields s))

/-- mirrors src/verifier/store/crl.go:248-268, as the order it defines -/
def cmpOID : List Nat → List Nat → Ordering
  | [], [] => .eq
  | [], _ :: _ => .lt
  | _ :: _, [] => .gt
  | a :: as, b :: bs => if a = b then cmpOID as bs else if a < b then .lt else .gt

/-- `asn1.ObjectIdentifier.String`. -/
def oidString (oid : List Nat) : Bytes :=
  List.intercalate (ascii ".") (oid.map fun n => ascii (toString n))

def avaText (ava : AttributeTypeAndValue) : Bytes :=
  oidString ava.type ++ ascii "=" ++
    match ava.value with
    | .string s => foldDirectoryString X s
    | .bytes b => foldDirectoryString X b
    | .other shown => shown

/-- One RDN: the attributes in the order of their types, 0x1f between them
and 0x1e behind. -/
def rdnText (rdn : List AttributeTypeAndValue) : Bytes :=
  List.intercalate [0x1f] ((X.sortSlice rdn).map (avaText X)) ++ [0x1e]

/-- mirrors src/verifier/store/crl.go:202-234 (`canonicalIssuerKey`) -/
def canonicalIssuerKey (rawIssuer : Bytes) : Except String Bytes :=
  match X.unmarshalName rawIssuer with
  | .error e => .error e
  | .ok seq => .ok (seq.flatMap (rdnText X))

/-! ## Loading -/

/-- mirrors src/verifier/store/crl.go:69-71 -/
structure RevocationListSet where
  byIssuer : GoMap Bytes (List RevocationList)

/-- mirrors src/verifier/store/crl.go:73-77 -/
def newRevocationListSet : RevocationListSet := ⟨∅⟩

namespace RevocationListSet

/-- The lists under a key. -/
def bucket (s : RevocationListSet) (key : Bytes) : List RevocationList :=
  (s.byIssuer.lookup key).getD []

/-- The loop over the CAs; `sigErr` is the last error so far.
mirrors src/verifier/store/crl.go:152-181 -/
def findSigner (crl : RevocationList) (crlKey : Bytes) :
    List Certificate → Option String → Except (Option String) Unit
  | [], sigErr => .error sigErr
  | ca :: cas, sigErr =>
    match canonicalIssuerKey X ca.rawSubject with
    | .error e => findSigner crl crlKey cas (some ("canonicalise CA subject DN: " ++ e))
    | .ok caKey =>
      if caKey ≠ crlKey then findSigner crl crlKey cas sigErr
      else match X.checkSignatureFrom crl ca with
        | .error e => findSigner crl crlKey cas (some e)
        | .ok () => .ok ()

/-- mirrors src/verifier/store/crl.go:113-184 -/
def verifyAndAdd (s : RevocationListSet) (path : String) (idx : Nat) (crl : RevocationList)
    (cas : List Certificate) : Except CrlError RevocationListSet :=
  if crl.nextUpdate = zeroTime then .error (.missingNextUpdate path idx)
  else if crl.signatureAlgorithm ∉ crlAllowedSignatureAlgorithms then
    .error (.weakSignature path idx crl.signatureAlgorithm)
  else match canonicalIssuerKey X crl.rawIssuer with
  | .error e => .error (.canonicalise path idx e)
  | .ok crlKey =>
    match findSigner X crl crlKey cas none with
    | .error (some e) => .error (.signature path idx e)
    | .error none => .error (.noIssuer path idx)
    | .ok () => .ok ⟨s.byIssuer.insert crlKey (s.bucket crlKey ++ [crl])⟩

/-- The loop over the lists of a file.
mirrors src/verifier/store/crl.go:100-104 -/
def verifyAndAddAll (path : String) (cas : List Certificate) :
    List RevocationList → Nat → RevocationListSet → Except CrlError RevocationListSet
  | [], _, s => .ok s
  | crl :: crls, idx, s =>
    match s.verifyAndAdd X path idx crl cas with
    | .error e => .error e
    | .ok s' => verifyAndAddAll path cas crls (idx + 1) s'

end RevocationListSet

/-- The loop over the PEM blocks.
mirrors src/verifier/store/crl.go:286-296 -/
def parseBlocks : List PemBlock → Nat → Except String (List RevocationList)
  | [], _ => .ok []
  | block :: blocks, blockIdx =>
    if block.type = "X509 CRL" then
      match X.parseRevocationList block.bytes with
      | .error e => .error (s!"parse PEM block {blockIdx}: " ++ e)
      | .ok crl =>
        match parseBlocks blocks (blockIdx + 1) with
        | .error e => .error e
        | .ok crls => .ok (crl :: crls)
    else parseBlocks blocks (blockIdx + 1)

/-- mirrors src/verifier/store/crl.go:276-301 -/
def parseCRL (data : Bytes) : Except String (List RevocationList) :=
  match X.pemBlocks data with
  | [] =>
    match X.parseRevocationList data with
    | .error e => .error e
    | .ok crl => .ok [crl]
  | block :: blocks =>
    match parseBlocks X (block :: blocks) 0 with
    | .error e => .error e
    | .ok [] => .error "no X509 CRL PEM blocks found"
    | .ok (crl :: crls) => .ok (crl :: crls)

namespace RevocationListSet

/-- `file` is what `os.ReadFile(path)` returns.
mirrors src/verifier/store/crl.go:85-106 -/
def loadAndVerify (s : RevocationListSet) (path : String) (file : Except String Bytes)
    (cas : List Certificate) : Except CrlError RevocationListSet :=
  if cas.length = 0 then .error .noTrustedCAs
  else match file with
  | .error e => .error (.read path e)
  | .ok data =>
    match parseCRL X data with
    | .error e => .error (.parse path e)
    | .ok crls => verifyAndAddAll X path cas crls 0 s

end RevocationListSet

/-- The loop of `buildRevocationListSet` over the configured paths. -/
def loadFiles (cas : List Certificate) :
    List (String × Except String Bytes) → RevocationListSet → Except CrlError RevocationListSet
  | [], s => .ok s
  | (path, file) :: files, s =>
    match s.loadAndVerify X path file cas with
    | .error e => .error e
    | .ok s' => loadFiles cas files s'

/-- mirrors src/verifier/store/aik.go:859-867 -/
def buildRevocationListSet (files : List (String × Except String Bytes)) (cas : List Certificate) :
    Except CrlError RevocationListSet :=
  loadFiles X cas files newRevocationListSet

/-! ## Checking a certificate -/

/-- mirrors src/verifier/store/crl.go:335-341 and 368-373; serial numbers are
only compared with 0. -/
def serialMatches (cert : Certificate) (entry : RevokedEntry) : Bool :=
  match entry.serialNumber, cert.serialNumber with
  | some a, some b => a == b
  | _, _ => false

/-- A zero `NextUpdate` counts as past. -/
def RevocationList.isStale (crl : RevocationList) (now : Time) : Bool :=
  crl.nextUpdate = zeroTime ∨ now > crl.nextUpdate

/-- The loop over the lists of the issuer.
mirrors src/verifier/store/crl.go:326-352 -/
def checkLists (cert : Certificate) (now : Time) : List RevocationList → Bool → Except CrlError Unit
  | [], allStale => if allStale then .error (.stale cert.issuer) else .ok ()
  | crl :: crls, allStale =>
    if crl.isStale now then checkLists cert now crls allStale
    else match crl.revokedCertificateEntries.find? (serialMatches cert) with
      | some entry => .error (.revoked cert.serialNumber entry.revocationTime)
      | none => checkLists cert now crls false

/-- mirrors src/verifier/store/crl.go:304-353; a `nil` set answers as an
empty one. -/
def RevocationListSet.check (s : RevocationListSet) (cert : Certificate) (now : Time) :
    Except CrlError Unit :=
  if s.byIssuer.keys.length = 0 then .ok ()
  else match canonicalIssuerKey X cert.rawIssuer with
  | .error _ => .ok ()
  | .ok key =>
    match s.byIssuer.lookup key with
    | none => .ok ()
    | some [] => .ok ()
    | some (crl :: crls) => checkLists cert now (crl :: crls) true

/-! ## What a set holds -/

variable {X}

/-- A list that was loaded. -/
def RevocationListSet.Loaded (s : RevocationListSet) (crl : RevocationList) : Prop :=
  ∃ key, crl ∈ s.bucket key

/-- The canonical names agree. -/
def SameIssuer (X : X509) (crl : RevocationList) (cert : Certificate) : Prop :=
  ∃ key, canonicalIssuerKey X crl.rawIssuer = .ok key ∧ canonicalIssuerKey X cert.rawIssuer = .ok key

/-- A loaded list of the certificate's issuer. -/
def RevocationListSet.Matches (X : X509) (s : RevocationListSet) (cert : Certificate)
    (crl : RevocationList) : Prop :=
  s.Loaded crl ∧ SameIssuer X crl cert

/-- The list names the certificate. -/
def RevocationList.Names (crl : RevocationList) (cert : Certificate) : Prop :=
  ∃ entry ∈ crl.revokedCertificateEntries, ∃ serial, entry.serialNumber = some serial ∧
    cert.serialNumber = some serial

/-- Every list stands under the canonical name of its issuer. -/
def RevocationListSet.Filed (X : X509) (s : RevocationListSet) : Prop :=
  ∀ key, ∀ crl ∈ s.bucket key, canonicalIssuerKey X crl.rawIssuer = .ok key

theorem new_filed : newRevocationListSet.Filed X := by
  intro key crl h
  cases h

theorem verifyAndAdd_filed {s s' : RevocationListSet} {path : String} {idx : Nat} {crl : RevocationList}
    {cas : List Certificate} (hs : s.Filed X) (h : s.verifyAndAdd X path idx crl cas = .ok s') :
    s'.Filed X := by
  unfold RevocationListSet.verifyAndAdd at h
  obtain ⟨-, h⟩ := except_guard_ok.mp h
  obtain ⟨-, h⟩ := except_guard_ok.mp h
  cases hkey : canonicalIssuerKey X crl.rawIssuer with
  | error e => rw [hkey] at h; cases h
  | ok crlKey =>
    rw [hkey] at h
    cases hsig : RevocationListSet.findSigner X crl crlKey cas none with
    | error e => cases e <;> (simp only [hsig] at h; cases h)
    | ok u =>
      simp only [hsig] at h
      cases h
      intro key crl' hmem
      unfold RevocationListSet.bucket at hmem
      simp only at hmem
      rw [lookup_insert_ite] at hmem
      split at hmem
      · rename_i hk
        rw [Option.getD_some, List.mem_append, List.mem_singleton] at hmem
        rcases hmem with hold | hnew
        · rw [hk]
          exact hs crlKey crl' hold
        · rw [hk, hnew]
          exact hkey
      · exact hs key crl' hmem

theorem verifyAndAddAll_filed {path : String} {cas : List Certificate} {crls : List RevocationList}
    {idx : Nat}
    {s s' : RevocationListSet} (hs : s.Filed X)
    (h : RevocationListSet.verifyAndAddAll X path cas crls idx s = .ok s') : s'.Filed X := by
  induction crls generalizing idx s with
  | nil =>
    cases h
    exact hs
  | cons crl crls ih =>
    unfold RevocationListSet.verifyAndAddAll at h
    cases hadd : s.verifyAndAdd X path idx crl cas with
    | error e => rw [hadd] at h; cases h
    | ok s₁ =>
      rw [hadd] at h
      exact ih (verifyAndAdd_filed hs hadd) h

theorem loadFiles_filed {cas : List Certificate} {files : List (String × Except String Bytes)}
    {s s' : RevocationListSet}
    (hs : s.Filed X) (h : loadFiles X cas files s = .ok s') : s'.Filed X := by
  induction files generalizing s with
  | nil =>
    cases h
    exact hs
  | cons file files ih =>
    obtain ⟨path, content⟩ := file
    unfold loadFiles at h
    cases hload : s.loadAndVerify X path content cas with
    | error e => rw [hload] at h; cases h
    | ok s₁ =>
      rw [hload] at h
      refine ih ?_ h
      unfold RevocationListSet.loadAndVerify at hload
      obtain ⟨-, hload⟩ := except_guard_ok.mp hload
      cases content with
      | error e => cases hload
      | ok data =>
        cases hparse : parseCRL X data with
        | error e => simp only [hparse] at hload; cases hload
        | ok crls =>
          simp only [hparse] at hload
          exact verifyAndAddAll_filed hs hload

/-- **Filing.** -/
theorem build_filed {files : List (String × Except String Bytes)} {cas : List Certificate}
    {s : RevocationListSet}
    (h : buildRevocationListSet X files cas = .ok s) : s.Filed X :=
  loadFiles_filed new_filed h

/-- The lists `check` looks at are the loaded ones of the issuer. -/
theorem Filed.matches_iff {s : RevocationListSet} (hs : s.Filed X) {cert : Certificate} {key : Bytes}
    (hkey : canonicalIssuerKey X cert.rawIssuer = .ok key) (crl : RevocationList) :
    s.Matches X cert crl ↔ crl ∈ s.bucket key := by
  constructor
  · intro ⟨⟨k, hmem⟩, k', hcrl, hcert⟩
    have hk : k = k' := Except.ok.inj ((hs k crl hmem).symm.trans hcrl)
    have hk' : k' = key := Except.ok.inj (hcert.symm.trans hkey)
    rw [← hk', ← hk]
    exact hmem
  · intro hmem
    exact ⟨⟨key, hmem⟩, key, hs key crl hmem, hkey⟩

/-! ## When `check` refuses -/

theorem serialMatches_iff {cert : Certificate} {entry : RevokedEntry} :
    serialMatches cert entry = true ↔ ∃ serial, entry.serialNumber = some serial ∧
    cert.serialNumber = some serial := by
  unfold serialMatches
  cases he : entry.serialNumber with
  | none => simp
  | some a =>
    cases hc : cert.serialNumber with
    | none => simp
    | some b =>
      simp only [beq_iff_eq, Option.some.injEq]
      constructor
      · intro h
        exact ⟨a, rfl, h.symm⟩
      · intro ⟨n, ha, hb⟩
        rw [ha, hb]

theorem find_names {crl : RevocationList} {cert : Certificate} :
    (crl.revokedCertificateEntries.find? (serialMatches cert)).isSome ↔ crl.Names cert := by
  rw [List.find?_isSome]
  constructor
  · intro ⟨entry, hmem, hm⟩
    exact ⟨entry, hmem, serialMatches_iff.mp hm⟩
  · intro ⟨entry, hmem, hm⟩
    exact ⟨entry, hmem, serialMatches_iff.mpr hm⟩

/-- The loop refuses if a fresh list names the certificate, or if every list
was stale and the flag was still up. -/
theorem checkLists_error_iff {cert : Certificate} {now : Time} {crls : List RevocationList}
    {allStale : Bool} : (∃ e, checkLists cert now crls allStale = .error e) ↔
      (∃ crl ∈ crls, crl.isStale now = false ∧ crl.Names cert) ∨
      (allStale = true ∧ ∀ crl ∈ crls, crl.isStale now = true) := by
  induction crls generalizing allStale with
  | nil =>
    unfold checkLists
    cases allStale <;> simp
  | cons crl crls ih =>
    unfold checkLists
    cases hst : crl.isStale now with
    | true => simp [hst, ih]
    | false =>
      cases hf : crl.revokedCertificateEntries.find? (serialMatches cert) with
      | some entry =>
        have hn : crl.Names cert := find_names.mp (by rw [hf]; rfl)
        simp [hst, hn]
      | none =>
        have hn : ¬ crl.Names cert := by
          intro h
          have := find_names.mpr h
          rw [hf] at this
          cases this
        simp [hst, hn, ih]

theorem check_eq {s : RevocationListSet} {cert : Certificate} {now : Time} {key : Bytes}
    (hkey : canonicalIssuerKey X cert.rawIssuer = .ok key) :
    (∃ e, s.check X cert now = .error e) ↔
      s.bucket key ≠ [] ∧ ∃ e, checkLists cert now (s.bucket key) true = .error e := by
  unfold RevocationListSet.check RevocationListSet.bucket
  simp only [hkey]
  cases hl : s.byIssuer.lookup key with
  | none => simp
  | some crls =>
    have hne : ¬ s.byIssuer.keys.length = 0 := by
      intro h0
      have hmem : key ∈ s.byIssuer := AList.lookup_isSome.mp (by rw [hl]; rfl)
      rw [AList.mem_keys, List.length_eq_zero_iff.mp h0] at hmem
      cases hmem
    rw [if_neg hne]
    cases crls <;> simp

/-- **Refusal.** `check` refuses a certificate if a fresh list of its issuer
names it, or if there are lists of its issuer and none is fresh. -/
theorem check_error_iff {s : RevocationListSet} (hs : s.Filed X) {cert : Certificate} {now : Time} :
    (∃ e, s.check X cert now = .error e) ↔
      (∃ crl, s.Matches X cert crl ∧ crl.isStale now = false ∧ crl.Names cert) ∨
      ((∃ crl, s.Matches X cert crl) ∧ ∀ crl, s.Matches X cert crl → crl.isStale now = true) := by
  cases hkey : canonicalIssuerKey X cert.rawIssuer with
  | error e =>
    have hno : ∀ crl, ¬ s.Matches X cert crl := by
      intro crl ⟨_, key, _, hcert⟩
      rw [hkey] at hcert
      cases hcert
    have hok : s.check X cert now = .ok () := by
      unfold RevocationListSet.check
      simp only [hkey, ite_self]
    simp [hok, hno]
  | ok key =>
    rw [check_eq hkey, checkLists_error_iff]
    simp only [Filed.matches_iff hs hkey, true_and]
    constructor
    · intro ⟨hne, h⟩
      rcases h with h | h
      · exact .inl h
      · exact .inr ⟨List.exists_mem_of_ne_nil _ hne, h⟩
    · intro h
      rcases h with ⟨crl, hmem, h⟩ | ⟨⟨crl, hmem⟩, h⟩
      · exact ⟨List.ne_nil_of_mem hmem, .inl ⟨crl, hmem, h⟩⟩
      · exact ⟨List.ne_nil_of_mem hmem, .inr h⟩

/-- **Fail closed.** For every set of loaded lists, every certificate and
every time: that a certificate named by a matching list is refused holds
exactly when no matching list names it, or no matching list is fresh, or a
fresh one names it. -/
theorem revoked_refused_iff {files : List (String × Except String Bytes)} {cas : List Certificate}
    {s : RevocationListSet} (h : buildRevocationListSet X files cas = .ok s) (cert : Certificate)
    (now : Time) :
    ((∃ crl, s.Matches X cert crl ∧ crl.Names cert) → ∃ e, s.check X cert now = .error e) ↔
      (∀ crl, s.Matches X cert crl → ¬ crl.Names cert) ∨
      (∀ crl, s.Matches X cert crl → crl.isStale now = true) ∨
      ∃ crl, s.Matches X cert crl ∧ crl.isStale now = false ∧ crl.Names cert := by
  rw [check_error_iff (build_filed h)]
  constructor
  · intro himp
    by_cases hn : ∃ crl, s.Matches X cert crl ∧ crl.Names cert
    · rcases himp hn with hfresh | ⟨-, hstale⟩
      · exact .inr (.inr hfresh)
      · exact .inr (.inl hstale)
    · refine .inl fun crl hm hname => hn ⟨crl, hm, hname⟩
  · intro hcond ⟨crl, hm, hname⟩
    rcases hcond with hnone | hstale | hfresh
    · exact absurd hname (hnone crl hm)
    · exact .inr ⟨⟨crl, hm⟩, hstale⟩
    · exact .inl hfresh

/-! ## Two lists of one issuer -/

/-- The name `CN=CA`. -/
def caName : Bytes :=
  [0x30, 0x0d, 0x31, 0x0b, 0x30, 0x09, 0x06, 0x03, 0x55, 0x04, 0x03, 0x0c, 0x02, 0x43, 0x41]

/-- A list of January 2026 without entries, signed with an Ed25519 key. -/
def freshDer : Bytes :=
  [0x30, 0x81, 0x93, 0x30, 0x47, 0x02, 0x01, 0x01, 0x30, 0x05, 0x06, 0x03, 0x2b, 0x65, 0x70, 0x30, 0x0d,
   0x31, 0x0b, 0x30, 0x09, 0x06, 0x03, 0x55, 0x04, 0x03, 0x0c, 0x02, 0x43, 0x41, 0x17, 0x0d, 0x32, 0x36,
   0x30, 0x31, 0x30, 0x31, 0x30, 0x30, 0x30, 0x30, 0x30, 0x30, 0x5a, 0x17, 0x0d, 0x32, 0x36, 0x30, 0x32,
   0x30, 0x31, 0x30, 0x30, 0x30, 0x30, 0x30, 0x30, 0x5a, 0xa0, 0x0e, 0x30, 0x0c, 0x30, 0x0a, 0x06, 0x03,
   0x55, 0x1d, 0x14, 0x04, 0x03, 0x02, 0x01, 0x01, 0x30, 0x05, 0x06, 0x03, 0x2b, 0x65, 0x70, 0x03, 0x41,
   0x00, 0x3d, 0xba, 0x9f, 0xfd, 0x19, 0x38, 0x0f, 0xc9, 0xf2, 0x36, 0xe0, 0x3b, 0xc6, 0xb1, 0x72, 0x81,
   0xa5, 0x29, 0x89, 0xce, 0xa0, 0x62, 0x2f, 0x3c, 0x70, 0x1d, 0x22, 0x92, 0xe5, 0xbf, 0x43, 0x0a, 0x9d,
   0x9e, 0xf1, 0x8a, 0xe8, 0x5e, 0x0c, 0xa6, 0xeb, 0x3a, 0xaa, 0xd8, 0xf3, 0x77, 0x71, 0x0a, 0x27, 0xf6,
   0xec, 0x37, 0x29, 0x0f, 0x45, 0x27, 0x83, 0x11, 0x87, 0x98, 0x7b, 0x03, 0x79, 0x08]

/-- A list of July 2025 that revokes serial number 5. -/
def oldDer : Bytes :=
  [0x30, 0x81, 0xa9, 0x30, 0x5d, 0x02, 0x01, 0x01, 0x30, 0x05, 0x06, 0x03, 0x2b, 0x65, 0x70, 0x30, 0x0d,
   0x31, 0x0b, 0x30, 0x09, 0x06, 0x03, 0x55, 0x04, 0x03, 0x0c, 0x02, 0x43, 0x41, 0x17, 0x0d, 0x32, 0x35,
   0x30, 0x37, 0x30, 0x31, 0x30, 0x30, 0x30, 0x30, 0x30, 0x30, 0x5a, 0x17, 0x0d, 0x32, 0x35, 0x30, 0x38,
   0x30, 0x31, 0x30, 0x30, 0x30, 0x30, 0x30, 0x30, 0x5a, 0x30, 0x14, 0x30, 0x12, 0x02, 0x01, 0x05, 0x17,
   0x0d, 0x32, 0x35, 0x30, 0x36, 0x30, 0x31, 0x30, 0x30, 0x30, 0x30, 0x30, 0x30, 0x5a, 0xa0, 0x0e, 0x30,
   0x0c, 0x30, 0x0a, 0x06, 0x03, 0x55, 0x1d, 0x14, 0x04, 0x03, 0x02, 0x01, 0x02, 0x30, 0x05, 0x06, 0x03,
   0x2b, 0x65, 0x70, 0x03, 0x41, 0x00, 0x29, 0xd5, 0x28, 0x46, 0x13, 0x9f, 0xc7, 0x52, 0x7b, 0xaf, 0x79,
   0x80, 0x47, 0x36, 0x9e, 0x62, 0x12, 0x26, 0x1b, 0x81, 0x19, 0xd9, 0x07, 0x50, 0x61, 0x12, 0xf9, 0xab,
   0x51, 0x60, 0xab, 0x47, 0x3c, 0x0a, 0x29, 0x8f, 0x45, 0x0d, 0xf9, 0x75, 0x12, 0x52, 0x95, 0x9a, 0xb3,
   0x1a, 0xdb, 0x96, 0xf9, 0x62, 0xbc, 0xb1, 0x7f, 0x3d, 0x07, 0x66, 0x51, 0x09, 0x53, 0xd2, 0x77, 0xab,
   0x81, 0x01]

def freshList : RevocationList where
  rawIssuer := caName
  signatureAlgorithm := .pureEd25519
  nextUpdate := 1769904000000000000
  revokedCertificateEntries := []
  signature := freshDer.drop 86

def oldList : RevocationList where
  rawIssuer := caName
  signatureAlgorithm := .pureEd25519
  nextUpdate := 1754006400000000000
  revokedCertificateEntries := [{ serialNumber := some 5, revocationTime := 1748736000000000000 }]
  signature := oldDer.drop 108

/-- The library as it answers on these bytes. -/
def sampleX : X509 where
  unmarshalName := fun raw =>
    if raw = caName then .ok [[{ type := [2, 5, 4, 3], value := .string (ascii "CA") }]]
    else .error "asn1: structure error"
  sortSlice := fun rdn => rdn.insertionSort fun a b => cmpOID a.type b.type ≠ .gt
  fields := fun s => (s.splitOnP (· == 0x20)).filter (· ≠ [])
  toLower := fun s => s.map fun c => if 0x41 ≤ c ∧ c ≤ 0x5a then c + 0x20 else c
  pemBlocks := fun _ => []
  parseRevocationList := fun der =>
    if der = freshDer then .ok freshList
    else if der = oldDer then .ok oldList
    else .error "x509: malformed crl"
  checkSignatureFrom := fun crl ca =>
    if ca.rawSubject = caName ∧ (crl = freshList ∨ crl = oldList) then .ok ()
    else .error "x509: Ed25519 verification failure"

def sampleCA : Certificate where
  rawSubject := caName
  rawIssuer := caName
  serialNumber := some 1
  issuer := "CN=CA"

/-- A certificate with serial number 5, issued by the CA. -/
def revokedCert : Certificate where
  rawSubject := []
  rawIssuer := caName
  serialNumber := some 5
  issuer := "CN=CA"

/-- 15 January 2026. -/
def sampleNow : Time := 1768435200000000000

def sampleFiles : List (String × Except String Bytes) :=
  [("old.crl", .ok oldDer), ("fresh.crl", .ok freshDer)]

/-- `2.5.4.3=ca` and the separator. -/
def caKey : Bytes := ascii "2.5.4.3=ca" ++ [0x1e]

theorem caName_key : canonicalIssuerKey sampleX caName = .ok caKey := by decide +kernel

/-- Both lists under one name. -/
def bothLists : RevocationListSet := ⟨AList.singleton caKey [oldList, freshList]⟩

theorem lookup_singleton (key : Bytes) (crls : List RevocationList) :
    (AList.singleton key crls : GoMap Bytes (List RevocationList)).lookup key = some crls := by
  rw [← AList.insert_empty, AList.lookup_insert]

theorem build_bothLists : buildRevocationListSet sampleX sampleFiles [sampleCA] = .ok bothLists := by
  have hold : RevocationListSet.findSigner sampleX oldList caKey [sampleCA] none = .ok () := by
    unfold RevocationListSet.findSigner
    have hsubj : sampleCA.rawSubject = caName := rfl
    have hsig : sampleX.checkSignatureFrom oldList sampleCA = .ok () := by decide +kernel
    simp only [hsubj, caName_key, hsig, ne_eq, not_true, if_false]
  have hfresh : RevocationListSet.findSigner sampleX freshList caKey [sampleCA] none = .ok () := by
    unfold RevocationListSet.findSigner
    have hsubj : sampleCA.rawSubject = caName := rfl
    have hsig : sampleX.checkSignatureFrom freshList sampleCA = .ok () := by decide +kernel
    simp only [hsubj, caName_key, hsig, ne_eq, not_true, if_false]
  have hiold : oldList.rawIssuer = caName := rfl
  have hifresh : freshList.rawIssuer = caName := rfl
  have hpold : parseCRL sampleX oldDer = .ok [oldList] := by decide +kernel
  have hpfresh : parseCRL sampleX freshDer = .ok [freshList] := by decide +kernel
  have hadd1 : newRevocationListSet.verifyAndAdd sampleX "old.crl" 0 oldList [sampleCA] =
      .ok ⟨AList.singleton caKey [oldList]⟩ := by
    unfold RevocationListSet.verifyAndAdd
    rw [if_neg (by decide), if_neg (by decide)]
    simp only [hiold, caName_key, hold]
    rfl
  have hadd2 : (⟨AList.singleton caKey [oldList]⟩ : RevocationListSet).verifyAndAdd sampleX
      "fresh.crl" 0 freshList
      [sampleCA] = .ok bothLists := by
    unfold RevocationListSet.verifyAndAdd
    rw [if_neg (by decide), if_neg (by decide)]
    simp only [hifresh, caName_key, hfresh]
    simp [RevocationListSet.bucket, bothLists, lookup_singleton]
  unfold buildRevocationListSet sampleFiles loadFiles RevocationListSet.loadAndVerify
  simp [hpold, hpfresh, RevocationListSet.verifyAndAddAll, hadd1, hadd2, loadFiles,
    RevocationListSet.loadAndVerify]

/-- The certificate passes `check`, the old list alone names it. -/
theorem bothLists_facts : bothLists.check sampleX revokedCert sampleNow = .ok () ∧
    (∃ crl, bothLists.Matches sampleX revokedCert crl ∧ crl.Names revokedCert) := by
  have hkey : canonicalIssuerKey sampleX revokedCert.rawIssuer = .ok caKey := caName_key
  have hlookup : bothLists.byIssuer.lookup caKey = some [oldList, freshList] := lookup_singleton _ _
  constructor
  · unfold RevocationListSet.check
    rw [if_neg (by simp [bothLists]), hkey]
    simp only [hlookup]
    decide +kernel
  · refine ⟨oldList, ⟨⟨caKey, ?_⟩, caKey, caName_key, hkey⟩, _, List.mem_singleton_self _, 5, rfl, rfl⟩
    unfold RevocationListSet.bucket
    rw [hlookup]
    exact List.mem_cons_self ..

/-- The condition fails for it. -/
theorem revoked_refused_old :
    ¬ ((∀ crl, bothLists.Matches sampleX revokedCert crl → ¬ crl.Names revokedCert) ∨
      (∀ crl, bothLists.Matches sampleX revokedCert crl → crl.isStale sampleNow = true) ∨
      ∃ crl, bothLists.Matches sampleX revokedCert crl ∧ crl.isStale sampleNow = false ∧
      crl.Names revokedCert) := by
  rw [← revoked_refused_iff build_bothLists revokedCert sampleNow]
  intro h
  obtain ⟨e, he⟩ := h bothLists_facts.2
  rw [bothLists_facts.1] at he
  cases he

/-- **Counterexample.** Serial number 5 is revoked by a loaded list of its
issuer and passes, because that list is past its `NextUpdate` and the other
one is not. -/
theorem stale_revocation_lost :
    buildRevocationListSet sampleX sampleFiles [sampleCA] = .ok bothLists ∧
      (∃ crl, bothLists.Matches sampleX revokedCert crl ∧ crl.Names revokedCert) ∧
      bothLists.check sampleX revokedCert sampleNow = .ok () :=
  ⟨build_bothLists, bothLists_facts.2, bothLists_facts.1⟩

end Lota.L2.Crl

import Lota.Core.Machine
import Lota.Core.Pem
import Lota.Core.Rsa
import Lota.Core.Sha256
import Mathlib.Data.List.Infix

/-!
# The file store of AIKs (`verifier/store/aik.go`)

Each client's key is a PEM file in one directory; the store keeps a cache of
the keys and an index from their fingerprints back to the clients. A key file
is opened, written and closed, and each of the three may fail. `RegisterAIK`
creates the file and removes it again on a failure; `RotateAIK` truncates the
file it overwrites.

* `newFileStore_loaded`: what a fresh store loads from a directory, and when.
* `step_inv`, `run_inv`: cache, index and directory stay together.
* `kept_iff_clean`: a call keeps its promise exactly when a failed write does not
  show in the directory.
* `aik_store_consistent`: over every run in which a failed write does not change
  what the directory holds.
* `failed_rotation_loses_key`: a rotation that fails behind the open.
-/
namespace Lota.L2.FileAik
open Lota.Core

/-- A client ID or a file name. -/
abbrev Name := List Char

/-- An RSA key as `x509` reads it: both numbers positive, the exponent an `int`. -/
structure AikKey extends RSAPublicKey where
  n_pos : 0 < n
  e_pos : 0 < e
  e_lt : e < 2 ^ 63
  deriving DecidableEq

/-- mirrors src/verifier/store/aik.go:547-552 -/
def publicKeysEqual (a b : AikKey) : Bool := if a.n ≠ b.n then false else a.e = b.e

theorem publicKeysEqual_iff {a b : AikKey} : publicKeysEqual a b = true ↔ a = b := by
  obtain ⟨⟨n, e⟩, hn, he, hlt⟩ := a
  obtain ⟨⟨n', e'⟩, hn', he', hlt'⟩ := b
  unfold publicKeysEqual
  by_cases h : n = n'
  · simp [h]
  · simp [h]

/-- `crypto/x509`, `encoding/pem` and `encoding/json` as far as the store uses
them; a key that is no RSA key is parsed to `none`. -/
structure Codec where
  marshalPKIXPublicKey : AikKey → Except String Bytes
  parsePKIXPublicKey : Bytes → Except String (Option AikKey)
  /-- `pem.Encode` of a block of type "PUBLIC KEY". -/
  encodePEM : Bytes → Bytes
  /-- The bytes of the first block that `pem.Decode` finds. -/
  decodePEM : Bytes → Option Bytes
  marshalMeta : Int → Except String Bytes
  unmarshalMeta : Bytes → Except String Int

/-- What is encoded is read back. -/
structure Codec.Lawful (X : Codec) : Prop where
  decode_encode : ∀ der, X.decodePEM (X.encodePEM der) = some der
  parse_marshal : ∀ key der, X.marshalPKIXPublicKey key = .ok der →
    X.parsePKIXPublicKey der = .ok (some key)

variable (X : Codec)

/-- mirrors src/verifier/store/aik.go:555-561 -/
def fingerprintFromDER (spkiDER : Bytes) : String :=
  if spkiDER.length = 0 then "" else hexEncode (sha256 spkiDER).toList

/-- mirrors src/verifier/store/aik.go:564-570 -/
def fingerprint (key : AikKey) : String :=
  match X.marshalPKIXPublicKey key with
  | .error _ => ""
  | .ok keyBytes => fingerprintFromDER keyBytes

/-! ## The directory -/

inductive Entry where
  | file (data : Bytes)
  | dir
  deriving DecidableEq

abbrev Dir := GoMap Name Entry

def pemSuffix : Name := ['.', 'p', 'e', 'm']
def hwidSuffix : Name := ['.', 'h', 'w', 'i', 'd']
def metaSuffix : Name := ['.', 'm', 'e', 't', 'a']

/-- `filepath.Ext` of a name without separators: from the last dot on. -/
def extOf : Name → Name
  | [] => []
  | c :: cs => if extOf cs ≠ [] then extOf cs else if c = '.' then c :: cs else []

/-- `name[:len(name)-len(ext)]`. -/
def stemOf (name : Name) : Name := name.take (name.length - (extOf name).length)

/-- Which reads fail while a store is opened. -/
structure ReadFaults where
  readDir : Bool
  read : Name → Bool

def ReadFaults.none : ReadFaults := ⟨false, fun _ => false⟩

/-- `os.ReadFile` -/
def readFile (F : ReadFaults) (d : Dir) (name : Name) : Except String Bytes :=
  if F.read name then .error "read error"
  else match d.lookup name with
  | none => .error "no such file or directory"
  | some .dir => .error "is a directory"
  | some (.file data) => .ok data

inductive OpenFlag where
  | excl
  | trunc
  deriving DecidableEq

/-- `os.OpenFile` with `O_WRONLY|O_CREATE` and the flag: an empty file. -/
def openFile (fails : Bool) (flag : OpenFlag) (d : Dir) (name : Name) : Option Dir :=
  if fails then none
  else match flag, d.lookup name with
  | .excl, some _ => none
  | _, some .dir => none
  | _, _ => some (d.insert name (.file []))

/-! ## Loading -/

/-- mirrors src/verifier/store/aik.go:134-141 -/
structure FileStore where
  cache : GoMap Name AikKey := ∅
  fpIndex : GoMap String Name := ∅
  hardwareIDs : GoMap Name (Blob 32) := ∅
  registeredAt : GoMap Name Int := ∅

/-- mirrors src/verifier/store/aik.go:229-244 -/
def parseKey (data : Bytes) : Except String AikKey :=
  match X.decodePEM data with
  | none => .error "failed to decode PEM block"
  | some block =>
    match X.parsePKIXPublicKey block with
    | .error e => .error ("failed to parse public key: " ++ e)
    | .ok none => .error "not an RSA public key"
    | .ok (some key) => .ok key

/-- mirrors src/verifier/store/aik.go:222-245 -/
def loadKey (F : ReadFaults) (d : Dir) (clientID : Name) : Except String AikKey :=
  (readFile F d (clientID ++ pemSuffix)).bind (parseKey X)

/-- mirrors src/verifier/store/aik.go:247-262 -/
def loadHardwareID (F : ReadFaults) (d : Dir) (clientID : Name) : Except String (Blob 32) :=
  (readFile F d (clientID ++ hwidSuffix)).bind fun data =>
    if data.length ≠ 32 then .error s!"invalid hardware ID size: {data.length}"
      else .ok (toBlob 32 data)

/-- mirrors src/verifier/store/aik.go:264-277 -/
def loadMeta (F : ReadFaults) (d : Dir) (clientID : Name) : Except String Int :=
  (readFile F d (clientID ++ metaSuffix)).bind fun data =>
    match X.unmarshalMeta data with
    | .error e => .error ("failed to parse metadata: " ++ e)
    | .ok registeredAt => .ok registeredAt

/-- One case of the switch over a file's extension: what cannot be loaded is
logged and left out.
mirrors src/verifier/store/aik.go:171-206 -/
def loadOne {V : Type} (suffix : Name) (load : Name → Except String V) (m : GoMap Name V)
    (entry : Sigma fun _ : Name => Entry) : GoMap Name V :=
  match entry.2 with
  | .dir => m
  | .file _ =>
    if extOf entry.1 = suffix then
      match load (stemOf entry.1) with
      | .error _ => m
      | .ok v => m.insert (stemOf entry.1) v
    else m

def loadEntry (F : ReadFaults) (d : Dir) (fs : FileStore) (entry : Sigma fun _ : Name => Entry) :
    FileStore :=
  { fs with
    cache := loadOne pemSuffix (loadKey X F d) fs.cache entry
    hardwareIDs := loadOne hwidSuffix (loadHardwareID F d) fs.hardwareIDs entry
    registeredAt := loadOne metaSuffix (loadMeta X F d) fs.registeredAt entry }

/-- mirrors src/verifier/store/aik.go:209-217 -/
def indexEntry (fpIndex : GoMap String Name) (entry : Sigma fun _ : Name => AikKey) :
    Except String (GoMap String Name) :=
  let fp := fingerprint X entry.2
  if fp = "" then .error ("failed to compute AIK fingerprint for client " ++
    (String.ofList entry.1).quote)
  else match fpIndex.lookup fp with
  | none => .ok (fpIndex.insert fp entry.1)
  | some existingClientID =>
    if existingClientID ≠ entry.1 then
      .error ("duplicate AIK fingerprint in file store: client " ++ (String.ofList entry.1).quote ++
        " conflicts with " ++ (String.ofList existingClientID).quote)
    else .ok (fpIndex.insert fp entry.1)

/-- mirrors src/verifier/store/aik.go:165-220 -/
def loadAll (F : ReadFaults) (d : Dir) : Except String FileStore :=
  if F.readDir then .error "read error"
  else
    let fs := d.entries.foldl (loadEntry X F d) {}
    match fs.cache.entries.foldlM (indexEntry X) ∅ with
    | .error e => .error e
    | .ok fpIndex => .ok { fs with fpIndex }

/-- On a directory that exists.
mirrors src/verifier/store/aik.go:144-163 -/
def newFileStore (F : ReadFaults) (d : Dir) : Except String FileStore := loadAll X F d

/-! ## Registering and rotating -/

/-- What fails while a key file is written. If the write or the close fails,
the first `kept` bytes are in the file. -/
structure WriteFaults where
  openFails : Bool
  writeFails : Bool
  closeFails : Bool
  kept : Nat
  removeFails : Bool

def WriteFaults.writes (E : WriteFaults) : Bool := !E.writeFails && !E.closeFails

/-- mirrors src/verifier/store/aik.go:468-486 -/
def writeKeyPEM (E : WriteFaults) (d : Dir) (path : Name) (flag : OpenFlag) (text : Bytes)
    (removeOnError : Bool) : Dir × Except String Unit :=
  match openFile E.openFails flag d path with
  | none => (d, .error "open error")
  | some d =>
    if E.writes then (d.insert path (.file text), .ok ())
    else
      let d := d.insert path (.file (text.take E.kept))
      (if removeOnError && !E.removeFails then d.erase path else d, .error "write error")

/-- What fails while metadata is written. -/
structure MetaFaults where
  openFails : Bool
  kept : Option Nat

/-- The result is only logged.
mirrors src/verifier/store/aik.go:279-288 -/
def saveMeta (M : MetaFaults) (d : Dir) (clientID : Name) (regTime : Int) : Dir :=
  match X.marshalMeta regTime with
  | .error _ => d
  | .ok data =>
    match openFile M.openFails .trunc d (clientID ++ metaSuffix) with
    | none => d
    | some d => d.insert (clientID ++ metaSuffix) (.file (M.kept.elim data data.take))

/-- Go's `strings.Contains` and `strings.ContainsAny`.
mirrors src/verifier/store/aik.go:796-801 -/
def validateClientID (id : Name) : Bool :=
  !(id = [] || id.any (fun c => c ∈ ['/', '\\', '\x00']) || ['.', '.'] <:+: id)

structure World where
  dir : Dir
  fs : FileStore

structure Env where
  pem : WriteFaults
  info : MetaFaults
  now : Int

/-- The checks before the file is touched: `none` if there is nothing to do,
else the encoded key and its fingerprint.
mirrors src/verifier/store/aik.go:307-332 -/
def registerPlan (fs : FileStore) (clientID : Name) (pubKey : AikKey) :
    Except String (Option (Bytes × String)) :=
  if !validateClientID clientID then .error "invalid client ID"
  else match fs.cache.lookup clientID with
  | some existing =>
    if !publicKeysEqual existing pubKey then .error "client already registered with different key"
      else .ok none
  | none =>
    match X.marshalPKIXPublicKey pubKey with
    | .error e => .error ("failed to marshal public key: " ++ e)
    | .ok keyBytes =>
      let fp := fingerprintFromDER keyBytes
      if fp = "" then .error "failed to compute public key fingerprint"
      else match fs.fpIndex.lookup fp with
      | none => .ok (some (keyBytes, fp))
      | some existingClientID =>
        if existingClientID ≠ clientID then
          .error ("AIK already registered to another client: " ++ String.ofList existingClientID)
        else .ok (some (keyBytes, fp))

/-- mirrors src/verifier/store/aik.go:306-357 -/
def registerAIK (w : World) (clientID : Name) (pubKey : AikKey) (env : Env) :
    World × Except String Unit :=
  match registerPlan X w.fs clientID pubKey with
  | .error e => (w, .error e)
  | .ok none => (w, .ok ())
  | .ok (some (keyBytes, fp)) =>
    match writeKeyPEM env.pem w.dir (clientID ++ pemSuffix) .excl (X.encodePEM keyBytes) true with
    | (dir, .error e) => ({ w with dir }, .error ("failed to write key file: " ++ e))
    | (dir, .ok ()) =>
      ({ dir := saveMeta X env.info dir clientID env.now
         fs := { w.fs with
           cache := w.fs.cache.insert clientID pubKey
           fpIndex := w.fs.fpIndex.insert fp clientID
           registeredAt := w.fs.registeredAt.insert clientID env.now } }, .ok ())

/-- The checks before the file is touched: the encoded key, the old and the new
fingerprint.
mirrors src/verifier/store/aik.go:410-438 -/
def rotatePlan (fs : FileStore) (clientID : Name) (newKey : AikKey) :
    Except String (Bytes × String × String) :=
  if !validateClientID clientID then .error "invalid client ID"
  else match fs.cache.lookup clientID with
  | none => .error "client not registered"
  | some oldKey =>
    let oldFP := fingerprint X oldKey
    if oldFP = "" then .error "failed to compute fingerprint of existing AIK"
    else match X.marshalPKIXPublicKey newKey with
    | .error e => .error ("failed to marshal public key: " ++ e)
    | .ok keyBytes =>
      let newFP := fingerprintFromDER keyBytes
      if newFP = "" then .error "failed to compute fingerprint of new AIK"
      else match fs.fpIndex.lookup newFP with
      | none => .ok (keyBytes, oldFP, newFP)
      | some existingClientID =>
        if existingClientID ≠ clientID then
          .error ("AIK already registered to another client: " ++ String.ofList existingClientID)
        else .ok (keyBytes, oldFP, newFP)

/-- mirrors src/verifier/store/aik.go:409-466 -/
def rotateAIK (w : World) (clientID : Name) (newKey : AikKey) (env : Env) :
    World × Except String Unit :=
  match rotatePlan X w.fs clientID newKey with
  | .error e => (w, .error e)
  | .ok (keyBytes, oldFP, newFP) =>
    match writeKeyPEM env.pem w.dir (clientID ++ pemSuffix) .trunc (X.encodePEM keyBytes) false with
    | (dir, .error e) => ({ w with dir }, .error ("failed to write key file: " ++ e))
    | (dir, .ok ()) =>
      let fpIndex := if w.fs.fpIndex.lookup oldFP = some clientID then w.fs.fpIndex.erase oldFP
        else w.fs.fpIndex
      ({ dir := saveMeta X env.info dir clientID env.now
         fs := { w.fs with
           cache := w.fs.cache.insert clientID newKey
           registeredAt := w.fs.registeredAt.insert clientID env.now
           fpIndex := fpIndex.insert newFP clientID } }, .ok ())

inductive Op where
  | register (clientID : Name) (key : AikKey) (env : Env)
  | rotate (clientID : Name) (key : AikKey) (env : Env)

def Op.clientID : Op → Name
  | .register id _ _ => id
  | .rotate id _ _ => id

def Op.key : Op → AikKey
  | .register _ key _ => key
  | .rotate _ key _ => key

def machine : Machine World Op (Except String Unit) where
  step w op :=
    match op with
    | .register id key env => registerAIK X w id key env
    | .rotate id key env => rotateAIK X w id key env

/-! ## What a fresh store loads -/

/-- A suffix that `filepath.Ext` finds. -/
structure IsExt (suffix : Name) : Prop where
  dot : suffix.head? = some '.'
  last : '.' ∉ suffix.tail

theorem pemSuffix_isExt : IsExt pemSuffix := ⟨by decide, by decide⟩
theorem hwidSuffix_isExt : IsExt hwidSuffix := ⟨by decide, by decide⟩
theorem metaSuffix_isExt : IsExt metaSuffix := ⟨by decide, by decide⟩

theorem extOf_no_dot {s : Name} (h : '.' ∉ s) : extOf s = [] := by
  induction s with
  | nil => rfl
  | cons c s ih =>
    rw [List.mem_cons, not_or] at h
    simp [extOf, ih h.2, Ne.symm h.1]

theorem extOf_append {suffix : Name} (h : IsExt suffix) (id : Name) :
    extOf (id ++ suffix) = suffix := by
  obtain ⟨s, rfl⟩ : ∃ s, suffix = '.' :: s := by
    cases suffix with
    | nil => cases h.dot
    | cons c s =>
      cases h.dot
      exact ⟨s, rfl⟩
  have hrest : extOf s = [] := extOf_no_dot h.last
  have hself : extOf ('.' :: s) = '.' :: s := by simp [extOf, hrest]
  induction id with
  | nil => exact hself
  | cons c id ih =>
    rw [List.cons_append, extOf, ih]
    simp

theorem extOf_suffix (name : Name) : ∃ stem, name = stem ++ extOf name := by
  induction name with
  | nil => exact ⟨[], rfl⟩
  | cons c name ih =>
    obtain ⟨stem, hstem⟩ := ih
    rw [extOf]
    split
    · exact ⟨c :: stem, by rw [List.cons_append, ← hstem]⟩
    · split
      · exact ⟨[], rfl⟩
      · exact ⟨c :: name, by simp⟩

theorem stemOf_append_extOf (name : Name) : stemOf name ++ extOf name = name := by
  obtain ⟨stem, hstem⟩ := extOf_suffix name
  have hlen : name.length - (extOf name).length = stem.length := by
    have := congrArg List.length hstem
    rw [List.length_append] at this
    omega
  unfold stemOf
  rw [hlen]
  conv_lhs => arg 1; rw [hstem]
  rw [List.take_left, ← hstem]

/-- A file with the suffix is the file of one client. -/
theorem extOf_eq_iff {suffix : Name} (h : IsExt suffix) {name : Name} :
    extOf name = suffix ↔ name = stemOf name ++ suffix := by
  constructor
  · intro he
    rw [← he, stemOf_append_extOf]
  · intro hn
    rw [hn, extOf_append h]

theorem stemOf_append {suffix : Name} (h : IsExt suffix) (id : Name) : stemOf (id ++ suffix) = id := by
  have := (extOf_eq_iff h).mp (extOf_append h id)
  exact (List.append_cancel_right this).symm

theorem loadOne_lookup {V : Type} {suffix : Name} (hs : IsExt suffix) {load : Name → Except String V}
    {entry : Sigma fun _ : Name => Entry} (hdir : ∀ id, entry.1 = id ++ suffix → entry.2 = .dir →
      (load id).toOption = none)
    (m : GoMap Name V) (id : Name) :
    (loadOne suffix load m entry).lookup id =
      if entry.1 = id ++ suffix then (load id).toOption.or (m.lookup id) else m.lookup id := by
  obtain ⟨name, e⟩ := entry
  cases e with
  | dir =>
    by_cases hn : name = id ++ suffix
    · rw [if_pos hn, hdir id hn rfl]
      rfl
    · rw [if_neg hn]
      rfl
  | file data =>
    unfold loadOne
    by_cases hext : extOf name = suffix
    · have hname := (extOf_eq_iff hs).mp hext
      simp only [if_pos hext]
      by_cases hid : stemOf name = id
      · subst hid
        rw [if_pos hname]
        cases load (stemOf name) with
        | error e => rfl
        | ok v => simp [Except.toOption]
      · have hn : name ≠ id ++ suffix := by
          intro hn
          exact hid (by rw [hn, stemOf_append hs])
        rw [if_neg hn]
        cases load (stemOf name) with
        | error e => rfl
        | ok v => exact AList.lookup_insert_ne (Ne.symm hid)
    · have hn : name ≠ id ++ suffix := by
        intro hn
        exact hext (by rw [hn, extOf_append hs])
      rw [if_neg hn]
      simp only [if_neg hext]

/-- The loop over the directory, for one kind of file. -/
theorem loadOne_foldl_lookup {V : Type} {suffix : Name} (hs : IsExt suffix)
    {load : Name → Except String V} {d : Dir}
    (hload : ∀ id, (∀ data, d.lookup (id ++ suffix) ≠ some (.file data)) →
      (load id).toOption = none) (id : Name) :
    (d.entries.foldl (loadOne suffix load) ∅).lookup id = (load id).toOption := by
  have hloop : ∀ (l : List (Sigma fun _ : Name => Entry)) (m : GoMap Name V),
      (∀ e ∈ l, d.lookup e.1 = some e.2) → (l.foldl (loadOne suffix load) m).lookup id =
        if id ++ suffix ∈ l.map Sigma.fst then (load id).toOption.or (m.lookup id)
          else m.lookup id := by
    intro l
    induction l with
    | nil => simp
    | cons e l ih =>
      intro m hl
      have hdir : ∀ id, e.1 = id ++ suffix → e.2 = .dir → (load id).toOption = none := by
        intro id hname he
        refine hload id fun data hd => ?_
        have := hl e (List.mem_cons_self ..)
        rw [hname, hd, he] at this
        cases this
      rw [List.foldl_cons, ih _ fun e he => hl e (List.mem_cons_of_mem _ he), loadOne_lookup hs hdir]
      by_cases hname : e.1 = id ++ suffix
      · simp [hname, ← Option.or_assoc]
      · simp only [List.map_cons, List.mem_cons, Ne.symm hname, false_or, if_neg hname]
  have hmem : ∀ e ∈ d.entries, d.lookup e.1 = some e.2 := fun e he => AList.mem_lookup_iff.mpr he
  rw [hloop d.entries ∅ hmem, AList.lookup_empty]
  by_cases hin : id ++ suffix ∈ d.entries.map Sigma.fst
  · rw [if_pos hin, Option.or_none]
  · rw [if_neg hin]
    refine (hload id fun data hd => hin ?_).symm
    exact AList.mem_keys.mp (AList.lookup_isSome.mp (by rw [hd]; rfl))

theorem loadEntry_foldl (F : ReadFaults) (d : Dir) (l : List (Sigma fun _ : Name => Entry))
    (fs : FileStore) : l.foldl (loadEntry X F d) fs =
      { fs with
        cache := l.foldl (loadOne pemSuffix (loadKey X F d)) fs.cache
        hardwareIDs := l.foldl (loadOne hwidSuffix (loadHardwareID F d)) fs.hardwareIDs
        registeredAt := l.foldl (loadOne metaSuffix (loadMeta X F d)) fs.registeredAt } := by
  induction l generalizing fs with
  | nil => rfl
  | cons e l ih => exact ih _

/-- The key in a client's file. -/
def keyFile (d : Dir) (id : Name) : Option AikKey := (loadKey X .none d id).toOption

def hwidFile (d : Dir) (id : Name) : Option (Blob 32) := (loadHardwareID .none d id).toOption

def metaFile (d : Dir) (id : Name) : Option Int := (loadMeta X .none d id).toOption

theorem readFile_none (d : Dir) (name : Name) :
    (readFile .none d name).toOption = match d.lookup name with
      | some (.file data) => some data
      | _ => none := by
  unfold readFile ReadFaults.none
  rw [if_neg (by simp)]
  rcases d.lookup name with _ | e
  · rfl
  · cases e <;> rfl

theorem toOption_bind {α β : Type} (x : Except String α) (f : α → Except String β) :
    (x.bind f).toOption = x.toOption.bind fun a => (f a).toOption := by
  cases x <;> rfl

/-- Nothing is loaded from what is no file. -/
theorem bind_readFile_none {V : Type} {d : Dir} {name : Name}
    (h : ∀ data, d.lookup name ≠ some (.file data))
    (f : Bytes → Except String V) : ((readFile .none d name).bind f).toOption = none := by
  rw [toOption_bind, readFile_none]
  split
  · rename_i data hd
    exact absurd hd (h data)
  · rfl

/-- The index has exactly the fingerprints of the keys. -/
def IndexOf (keys : Name → Option AikKey) (index : GoMap String Name) : Prop :=
  ∀ fp id, index.lookup fp = some id ↔ ∃ key, keys id = some key ∧ fingerprint X key = fp

/-- The index is the inverse of the cache. -/
def Inverse (cache : GoMap Name AikKey) (index : GoMap String Name) : Prop :=
  ∀ fp id, index.lookup fp = some id ↔ ∃ key, cache.lookup id = some key ∧ fingerprint X key = fp

/-- The keys have fingerprints, no two clients the same. -/
structure Indexable (keys : Name → Option AikKey) : Prop where
  named : ∀ id key, keys id = some key → fingerprint X key ≠ ""
  inj : ∀ id id' key key', keys id = some key → keys id' = some key' →
    fingerprint X key = fingerprint X key' → id = id'

theorem indexEntry_ok {index index' : GoMap String Name} {e : Sigma fun _ : Name => AikKey}
    (h : indexEntry X index e = .ok index') : fingerprint X e.2 ≠ "" ∧
      ∀ fp id, index'.lookup fp = some id ↔ index.lookup fp = some id ∨ e.1 = id ∧
      fingerprint X e.2 = fp := by
  unfold indexEntry at h
  simp only at h
  split at h
  · cases h
  rename_i hfp
  -- either way the entry is written, and what it overwrites is itself
  have hcases : index' = index.insert (fingerprint X e.2) e.1 ∧
      (index.lookup (fingerprint X e.2) = none ∨ index.lookup (fingerprint X e.2) = some e.1) := by
    split at h
    · rename_i hnone
      exact ⟨(Except.ok.inj h).symm, .inl hnone⟩
    · rename_i other hsome
      split at h
      · cases h
      · rename_i hsame
        rw [not_not.mp hsame] at hsome
        exact ⟨(Except.ok.inj h).symm, .inr hsome⟩
  obtain ⟨rfl, hold⟩ := hcases
  refine ⟨hfp, fun fp id => ?_⟩
  rw [lookup_insert_ite]
  by_cases hsame : fp = fingerprint X e.2
  · rw [if_pos hsame, hsame]
    rcases hold with hnone | hsome
    · simp [hnone]
    · simp [hsome]
  · rw [if_neg hsame]
    simp [Ne.symm hsame]

theorem indexEntry_foldlM_ok {l : List (Sigma fun _ : Name => AikKey)}
    {index index' : GoMap String Name}
    (h : l.foldlM (indexEntry X) index = .ok index') : (∀ e ∈ l, fingerprint X e.2 ≠ "") ∧
      ∀ fp id, index'.lookup fp = some id ↔ index.lookup fp = some id ∨ ∃ key, ⟨id, key⟩ ∈ l ∧
      fingerprint X key = fp := by
  induction l generalizing index with
  | nil =>
    cases h
    simp
  | cons e l ih =>
    rw [List.foldlM_cons] at h
    cases he : indexEntry X index e with
    | error msg =>
      rw [he] at h
      cases h
    | ok index₁ =>
      rw [he] at h
      obtain ⟨hnamed, hindex⟩ := ih h
      obtain ⟨hfirst, hstep⟩ := indexEntry_ok X he
      refine ⟨?_, fun fp id => ?_⟩
      · intro e' he'
        rcases List.mem_cons.mp he' with rfl | he'
        · exact hfirst
        · exact hnamed e' he'
      · rw [hindex, hstep, or_assoc]
        refine or_congr_right ⟨?_, ?_⟩
        · intro hx
          rcases hx with ⟨rfl, hfp⟩ | ⟨key, hkey, hfp⟩
          · exact ⟨e.2, List.mem_cons_self .., hfp⟩
          · exact ⟨key, List.mem_cons_of_mem _ hkey, hfp⟩
        · intro hx
          obtain ⟨key, hkey, hfp⟩ := hx
          rcases List.mem_cons.mp hkey with rfl | hkey
          · exact .inl ⟨rfl, hfp⟩
          · exact .inr ⟨key, hkey, hfp⟩

theorem indexEntry_foldlM_exists {l : List (Sigma fun _ : Name => AikKey)} {index : GoMap String Name}
    (hnamed : ∀ e ∈ l, fingerprint X e.2 ≠ "")
    (hinj : ∀ e ∈ l, ∀ e' ∈ l, fingerprint X e.2 = fingerprint X e'.2 → e.1 = e'.1)
    (hindex : ∀ e ∈ l, ∀ id, index.lookup (fingerprint X e.2) = some id → id = e.1) :
    ∃ index', l.foldlM (indexEntry X) index = .ok index' := by
  induction l generalizing index with
  | nil => exact ⟨index, rfl⟩
  | cons e l ih =>
    have hmem : e ∈ e :: l := List.mem_cons_self ..
    have hstep : indexEntry X index e = .ok (index.insert (fingerprint X e.2) e.1) := by
      unfold indexEntry
      simp only [if_neg (hnamed e hmem)]
      cases hl : index.lookup (fingerprint X e.2) with
      | none => rfl
      | some other =>
        have := hindex e hmem other hl
        simp [this]
    rw [List.foldlM_cons, hstep]
    refine ih (fun e' he' => hnamed e' (List.mem_cons_of_mem _ he'))
      (fun a ha b hb => hinj a (List.mem_cons_of_mem _ ha) b (List.mem_cons_of_mem _ hb)) ?_
    intro e' he' id hid
    rw [lookup_insert_ite] at hid
    split at hid
    · rename_i hfp
      cases hid
      exact hinj e hmem e' (List.mem_cons_of_mem _ he') hfp.symm
    · exact hindex e' (List.mem_cons_of_mem _ he') id hid

/-- Two stores that answer alike. -/
structure SameStore (a b : FileStore) : Prop where
  cache : ∀ id, a.cache.lookup id = b.cache.lookup id
  fpIndex : ∀ fp, a.fpIndex.lookup fp = b.fpIndex.lookup fp
  hardwareIDs : ∀ id, a.hardwareIDs.lookup id = b.hardwareIDs.lookup id
  registeredAt : ∀ id, a.registeredAt.lookup id = b.registeredAt.lookup id

/-- The store that a directory stands for. -/
structure Loaded (d : Dir) (fs : FileStore) : Prop where
  cache : ∀ id, fs.cache.lookup id = keyFile X d id
  fpIndex : IndexOf X (keyFile X d) fs.fpIndex
  hardwareIDs : ∀ id, fs.hardwareIDs.lookup id = hwidFile d id
  registeredAt : ∀ id, fs.registeredAt.lookup id = metaFile X d id

/-- **Opening.** A store is opened on a directory exactly when its keys have
distinct fingerprints, and it has what the files say. -/
theorem newFileStore_loaded (d : Dir) :
    (∀ fs, newFileStore X .none d = .ok fs → Loaded X d fs ∧ Indexable X (keyFile X d)) ∧
    (Indexable X (keyFile X d) → ∃ fs, newFileStore X .none d = .ok fs) := by
  have hcache : ∀ id, (d.entries.foldl (loadOne pemSuffix (loadKey X .none d)) ∅).lookup id =
      keyFile X d id :=
    loadOne_foldl_lookup pemSuffix_isExt fun id h => bind_readFile_none h _
  have hhwid : ∀ id, (d.entries.foldl (loadOne hwidSuffix (loadHardwareID .none d)) ∅).lookup id =
      hwidFile d id :=
    loadOne_foldl_lookup hwidSuffix_isExt fun id h => bind_readFile_none h _
  have hmeta : ∀ id, (d.entries.foldl (loadOne metaSuffix (loadMeta X .none d)) ∅).lookup id =
      metaFile X d id :=
    loadOne_foldl_lookup metaSuffix_isExt fun id h => bind_readFile_none h _
  unfold newFileStore loadAll
  rw [if_neg (by simp [ReadFaults.none])]
  simp only [loadEntry_foldl]
  generalize d.entries.foldl (loadOne pemSuffix (loadKey X .none d)) ∅ = cache at hcache ⊢
  have hmem : ∀ id key, (⟨id, key⟩ : Sigma fun _ : Name => AikKey) ∈ cache.entries ↔
      keyFile X d id = some key := by
    intro id key
    rw [← hcache]
    exact AList.mem_lookup_iff.symm
  constructor
  · intro fs hfs
    cases hidx : cache.entries.foldlM (indexEntry X) ∅ with
    | error e =>
      rw [hidx] at hfs
      cases hfs
    | ok fpIndex =>
      rw [hidx] at hfs
      cases hfs
      obtain ⟨hnamed, hindex⟩ := indexEntry_foldlM_ok X hidx
      have hof : IndexOf X (keyFile X d) fpIndex := by
        intro fp id
        rw [hindex]
        simp [hmem]
      refine ⟨⟨hcache, hof, hhwid, hmeta⟩, ⟨?_, ?_⟩⟩
      · intro id key hkey
        exact hnamed ⟨id, key⟩ ((hmem id key).mpr hkey)
      · intro id id' key key' hkey hkey' hfp
        have h1 := (hof _ _).mpr ⟨key, hkey, rfl⟩
        have h2 := (hof _ _).mpr ⟨key', hkey', rfl⟩
        rw [hfp, h2] at h1
        exact (Option.some.inj h1).symm
  · intro hi
    obtain ⟨fpIndex, hidx⟩ := @indexEntry_foldlM_exists X cache.entries ∅
      (fun e he => hi.named e.1 e.2 ((hmem _ _).mp he))
      (fun e he e' he' => hi.inj e.1 e'.1 e.2 e'.2 ((hmem _ _).mp he) ((hmem _ _).mp he'))
      (fun e he id hid => by simp at hid)
    rw [hidx]
    exact ⟨_, rfl⟩

theorem Loaded.same {d d' : Dir} {a b : FileStore} (ha : Loaded X d a) (hb : Loaded X d' b)
    (hkey : ∀ id, keyFile X d id = keyFile X d' id) (hhwid : ∀ id, hwidFile d id = hwidFile d' id)
    (hmeta : ∀ id, metaFile X d id = metaFile X d' id) : SameStore a b where
  cache id := by rw [ha.cache, hb.cache, hkey]
  fpIndex fp := by
    apply Option.ext
    intro id
    rw [ha.fpIndex, hb.fpIndex]
    simp only [hkey]
  hardwareIDs id := by rw [ha.hardwareIDs, hb.hardwareIDs, hhwid]
  registeredAt id := by rw [ha.registeredAt, hb.registeredAt, hmeta]

/-! ## Writing files -/

theorem suffix_append_ne {a b : Name} (ha : IsExt a) (hb : IsExt b) (h : a ≠ b) (id id' : Name) :
    id ++ a ≠ id' ++ b := by
  intro he
  have := congrArg extOf he
  rw [extOf_append ha, extOf_append hb] at this
  exact h this

theorem toOption_bind_readFile {V : Type} (d : Dir) (name : Name) (f : Bytes → Except String V) :
    ((readFile .none d name).bind f).toOption = match d.lookup name with
      | some (.file data) => (f data).toOption
      | _ => none := by
  rw [toOption_bind, readFile_none]
  split
  · rfl
  · rfl

theorem keyFile_congr {d d' : Dir} {id : Name}
    (h : d'.lookup (id ++ pemSuffix) = d.lookup (id ++ pemSuffix)) :
    keyFile X d' id = keyFile X d id := by
  unfold keyFile loadKey
  rw [toOption_bind_readFile, toOption_bind_readFile, h]

theorem hwidFile_congr {d d' : Dir} {id : Name}
    (h : d'.lookup (id ++ hwidSuffix) = d.lookup (id ++ hwidSuffix)) :
    hwidFile d' id = hwidFile d id := by
  unfold hwidFile loadHardwareID
  rw [toOption_bind_readFile, toOption_bind_readFile, h]

theorem metaFile_congr {d d' : Dir} {id : Name}
    (h : d'.lookup (id ++ metaSuffix) = d.lookup (id ++ metaSuffix)) :
    metaFile X d' id = metaFile X d id := by
  unfold metaFile loadMeta
  rw [toOption_bind_readFile, toOption_bind_readFile, h]

theorem keyFile_file {d : Dir} {id : Name} {data : Bytes}
    (h : d.lookup (id ++ pemSuffix) = some (.file data)) :
    keyFile X d id = (parseKey X data).toOption := by
  unfold keyFile loadKey
  rw [toOption_bind_readFile, h]

theorem keyFile_missing {d : Dir} {id : Name} (h : d.lookup (id ++ pemSuffix) = none) :
    keyFile X d id = none := by
  unfold keyFile loadKey
  rw [toOption_bind_readFile, h]

/-- Every name other than the client's key file. -/
def OnlyPem (id : Name) (d d' : Dir) : Prop :=
  ∀ name, name ≠ id ++ pemSuffix → d'.lookup name = d.lookup name

namespace OnlyPem

variable {X} {id : Name} {d d' : Dir}

theorem keyFile (h : OnlyPem id d d') {id' : Name} (hne : id' ≠ id) :
    FileAik.keyFile X d' id' = FileAik.keyFile X d id' :=
  keyFile_congr X (h _ fun he => hne (List.append_cancel_right he))

theorem hwidFile (h : OnlyPem id d d') (id' : Name) :
    FileAik.hwidFile d' id' = FileAik.hwidFile d id' :=
  hwidFile_congr (h _ (suffix_append_ne hwidSuffix_isExt pemSuffix_isExt (by decide) _ _))

theorem metaFile (h : OnlyPem id d d') (id' : Name) :
    FileAik.metaFile X d' id' = FileAik.metaFile X d id' :=
  metaFile_congr X (h _ (suffix_append_ne metaSuffix_isExt pemSuffix_isExt (by decide) _ _))

end OnlyPem

/-- Metadata is in a file of its own, so that keys do not depend on it. -/
theorem keyFile_saveMeta (M : MetaFaults) (d : Dir) (id : Name) (now : Int) (id' : Name) :
    keyFile X (saveMeta X M d id now) id' = keyFile X d id' := by
  have hne : id' ++ pemSuffix ≠ id ++ metaSuffix :=
    suffix_append_ne pemSuffix_isExt metaSuffix_isExt (by decide) _ _
  unfold saveMeta
  cases X.marshalMeta now with
  | error e => rfl
  | ok data =>
    simp only
    cases ho : openFile M.openFails .trunc d (id ++ metaSuffix) with
    | none => rfl
    | some d₁ =>
      have hd₁ : d₁ = d.insert (id ++ metaSuffix) (.file []) := by
        unfold openFile at ho
        split at ho
        · cases ho
        · split at ho <;> cases ho
          rfl
      apply keyFile_congr
      rw [AList.lookup_insert_ne hne, hd₁, AList.lookup_insert_ne hne]

/-- The file of a loaded key can be opened again. -/
theorem openFile_of_key {d : Dir} {id : Name} {key : AikKey} (h : keyFile X d id = some key) :
    openFile false .trunc d (id ++ pemSuffix) ≠ none := by
  unfold keyFile loadKey at h
  rw [toOption_bind_readFile] at h
  unfold openFile
  cases hl : d.lookup (id ++ pemSuffix) with
  | none => simp
  | some e =>
    cases e with
    | file data => simp
    | dir =>
      rw [hl] at h
      cases h

/-- What is in the file behind a call of `writeKeyPEM`. -/
theorem writeKeyPEM_cases (E : WriteFaults) (d : Dir) (id : Name) (flag : OpenFlag) (text : Bytes)
    (removeOnError : Bool) :
    let (d', r) := writeKeyPEM E d (id ++ pemSuffix) flag text removeOnError
    OnlyPem id d d' ∧
    (openFile E.openFails flag d (id ++ pemSuffix) = none ∧ d' = d ∧ r = .error "open error" ∨
     openFile E.openFails flag d (id ++ pemSuffix) ≠ none ∧ E.writes = true ∧ r = .ok () ∧
       d'.lookup (id ++ pemSuffix) = some (.file text) ∨
     openFile E.openFails flag d (id ++ pemSuffix) ≠ none ∧ E.writes = false ∧
     r = .error "write error" ∧
       d'.lookup (id ++ pemSuffix) =
         if removeOnError && !E.removeFails then none else some (.file (text.take E.kept))) := by
  unfold writeKeyPEM
  cases ho : openFile E.openFails flag d (id ++ pemSuffix) with
  | none => exact ⟨fun _ _ => rfl, .inl ⟨rfl, rfl, rfl⟩⟩
  | some d₁ =>
    have hd₁ : d₁ = d.insert (id ++ pemSuffix) (.file []) := by
      unfold openFile at ho
      split at ho
      · cases ho
      · split at ho <;> cases ho
        rfl
    subst hd₁
    simp only
    by_cases hw : E.writes = true
    · rw [if_pos hw]
      refine ⟨fun name hne => ?_, .inr (.inl ⟨by simp, hw, rfl, AList.lookup_insert _⟩)⟩
      rw [AList.lookup_insert_ne hne, AList.lookup_insert_ne hne]
    · rw [if_neg hw]
      simp only
      refine ⟨fun name hne => ?_, .inr (.inr ⟨by simp, by simpa using hw, trivial, ?_⟩)⟩
      · split
        · rw [AList.lookup_erase_ne hne, AList.lookup_insert_ne hne, AList.lookup_insert_ne hne]
        · rw [AList.lookup_insert_ne hne, AList.lookup_insert_ne hne]
      · split
        · exact AList.lookup_erase ..
        · exact AList.lookup_insert _

/-! ## One call -/

theorem fingerprint_of_marshal {key : AikKey} {der : Bytes} (h : X.marshalPKIXPublicKey key = .ok der) :
    fingerprint X key = fingerprintFromDER der := by
  unfold fingerprint
  rw [h]

theorem parseKey_encoded (hX : X.Lawful) {key : AikKey} {der : Bytes}
    (h : X.marshalPKIXPublicKey key = .ok der) : parseKey X (X.encodePEM der) = .ok key := by
  unfold parseKey
  simp only [hX.decode_encode, hX.parse_marshal key der h]

/-- What a call is about to write: the key has a name that is free. -/
structure Planned (fs : FileStore) (id : Name) (key : AikKey) (der : Bytes) (fp : String) : Prop where
  marshal : X.marshalPKIXPublicKey key = .ok der
  fp_eq : fp = fingerprint X key
  named : fp ≠ ""
  free : ∀ id', fs.fpIndex.lookup fp = some id' → id' = id

theorem registerPlan_none {fs : FileStore} {id : Name} {key : AikKey}
    (h : registerPlan X fs id key = .ok none) : fs.cache.lookup id = some key := by
  unfold registerPlan at h
  split at h
  · cases h
  split at h
  · rename_i existing hex
    split at h
    · cases h
    · rename_i hsame
      have heq : publicKeysEqual existing key = true := by simpa using hsame
      rw [hex, publicKeysEqual_iff.mp heq]
  · split at h
    · cases h
    · simp only at h
      split at h
      · cases h
      · split at h
        · cases h
        · split at h <;> cases h

theorem registerPlan_some {fs : FileStore} {id : Name} {key : AikKey} {der : Bytes} {fp : String}
    (h : registerPlan X fs id key = .ok (some (der, fp))) :
    fs.cache.lookup id = none ∧ Planned X fs id key der fp := by
  unfold registerPlan at h
  split at h
  · cases h
  split at h
  · split at h <;> cases h
  rename_i hnone
  refine ⟨hnone, ?_⟩
  split at h
  · cases h
  rename_i keyBytes hm
  simp only at h
  split at h
  · cases h
  rename_i hfp
  split at h
  · rename_i hfree
    cases h
    exact ⟨hm, (fingerprint_of_marshal X hm).symm, hfp, fun id' hid => by rw [hfree] at hid; cases hid⟩
  · rename_i other hother
    split at h
    · cases h
    · rename_i hsame
      cases h
      refine ⟨hm, (fingerprint_of_marshal X hm).symm, hfp, fun id' hid => ?_⟩
      rw [hother] at hid
      rw [← Option.some.inj hid]
      exact not_not.mp hsame

theorem rotatePlan_ok {fs : FileStore} {id : Name} {key : AikKey} {der : Bytes} {oldFP newFP : String}
    (h : rotatePlan X fs id key = .ok (der, oldFP, newFP)) : Planned X fs id key der newFP ∧
      ∃ oldKey, fs.cache.lookup id = some oldKey ∧ oldFP = fingerprint X oldKey := by
  unfold rotatePlan at h
  split at h
  · cases h
  split at h
  · cases h
  rename_i oldKey hold
  simp only at h
  split at h
  · cases h
  split at h
  · cases h
  rename_i keyBytes hm
  split at h
  · cases h
  rename_i hfp
  split at h
  · rename_i hfree
    cases h
    refine ⟨⟨hm, (fingerprint_of_marshal X hm).symm, hfp, fun id' hid => ?_⟩, oldKey, hold, rfl⟩
    rw [hfree] at hid
    cases hid
  · rename_i other hother
    split at h
    · cases h
    · rename_i hsame
      cases h
      refine ⟨⟨hm, (fingerprint_of_marshal X hm).symm, hfp, fun id' hid => ?_⟩, oldKey, hold, rfl⟩
      rw [hother] at hid
      rw [← Option.some.inj hid]
      exact not_not.mp hsame

/-- Cache, index and directory belong together. -/
structure Inv (w : World) : Prop where
  disk : ∀ id, w.fs.cache.lookup id = keyFile X w.dir id
  named : ∀ id key, w.fs.cache.lookup id = some key → fingerprint X key ≠ ""
  index : Inverse X w.fs.cache w.fs.fpIndex

/-- Both directories can be opened, to stores that answer alike. -/
def Reloads (d d' : Dir) : Prop :=
  ∃ a b, newFileStore X .none d = .ok a ∧ newFileStore X .none d' = .ok b ∧ SameStore a b

/-- The directory can be opened, and gives back the cache and its index. -/
def Reopens (w : World) : Prop :=
  ∃ a, newFileStore X .none w.dir = .ok a ∧ (∀ id, a.cache.lookup id = w.fs.cache.lookup id) ∧
    ∀ fp, a.fpIndex.lookup fp = w.fs.fpIndex.lookup fp

/-- A call keeps what it must keep and does what it says. -/
structure Kept (w : World) (op : Op) : Prop where
  failed : ∀ e, ((machine X).step w op).2 = .error e →
    ((machine X).step w op).1.fs = w.fs ∧ Reloads X w.dir ((machine X).step w op).1.dir
  done : ((machine X).step w op).2 = .ok () →
    ((machine X).step w op).1.fs.cache.lookup op.clientID = some op.key ∧
    (∃ a, newFileStore X .none ((machine X).step w op).1.dir = .ok a ∧ a.cache.lookup op.clientID =
      some op.key) ∧
    ∀ id, id ≠ op.clientID → ((machine X).step w op).1.fs.cache.lookup id = w.fs.cache.lookup id

/-- A write or a close that fails behind the open leaves in the directory what
was there: nothing that is a key where the client had none, and the old key
where it had one. -/
def Clean (w : World) : Op → Prop
  | .register id key env => ∀ der fp, registerPlan X w.fs id key = .ok (some (der, fp)) →
      openFile env.pem.openFails .excl w.dir (id ++ pemSuffix) ≠ none → env.pem.writes = false →
      env.pem.removeFails = true → (parseKey X ((X.encodePEM der).take env.pem.kept)).toOption = none
  | .rotate id key env => ∀ der oldFP newFP, rotatePlan X w.fs id key = .ok (der, oldFP, newFP) →
      openFile env.pem.openFails .trunc w.dir (id ++ pemSuffix) ≠ none → env.pem.writes = false →
      (parseKey X ((X.encodePEM der).take env.pem.kept)).toOption = w.fs.cache.lookup id

namespace Inv

variable {X} {w : World}

theorem indexable (h : Inv X w) : Indexable X (keyFile X w.dir) where
  named id key hkey := h.named id key (by rw [h.disk, hkey])
  inj id id' key key' hkey hkey' hfp := by
    have h1 := (h.index _ _).mpr ⟨key, (h.disk id).trans hkey, rfl⟩
    have h2 := (h.index _ _).mpr ⟨key', (h.disk id').trans hkey', rfl⟩
    rw [hfp, h2] at h1
    exact (Option.some.inj h1).symm

/-- **Reopening.** -/
theorem reopens (h : Inv X w) : Reopens X w := by
  obtain ⟨a, ha⟩ := (newFileStore_loaded X w.dir).2 h.indexable
  have hl := ((newFileStore_loaded X w.dir).1 a ha).1
  refine ⟨a, ha, fun id => by rw [hl.cache, h.disk], fun fp => ?_⟩
  apply Option.ext
  intro id
  rw [hl.fpIndex, h.index]
  simp only [h.disk]

/-- A change that no file shows. -/
theorem reloads (h : Inv X w) {d' : Dir} (hkey : ∀ id, keyFile X d' id = keyFile X w.dir id)
    (hhwid : ∀ id, hwidFile d' id = hwidFile w.dir id)
    (hmeta : ∀ id, metaFile X d' id = metaFile X w.dir id) : Reloads X w.dir d' := by
  obtain ⟨a, ha⟩ := (newFileStore_loaded X w.dir).2 h.indexable
  have hidx : Indexable X (keyFile X d') := by
    rw [funext hkey]
    exact h.indexable
  obtain ⟨b, hb⟩ := (newFileStore_loaded X d').2 hidx
  have hla := ((newFileStore_loaded X w.dir).1 a ha).1
  have hlb := ((newFileStore_loaded X d').1 b hb).1
  exact ⟨a, b, ha, hb, hla.same X hlb (fun id => (hkey id).symm) (fun id => (hhwid id).symm)
    fun id => (hmeta id).symm⟩

end Inv

/-- Opening a store establishes the invariant. -/
theorem inv_of_open {d : Dir} {fs : FileStore} (h : newFileStore X .none d = .ok fs) :
    Inv X ⟨d, fs⟩ := by
  obtain ⟨hl, hi⟩ := (newFileStore_loaded X d).1 fs h
  refine ⟨hl.cache, fun id key hkey => hi.named id key (by rw [← hl.cache]; exact hkey), ?_⟩
  intro fp id
  show fs.fpIndex.lookup fp = some id ↔ ∃ key, fs.cache.lookup id = some key ∧ fingerprint X key = fp
  rw [hl.cache]
  exact hl.fpIndex fp id

/-- A key takes the place of what its client had, in the cache and in the
index. -/
theorem Inverse.insert {cache : GoMap Name AikKey} {index index₁ : GoMap String Name} {id : Name}
    {key : AikKey}
    (h : Inverse X cache index)
    (h₁ : ∀ fp id', index₁.lookup fp = some id' ↔ id' ≠ id ∧ index.lookup fp = some id')
    (hfree : ∀ id', index.lookup (fingerprint X key) = some id' → id' = id) :
    Inverse X (cache.insert id key) (index₁.insert (fingerprint X key) id) := by
  intro fp id'
  rw [lookup_insert_ite, lookup_insert_ite]
  by_cases hid : id' = id
  · subst hid
    by_cases hfp : fp = fingerprint X key
    · simp [hfp]
    · simp [hfp, h₁, Ne.symm hfp]
  · by_cases hfp : fp = fingerprint X key
    · rw [if_pos hfp, if_neg hid, hfp, ← h]
      constructor
      · intro he
        exact absurd (Option.some.inj he).symm hid
      · intro he
        exact absurd (hfree id' he) hid
    · rw [if_neg hfp, if_neg hid, h₁, ← h]
      simp [hid]

/-- What a finished write leaves in the directory. -/
theorem keyFile_written (hX : X.Lawful) {d d' : Dir} {id : Name} {key : AikKey} {der : Bytes}
    (honly : OnlyPem id d d')
    (hfile : d'.lookup (id ++ pemSuffix) = some (.file (X.encodePEM der)))
    (hm : X.marshalPKIXPublicKey key = .ok der)
    (M : MetaFaults) (now : Int) (id' : Name) :
    keyFile X (saveMeta X M d' id now) id' = if id' = id then some key else keyFile X d id' := by
  rw [keyFile_saveMeta]
  by_cases hid : id' = id
  · rw [if_pos hid, hid, keyFile_file X hfile, parseKey_encoded X hX hm]
    rfl
  · rw [if_neg hid]
    exact honly.keyFile hid

/-- A finished call. -/
theorem Inv.written {w w' : World} {id : Name} {key : AikKey} {index₁ : GoMap String Name} (h : Inv X w)
    (hkeys : ∀ id', keyFile X w'.dir id' = if id' = id then some key else keyFile X w.dir id')
    (hcache : w'.fs.cache = w.fs.cache.insert id key)
    (hindex : w'.fs.fpIndex = index₁.insert (fingerprint X key) id)
    (h₁ : ∀ fp id', index₁.lookup fp = some id' ↔ id' ≠ id ∧ w.fs.fpIndex.lookup fp = some id')
    (hnamed : fingerprint X key ≠ "")
    (hfree : ∀ id', w.fs.fpIndex.lookup (fingerprint X key) = some id' → id' = id) : Inv X w' where
  disk id' := by
    rw [hcache, lookup_insert_ite, hkeys]
    split
    · rfl
    · exact h.disk id'
  named id' key' hkey' := by
    rw [hcache, lookup_insert_ite] at hkey'
    split at hkey'
    · cases hkey'
      exact hnamed
    · exact h.named id' key' hkey'
  index := by
    rw [hcache, hindex]
    exact h.index.insert X h₁ hfree

/-- The directory has the new key too. -/
theorem Inv.reopens_with {w : World} {id : Name} {key : AikKey} (h : Inv X w)
    (hkey : w.fs.cache.lookup id = some key) :
    ∃ a, newFileStore X .none w.dir = .ok a ∧ a.cache.lookup id = some key := by
  obtain ⟨a, ha, hcache, -⟩ := h.reopens
  exact ⟨a, ha, (hcache id).trans hkey⟩

/-- A failed write that the directory does not show. -/
theorem Inv.unwritten {w : World} (h : Inv X w) {id : Name} {d' : Dir} (honly : OnlyPem id w.dir d')
    (hkey : keyFile X d' id = keyFile X w.dir id) :
    Inv X { w with dir := d' } ∧ Reloads X w.dir d' := by
  have hkeys : ∀ id', keyFile X d' id' = keyFile X w.dir id' := by
    intro id'
    by_cases hid : id' = id
    · rw [hid, hkey]
    · exact honly.keyFile hid
  refine ⟨⟨fun id' => ?_, h.named, h.index⟩, h.reloads hkeys honly.hwidFile honly.metaFile⟩
  rw [hkeys]
  exact h.disk id'

/-- A call that is refused, or has nothing to do. -/
theorem Inv.refused {w : World} (h : Inv X w) : Reloads X w.dir w.dir :=
  h.reloads (fun _ => rfl) (fun _ => rfl) fun _ => rfl

theorem Kept.of_error {w : World} {op : Op} {d' : Dir} {e : String}
    (hstep : (machine X).step w op = ({ w with dir := d' }, .error e)) (hre : Reloads X w.dir d') :
    Kept X w op where
  failed e' _ := by
    rw [hstep]
    exact ⟨rfl, hre⟩
  done hok := by
    rw [hstep] at hok
    cases hok

theorem Kept.of_ok {w w' : World} {op : Op} (hstep : (machine X).step w op = (w', .ok ()))
    (hinv : Inv X w')
    (hkey : w'.fs.cache.lookup op.clientID = some op.key)
    (hothers : ∀ id, id ≠ op.clientID → w'.fs.cache.lookup id = w.fs.cache.lookup id) :
    Kept X w op where
  failed e he := by
    rw [hstep] at he
    cases he
  done _ := by
    rw [hstep]
    exact ⟨hkey, hinv.reopens_with X hkey, hothers⟩

theorem register_step (hX : X.Lawful) {w : World} (h : Inv X w) {id : Name} {key : AikKey} {env : Env}
    (hc : Clean X w (.register id key env)) :
    Kept X w (.register id key env) ∧ Inv X (registerAIK X w id key env).1 := by
  cases hplan : registerPlan X w.fs id key with
  | error e =>
    have hrun : registerAIK X w id key env = (w, .error e) := by simp only [registerAIK, hplan]
    rw [hrun]
    exact ⟨.of_error X hrun h.refused, h⟩
  | ok plan =>
    cases plan with
    | none =>
      have hrun : registerAIK X w id key env = (w, .ok ()) := by simp only [registerAIK, hplan]
      rw [hrun]
      exact ⟨.of_ok X hrun h (registerPlan_none X hplan) fun _ _ => rfl, h⟩
    | some p =>
      obtain ⟨der, fp⟩ := p
      obtain ⟨hnone, hp⟩ := registerPlan_some X hplan
      have hwrite := writeKeyPEM_cases env.pem w.dir id .excl (X.encodePEM der) true
      rcases hres : writeKeyPEM env.pem w.dir (id ++ pemSuffix) .excl (X.encodePEM der)
        true with ⟨d', r⟩
      rw [hres] at hwrite
      obtain ⟨honly, hcases⟩ := hwrite
      rcases hcases with ⟨-, rfl, rfl⟩ | ⟨-, -, rfl, hfile⟩ | ⟨hopen, hw, rfl, hfile⟩
      · -- the open failed
        have hrun : registerAIK X w id key env =
            (w, .error ("failed to write key file: " ++ "open error")) := by
          simp only [registerAIK, hplan, hres]
        rw [hrun]
        exact ⟨.of_error X hrun h.refused, h⟩
      · -- written and closed
        have hrun : registerAIK X w id key env =
            ({ dir := saveMeta X env.info d' id env.now
               fs := { w.fs with
                 cache := w.fs.cache.insert id key
                 fpIndex := w.fs.fpIndex.insert fp id
                 registeredAt := w.fs.registeredAt.insert id env.now } }, .ok ()) := by
          simp only [registerAIK, hplan, hres]
        have h₁ : ∀ fp' id', w.fs.fpIndex.lookup fp' = some id' ↔ id' ≠ id ∧
            w.fs.fpIndex.lookup fp' = some id' := by
          intro fp' id'
          refine ⟨fun hid => ⟨fun he => ?_, hid⟩, fun hid => hid.2⟩
          obtain ⟨key', hkey', -⟩ := (h.index _ _).mp hid
          rw [he, hnone] at hkey'
          cases hkey'
        have hinv : Inv X (registerAIK X w id key env).1 := by
          rw [hrun]
          exact h.written X (keyFile_written X hX honly hfile hp.marshal env.info env.now)
            rfl (by rw [← hp.fp_eq]) h₁
            (hp.fp_eq ▸ hp.named) (hp.fp_eq ▸ hp.free)
        rw [hrun] at hinv ⊢
        exact ⟨.of_ok X hrun hinv (AList.lookup_insert _) fun id' hne => AList.lookup_insert_ne hne,
          hinv⟩
      · -- the write or the close failed
        have hrun : registerAIK X w id key env =
            ({ w with dir := d' }, .error ("failed to write key file: " ++ "write error")) := by
          simp only [registerAIK, hplan, hres]
        have hkey : keyFile X d' id = keyFile X w.dir id := by
          rw [← h.disk, hnone]
          cases hr : env.pem.removeFails with
          | true =>
            rw [hr] at hfile
            rw [keyFile_file X (hfile.trans (if_neg (by simp)))]
            exact hc der fp hplan hopen hw hr
          | false =>
            rw [hr] at hfile
            exact keyFile_missing X (hfile.trans (if_pos (by simp)))
        obtain ⟨hinv, hre⟩ := h.unwritten X honly hkey
        rw [hrun]
        exact ⟨.of_error X hrun hre, hinv⟩

theorem rotate_step (hX : X.Lawful) {w : World} (h : Inv X w) {id : Name} {key : AikKey} {env : Env}
    (hc : Clean X w (.rotate id key env)) :
    Kept X w (.rotate id key env) ∧ Inv X (rotateAIK X w id key env).1 := by
  cases hplan : rotatePlan X w.fs id key with
  | error e =>
    have hrun : rotateAIK X w id key env = (w, .error e) := by simp only [rotateAIK, hplan]
    rw [hrun]
    exact ⟨.of_error X hrun h.refused, h⟩
  | ok plan =>
    obtain ⟨der, oldFP, newFP⟩ := plan
    obtain ⟨hp, oldKey, hold, hfp⟩ := rotatePlan_ok X hplan
    have howner : w.fs.fpIndex.lookup oldFP = some id := (h.index _ _).mpr ⟨oldKey, hold, hfp.symm⟩
    have hwrite := writeKeyPEM_cases env.pem w.dir id .trunc (X.encodePEM der) false
    rcases hres : writeKeyPEM env.pem w.dir (id ++ pemSuffix) .trunc (X.encodePEM der)
      false with ⟨d', r⟩
    rw [hres] at hwrite
    obtain ⟨honly, hcases⟩ := hwrite
    rcases hcases with ⟨-, rfl, rfl⟩ | ⟨-, -, rfl, hfile⟩ | ⟨hopen, hw, rfl, hfile⟩
    · -- the open failed
      have hrun : rotateAIK X w id key env =
          (w, .error ("failed to write key file: " ++ "open error")) := by
        simp only [rotateAIK, hplan, hres]
      rw [hrun]
      exact ⟨.of_error X hrun h.refused, h⟩
    · -- written and closed
      have hrun : rotateAIK X w id key env =
          ({ dir := saveMeta X env.info d' id env.now
             fs := { w.fs with
               cache := w.fs.cache.insert id key
               registeredAt := w.fs.registeredAt.insert id env.now
               fpIndex := (w.fs.fpIndex.erase oldFP).insert newFP id } }, .ok ()) := by
        simp only [rotateAIK, hplan, hres, howner, if_true]
      -- of the old index only the client's own entry goes
      have h₁ : ∀ fp' id', (w.fs.fpIndex.erase oldFP).lookup fp' = some id' ↔
          id' ≠ id ∧ w.fs.fpIndex.lookup fp' = some id' := by
        intro fp' id'
        rw [lookup_erase_ite]
        by_cases hfp' : fp' = oldFP
        · rw [if_pos hfp', hfp', howner]
          simp [eq_comm]
        · rw [if_neg hfp']
          refine ⟨fun hid => ⟨fun he => ?_, hid⟩, fun hid => hid.2⟩
          obtain ⟨key', hkey', hk⟩ := (h.index _ _).mp hid
          rw [he, hold] at hkey'
          cases hkey'
          exact hfp' (hk.symm.trans hfp.symm)
      have hinv : Inv X (rotateAIK X w id key env).1 := by
        rw [hrun]
        exact h.written X (keyFile_written X hX honly hfile hp.marshal env.info env.now)
          rfl (by rw [← hp.fp_eq]) h₁
          (hp.fp_eq ▸ hp.named) (hp.fp_eq ▸ hp.free)
      rw [hrun] at hinv ⊢
      exact ⟨.of_ok X hrun hinv (AList.lookup_insert _) fun id' hne => AList.lookup_insert_ne hne, hinv⟩
    · -- the write or the close failed
      have hrun : rotateAIK X w id key env =
          ({ w with dir := d' }, .error ("failed to write key file: " ++ "write error")) := by
        simp only [rotateAIK, hplan, hres]
      have hkey : keyFile X d' id = keyFile X w.dir id := by
        rw [← h.disk, keyFile_file X (hfile.trans (if_neg (by simp)))]
        exact hc der oldFP newFP hplan hopen hw
      obtain ⟨hinv, hre⟩ := h.unwritten X honly hkey
      rw [hrun]
      exact ⟨.of_error X hrun hre, hinv⟩

/-- **Step.** -/
theorem step_inv (hX : X.Lawful) {w : World} (h : Inv X w) {op : Op} (hc : Clean X w op) :
    Kept X w op ∧ Inv X ((machine X).step w op).1 := by
  cases op with
  | register id key env => exact register_step X hX h hc
  | rotate id key env => exact rotate_step X hX h hc

/-- A failed write keeps the call's promise only if the directory does not show
it: what was left of the file is what the client had. -/
theorem clean_of_kept {w : World} (h : Inv X w) {op : Op} (hk : Kept X w op) : Clean X w op := by
  -- the client's key in both directories, from the stores they are opened to
  have hkeyFile : ∀ {id : Name} {d' : Dir}, Reloads X w.dir d' →
      keyFile X d' id = w.fs.cache.lookup id := by
    intro id d' hre
    obtain ⟨a, b, ha, hb, hsame⟩ := hre
    rw [h.disk, ← ((newFileStore_loaded X d').1 b hb).1.cache, ← ((newFileStore_loaded X w.dir).1
      a ha).1.cache, hsame.cache]
  cases op with
  | register id key env =>
    intro der fp hplan hopen hw hr
    have hwrite := writeKeyPEM_cases env.pem w.dir id .excl (X.encodePEM der) true
    rcases hres : writeKeyPEM env.pem w.dir (id ++ pemSuffix) .excl (X.encodePEM der) true with ⟨d', r⟩
    rw [hres] at hwrite
    rcases hwrite.2 with ⟨hno, -, -⟩ | ⟨-, hw', -, -⟩ | ⟨-, -, rfl, hfile⟩
    · exact absurd hno hopen
    · rw [hw] at hw'
      cases hw'
    have hrun : registerAIK X w id key env =
        ({ w with dir := d' }, .error ("failed to write key file: " ++ "write error")) := by
      simp only [registerAIK, hplan, hres]
    obtain ⟨-, hre⟩ := hk.failed _ (congrArg Prod.snd hrun)
    have hstep : ((machine X).step w (.register id key env)).1.dir = d' :=
      congrArg (fun p => p.1.dir) hrun
    rw [hstep] at hre
    rw [hr] at hfile
    rw [← keyFile_file X (hfile.trans (if_neg (by simp))), hkeyFile hre]
    exact (registerPlan_some X hplan).1
  | rotate id key env =>
    intro der oldFP newFP hplan hopen hw
    have hwrite := writeKeyPEM_cases env.pem w.dir id .trunc (X.encodePEM der) false
    rcases hres : writeKeyPEM env.pem w.dir (id ++ pemSuffix) .trunc (X.encodePEM der)
      false with ⟨d', r⟩
    rw [hres] at hwrite
    rcases hwrite.2 with ⟨hno, -, -⟩ | ⟨-, hw', -, -⟩ | ⟨-, -, rfl, hfile⟩
    · exact absurd hno hopen
    · rw [hw] at hw'
      cases hw'
    have hrun : rotateAIK X w id key env =
        ({ w with dir := d' }, .error ("failed to write key file: " ++ "write error")) := by
      simp only [rotateAIK, hplan, hres]
    obtain ⟨-, hre⟩ := hk.failed _ (congrArg Prod.snd hrun)
    have hstep : ((machine X).step w (.rotate id key env)).1.dir = d' :=
      congrArg (fun p => p.1.dir) hrun
    rw [hstep] at hre
    rw [← keyFile_file X (hfile.trans (if_neg (by simp))), hkeyFile hre]

/-- **Exactly then.** In a state of a run so far clean, a call does what it must
exactly when it is clean. -/
theorem kept_iff_clean (hX : X.Lawful) {w : World} (h : Inv X w) (op : Op) :
    Kept X w op ↔ Clean X w op :=
  ⟨clean_of_kept X h, fun hc => (step_inv X hX h hc).1⟩

/-! ## Runs -/

theorem run_inv (hX : X.Lawful) {w : World} (h : Inv X w) {ops : List Op}
    (hc : (machine X).AllSteps (Clean X) w ops) :
    (machine X).AllSteps (Kept X) w ops ∧ Inv X ((machine X).run w ops) := by
  induction ops generalizing w with
  | nil => exact ⟨trivial, h⟩
  | cons op ops ih =>
    obtain ⟨hkept, hinv⟩ := step_inv X hX h hc.1
    obtain ⟨hrest, hend⟩ := ih hinv hc.2
    exact ⟨⟨hkept, hrest⟩, hend⟩

/-- **File store.** Over every run from an opened store in which a failed write
leaves the directory's keys as they were: a call that fails changes neither the
store nor what a fresh one would load, a call that succeeds changes both, the
index is the inverse of the cache, and reopening gives the cache back. -/
theorem aik_store_consistent (hX : X.Lawful) (d : Dir) (fs : FileStore)
    (hopen : newFileStore X .none d = .ok fs)
    (ops : List Op) (hclean : (machine X).AllSteps (Clean X) ⟨d, fs⟩ ops) :
    (machine X).AllSteps (Kept X) ⟨d, fs⟩ ops ∧
      ∀ pre post, ops = pre ++ post →
        let w := (machine X).run ⟨d, fs⟩ pre
        Inverse X w.fs.cache w.fs.fpIndex ∧ Reopens X w := by
  have hinv := inv_of_open X hopen
  refine ⟨(run_inv X hX hinv hclean).1, ?_⟩
  rintro pre post rfl
  have hpre := (run_inv X hX hinv (Machine.allSteps_append.mp hclean).1).2
  exact ⟨hpre.index, hpre.reopens⟩

/-! ## A rotation that fails -/

/-- The smallest modulus of 2048 bits. -/
def topBit : Nat := 2 ^ 2047

theorem topBit_eq : topBit = 2 ^ 2047 := rfl

theorem four_le_topBit : 4 ≤ topBit :=
  calc 4 = 2 ^ 2 := rfl
    _ ≤ 2 ^ 2047 := Nat.pow_le_pow_right (by decide) (by decide)
    _ = topBit := topBit_eq.symm

-- the number is never computed
attribute [irreducible] topBit

def beginLine : Bytes := ascii "-----BEGIN PUBLIC KEY-----\n"

def endLine : Bytes := ascii "-----END PUBLIC KEY-----\n"

/-- Keys of 2048 bits with exponent 3 in their real encoding, and metadata of
one point in time. -/
def sampleCodec : Codec where
  marshalPKIXPublicKey key :=
    if key.e = 3 ∧ topBit ≤ key.n ∧ key.n < topBit + topBit then .ok (marshalSPKI key.n)
      else .error "unsupported key"
  parsePKIXPublicKey der :=
    match parseSPKI der with
    | none => .error "asn1: structure error"
    | some k =>
      if h : 0 < k.n ∧ 0 < k.e ∧ k.e < 2 ^ 63 then .ok (some ⟨k, h.1, h.2.1, h.2.2⟩)
        else .error "x509: invalid key"
  encodePEM := pemEncode beginLine endLine
  decodePEM := pemDecode beginLine endLine
  marshalMeta t :=
    if t = 0 then .ok (ascii "\x7b\"registered_at\":\"1970-01-01T00:00:00Z\"\x7d")
      else .error "unsupported time"
  unmarshalMeta data :=
    if data = ascii "\x7b\"registered_at\":\"1970-01-01T00:00:00Z\"\x7d" then .ok 0
      else .error "invalid character"

theorem sampleCodec_lawful : sampleCodec.Lawful where
  decode_encode der := by
    have hdash : endLine.head? = some 45 := by decide
    exact pemDecode_pemEncode hdash beginLine der
  parse_marshal key der h := by
    obtain ⟨⟨n, e⟩, hn, he, hlt⟩ := key
    simp only [sampleCodec] at h ⊢
    split at h
    · rename_i hk
      obtain ⟨rfl, h1, h2⟩ := hk
      cases h
      have hdouble : 2 ^ 2048 = topBit + topBit := by rw [topBit_eq, ← Nat.two_mul, ← Nat.pow_succ']
      rw [parseSPKI_marshalSPKI (topBit_eq ▸ h1) (hdouble ▸ h2)]
      simp only [dif_pos (⟨hn, he, hlt⟩ : 0 < n ∧ 0 < 3 ∧ 3 < 2 ^ 63)]
    · cases h

def sampleAik (i : Fin 4) : AikKey where
  n := topBit + i
  e := 3
  n_pos := by
    have := four_le_topBit
    omega
  e_pos := by decide
  e_lt := by decide

theorem marshal_sampleAik (i : Fin 4) :
    sampleCodec.marshalPKIXPublicKey (sampleAik i) = .ok (marshalSPKI (topBit + i)) := by
  have hlt : topBit + i.val < topBit + topBit := by
    have := four_le_topBit
    omega
  exact if_pos ⟨rfl, Nat.le_add_right .., hlt⟩

theorem fingerprintFromDER_ne {der : Bytes} (h : der ≠ []) : fingerprintFromDER der ≠ "" := by
  unfold fingerprintFromDER
  rw [if_neg (by simpa using h)]
  intro he
  have hnil : (sha256 der).toList = [] := hexEncode_injective he
  have hlen := (sha256 der).toList_length
  rw [hnil] at hlen
  cases hlen

def sampleClient : Name := ['c', '1']

/-- Nothing fails. -/
def calm : Env where
  pem := { openFails := false, writeFails := false, closeFails := false, kept := 0,
           removeFails := false }
  info := { openFails := false, kept := none }
  now := 0

/-- The file system is full: the file is truncated and nothing is written. -/
def diskFull : Env := { calm with pem := { calm.pem with writeFails := true } }

theorem open_empty : newFileStore sampleCodec .none ∅ = .ok {} := rfl

def firstOp : Op := .register sampleClient (sampleAik 1) calm

theorem firstOp_clean (w : World) : Clean sampleCodec w firstOp := by
  intro der fp _ _ hw
  cases hw

theorem marshalSPKI_ne_nil (n : Nat) : marshalSPKI n ≠ [] := by
  intro h
  have := marshalSPKI_length n
  rw [h] at this
  cases this

theorem registerPlan_sample : registerPlan sampleCodec {} sampleClient (sampleAik 1) =
    .ok (some (marshalSPKI (topBit + 1), fingerprintFromDER (marshalSPKI (topBit + 1)))) := by
  have hm : sampleCodec.marshalPKIXPublicKey (sampleAik 1) = .ok (marshalSPKI (topBit + 1)) :=
    marshal_sampleAik 1
  have hid : validateClientID sampleClient = true := by decide
  unfold registerPlan
  simp only [hid, Bool.not_true, Bool.false_eq_true, if_false, AList.lookup_empty, hm,
    if_neg (fingerprintFromDER_ne (marshalSPKI_ne_nil _))]

theorem firstOp_ok : ((machine sampleCodec).step ⟨∅, {}⟩ firstOp).2 = .ok () := by
  show (registerAIK sampleCodec ⟨∅, {}⟩ sampleClient (sampleAik 1) calm).2 = .ok ()
  unfold registerAIK
  simp only [registerPlan_sample]
  rfl

/-- **A lost key.** A client is registered and its key rotated while the file
system is full. The rotation reports an error, but the key is gone from the
directory. -/
theorem failed_rotation_loses_key : ∃ fs, newFileStore sampleCodec .none ∅ = .ok fs ∧
    ¬ (machine sampleCodec).AllSteps (Kept sampleCodec) ⟨∅, fs⟩
      [firstOp, .rotate sampleClient (sampleAik 2) diskFull] := by
  refine ⟨{}, open_empty, fun hall => ?_⟩
  obtain ⟨hfirst, hinv⟩ :=
    step_inv sampleCodec sampleCodec_lawful (inv_of_open _ open_empty) (firstOp_clean _)
  obtain ⟨hkey, -, hothers⟩ := hfirst.done firstOp_ok
  have hclean := clean_of_kept sampleCodec hinv hall.2.1
  generalize ((machine sampleCodec).step ⟨∅, {}⟩ firstOp).1 = w at *
  have hold : w.fs.cache.lookup sampleClient = some (sampleAik 1) := hkey
  -- the fingerprint index has the one client
  have hfree : ∀ fp id, w.fs.fpIndex.lookup fp = some id → id = sampleClient := by
    intro fp id hid
    obtain ⟨key, hk, -⟩ := (hinv.index fp id).mp hid
    by_contra hne
    rw [hothers id hne] at hk
    cases hk
  have hplan : rotatePlan sampleCodec w.fs sampleClient (sampleAik 2) =
      .ok (marshalSPKI (topBit + 2), fingerprint sampleCodec (sampleAik 1),
        fingerprintFromDER (marshalSPKI (topBit + 2))) := by
    have hm : sampleCodec.marshalPKIXPublicKey (sampleAik 2) = .ok (marshalSPKI (topBit + 2)) :=
      marshal_sampleAik 2
    have hid : validateClientID sampleClient = true := by decide
    unfold rotatePlan
    simp only [hid, Bool.not_true, Bool.false_eq_true, if_false, hold, if_neg (hinv.named _ _ hold), hm,
      if_neg (fingerprintFromDER_ne (marshalSPKI_ne_nil _))]
    cases hl : w.fs.fpIndex.lookup (fingerprintFromDER (marshalSPKI (topBit + 2))) with
    | none => rfl
    | some id => simp [hfree _ _ hl]
  have hleft := hclean _ _ _ hplan (openFile_of_key sampleCodec ((hinv.disk _).symm.trans hold)) rfl
  rw [hold] at hleft
  cases hleft

theorem aik_store_consistent_first :
    (machine sampleCodec).AllSteps (Kept sampleCodec) ⟨∅, {}⟩ [firstOp] ∧
      Reopens sampleCodec ((machine sampleCodec).run ⟨∅, {}⟩ [firstOp]) := by
  obtain ⟨hkept, hstates⟩ :=
    aik_store_consistent sampleCodec sampleCodec_lawful ∅ {} open_empty [firstOp]
    ⟨firstOp_clean _, trivial⟩
  exact ⟨hkept, (hstates [firstOp] [] rfl).2⟩

end Lota.L2.FileAik

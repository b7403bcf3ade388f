import Lota.Core.PrefixCode
import Lota.Core.SortedSet
import Lota.L6Agent.MapsText

/-!
# What an image digest says (`agent/runtime_image_measure.c`)

The digest is meant to be a function of the set of objects that a process maps
executable: of their names and fs-verity digests, in whatever order and however
often they are mapped. The collector keeps one mapping for each inode, the
first one, with its name. An inode that is mapped under two names (hard links)
loses the second, so the order of the mappings shows in the digest.

`V` is the fs-verity digest of each inode.

* `mem_collect_iff`: the entries are the first mappings of their inodes.
* `canonicalModules_eq`: the sort and the collapse give the canonical form of
  a set.
* `imageMessage_inj`: the hashed message determines the modules.
* `image_digest_iff`: the digest of a measured process is that of the set of
  its mappings exactly when every name is also one of a first mapping; and
  among such processes equal digests mean equal sets.
* `hard_link_order`: two orders of one set of mappings, and two digests.
-/
namespace Lota.L6.RuntimeImage
open Lota.Core Lota.L1.Report

/-- The fs-verity digest of an inode. -/
abbrev Verity := UInt32 → UInt32 → UInt64 → Except Errno Bytes

/-- What a range under `map_files` leads to. -/
structure Target where
  regular : Bool
  devMajor : UInt32
  devMinor : UInt32
  ino : UInt64

/-- The text of `maps`, and `map_files`. -/
structure Snapshot where
  maps : Bytes
  mapFile : UInt64 → UInt64 → Except Errno Target

def Target.file (V : Verity) (t : Target) : BackingFile :=
  ⟨t.regular, t.devMajor, t.devMinor, t.ino, V t.devMajor t.devMinor t.ino⟩

def Snapshot.process (V : Verity) (p : Snapshot) : Process :=
  ⟨mapsOf p.maps, fun a b => (p.mapFile a b).map (Target.file V)⟩

/-- `lota_runtime_measure_pid` on this process. -/
def Snapshot.measure (V : Verity) (p : Snapshot) : Except Errno Hash :=
  runtimeMeasurePid (fun _ => .ok (p.process V)) 0

/-! ## Mappings -/

def MapEntry.digest (V : Verity) (e : MapEntry) : Except Errno Bytes := V e.devMajor e.devMinor e.ino

/-- Two mappings of one file. -/
def sameInode (a b : MapEntry) : Bool :=
  a.devMajor == b.devMajor && a.devMinor == b.devMinor && a.ino == b.ino

/-- The executable file mappings among the lines. -/
def mappings (lines : List MapsLine) : List MapEntry :=
  lines.filterMap fun line => match parseMapsLine line with
    | .ok e => e
    | .error _ => none

/-- The mapping is the first one of its inode. -/
def First (es : List MapEntry) (e : MapEntry) : Prop :=
  ∃ pre post, es = pre ++ e :: post ∧ ∀ x ∈ pre, sameInode x e = false

/-- The names and digests of the executable file mappings. -/
def pairs (V : Verity) (es : List MapEntry) : List Module :=
  es.filterMap fun e => match e.digest V with
    | .ok d => some ⟨e.soname, d⟩
    | .error _ => none

/-- Every name that an inode is mapped under is the name of the first mapping
of an inode with the same digest. -/
def FirstNames (V : Verity) (es : List MapEntry) : Prop :=
  ∀ e ∈ es, ∃ e', First es e' ∧ e'.soname = e.soname ∧ e'.digest V = e.digest V

theorem sameInode_iff {a b : MapEntry} :
    sameInode a b = true ↔ a.devMajor = b.devMajor ∧ a.devMinor = b.devMinor ∧ a.ino = b.ino := by
  simp [sameInode, and_assoc]

theorem sameInode_digest {V : Verity} {a b : MapEntry} (h : sameInode a b = true) :
    a.digest V = b.digest V := by
  obtain ⟨h1, h2, h3⟩ := sameInode_iff.mp h
  simp only [MapEntry.digest, h1, h2, h3]

theorem mem_pairs {V : Verity} {es : List MapEntry} {m : Module} :
    m ∈ pairs V es ↔ ∃ e ∈ es, m.soname = e.soname ∧ e.digest V = .ok m.verity := by
  unfold pairs
  rw [List.mem_filterMap]
  constructor
  · intro ⟨e, he, hm⟩
    cases hd : e.digest V with
    | error err =>
      rw [hd] at hm
      cases hm
    | ok d =>
      rw [hd] at hm
      cases hm
      exact ⟨e, he, rfl, hd⟩
  · intro ⟨e, he, hname, hd⟩
    refine ⟨e, he, ?_⟩
    rw [hd]
    exact congrArg some (by cases m; simp_all)

/-! ## The collector -/

theorem entrySeen_iff {entries : List MapEntry} {cand : MapEntry} :
    entrySeen entries cand = true ↔ ∃ e ∈ entries, sameInode e cand = true := by
  unfold entrySeen sameInode
  rw [List.any_eq_true]

theorem sameInode_trans {a b c : MapEntry} (hab : sameInode a b = true)
    (hbc : sameInode b c = true) : sameInode a c = true := by
  obtain ⟨h1, h2, h3⟩ := sameInode_iff.mp hab
  obtain ⟨h4, h5, h6⟩ := sameInode_iff.mp hbc
  exact sameInode_iff.mpr ⟨h1.trans h4, h2.trans h5, h3.trans h6⟩

/-- **Collecting.** What a run of the loop leaves: the entries it started with
and the first mapping of every inode that was not among them. -/
theorem collect_iff {max : Nat} {lines : List MapsLine} {acc entries : List MapEntry}
    (h : collectExecMaps max acc lines = .ok entries) (e : MapEntry) :
    e ∈ entries ↔ e ∈ acc ∨ ∃ pre post, mappings lines = pre ++ e :: post ∧
    ∀ x ∈ acc ++ pre, sameInode x e = false := by
  induction lines generalizing acc with
  | nil =>
    cases h
    simp [mappings]
  | cons line lines ih =>
    unfold collectExecMaps at h
    cases hp : parseMapsLine line with
    | error err =>
      rw [hp] at h
      cases h
    | ok o =>
      cases o with
      | none =>
        have hmap : mappings (line :: lines) = mappings lines := by simp [mappings, hp]
        rw [hmap]
        rw [hp] at h
        exact ih h
      | some c =>
        have hmap : mappings (line :: lines) = c :: mappings lines := by simp [mappings, hp]
        rw [hmap]
        simp only [hp] at h
        split at h
        next hseen =>
          -- the inode is there already: a first mapping is found behind this one
          obtain ⟨x, hx, hxc⟩ := entrySeen_iff.mp hseen
          rw [ih h]
          refine or_congr_right ⟨?_, ?_⟩
          · intro hfirst
            obtain ⟨pre, post, heq, hno⟩ := hfirst
            refine ⟨c :: pre, post, by rw [heq, List.cons_append], fun y hy => ?_⟩
            rcases List.mem_append.mp hy with hy | hy
            · exact hno y (List.mem_append_left _ hy)
            · rcases List.mem_cons.mp hy with rfl | hy
              · refine Bool.eq_false_iff.mpr fun hye => ?_
                have hxe := sameInode_trans hxc hye
                rw [hno x (List.mem_append_left _ hx)] at hxe
                cases hxe
              · exact hno y (List.mem_append_right _ hy)
          · intro hfirst
            obtain ⟨pre, post, heq, hno⟩ := hfirst
            cases pre with
            | nil =>
              obtain ⟨rfl, -⟩ := List.cons.inj heq
              have hxe := hno x (List.mem_append_left _ hx)
              rw [hxc] at hxe
              cases hxe
            | cons y pre =>
              obtain ⟨rfl, hrest⟩ := List.cons.inj heq
              refine ⟨pre, post, hrest, fun z hz => hno z ?_⟩
              rcases List.mem_append.mp hz with hz | hz
              · exact List.mem_append_left _ hz
              · exact List.mem_append_right _ (List.mem_cons_of_mem _ hz)
        next hnew =>
          split at h
          · cases h
          have hfresh : ∀ x ∈ acc, sameInode x c = false := by
            intro x hx
            exact Bool.eq_false_iff.mpr fun hxc => hnew (entrySeen_iff.mpr ⟨x, hx, hxc⟩)
          rw [ih h, List.mem_append, List.mem_singleton, or_assoc]
          refine or_congr_right ⟨?_, ?_⟩
          · intro hcase
            rcases hcase with rfl | ⟨pre, post, heq, hno⟩
            · exact ⟨[], mappings lines, rfl, by simpa using hfresh⟩
            · refine ⟨c :: pre, post, by rw [heq, List.cons_append], fun y hy => hno y ?_⟩
              simpa [List.append_assoc] using hy
          · intro hfirst
            obtain ⟨pre, post, heq, hno⟩ := hfirst
            cases pre with
            | nil =>
              obtain ⟨rfl, -⟩ := List.cons.inj heq
              exact .inl rfl
            | cons y pre =>
              obtain ⟨rfl, hrest⟩ := List.cons.inj heq
              refine .inr ⟨pre, post, hrest, fun z hz => hno z ?_⟩
              simpa [List.append_assoc] using hz

theorem mem_collect_iff {max : Nat} {lines : List MapsLine} {entries : List MapEntry}
    (h : collectExecMaps max [] lines = .ok entries) (e : MapEntry) :
    e ∈ entries ↔ First (mappings lines) e := by
  rw [collect_iff h]
  simp [First]

/-- Every mapping is one of an inode that has an entry. -/
theorem exists_first {es : List MapEntry} {e : MapEntry} (h : e ∈ es) :
    ∃ e', First es e' ∧ sameInode e' e = true := by
  induction es with
  | nil => cases h
  | cons a es ih =>
    by_cases ha : sameInode a e = true
    · exact ⟨a, ⟨[], es, rfl, by simp⟩, ha⟩
    · rcases List.mem_cons.mp h with rfl | h
      · exact absurd (sameInode_iff.mpr ⟨rfl, rfl, rfl⟩) ha
      · obtain ⟨e', ⟨pre, post, heq, hno⟩, hsame⟩ := ih h
        refine ⟨e', ⟨a :: pre, post, by rw [heq, List.cons_append], fun x hx => ?_⟩, hsame⟩
        rcases List.mem_cons.mp hx with rfl | hx
        · exact Bool.eq_false_iff.mpr fun hxe => ha (sameInode_trans hxe hsame)
        · exact hno x hx

/-- A collection that succeeds has read every line. -/
theorem collect_max {max : Nat} {lines : List MapsLine} {entries : List MapEntry}
    (h : collectExecMaps max [] lines = .ok entries) :
    (∀ e ∈ entries, e.soname ≠ [] ∧ e.soname.length < sonameMax) ∧ entries.length ≤ max :=
  collect_entries (by simp) (Nat.zero_le _) h

theorem mapping_name {lines : List MapsLine} {e : MapEntry} (h : e ∈ mappings lines) :
    e.soname.length < sonameMax := by
  obtain ⟨line, -, hline⟩ := List.mem_filterMap.mp h
  cases hp : parseMapsLine line with
  | error err =>
    rw [hp] at hline
    cases hline
  | ok o =>
    rw [hp] at hline
    subst hline
    exact (parse_soname hp).2

theorem First.mem {es : List MapEntry} {e : MapEntry} (h : First es e) : e ∈ es := by
  obtain ⟨pre, post, rfl, -⟩ := h
  simp

/-! ## The canonical form -/

instance : Std.LawfulEqCmp moduleCmp where
  compare_self := Std.ReflCmp.compare_self
  eq_of_compare {a b} h := by
    unfold moduleCmp at h
    obtain ⟨hname, h⟩ := Ordering.then_eq_eq.mp h
    obtain ⟨-, hverity⟩ := Ordering.then_eq_eq.mp h
    cases a
    cases b
    simp only [Module.mk.injEq]
    exact ⟨Std.LawfulEqCmp.eq_of_compare hname, Std.LawfulEqCmp.eq_of_compare hverity⟩

theorem collapse_eq (last : Module) (ms : List Module) :
    collapse last ms = last :: newEntries (some last) ms := by
  induction ms generalizing last with
  | nil => rfl
  | cons m ms ih =>
    unfold collapse newEntries
    by_cases h : last = m
    · subst h
      rw [if_pos Std.ReflCmp.compare_self, if_pos rfl, ih]
    · have hcmp : moduleCmp last m ≠ .eq := fun hc => h (Std.LawfulEqCmp.eq_of_compare hc)
      have hsome : some last ≠ some m := fun hs => h (Option.some.inj hs)
      rw [if_neg hcmp, if_neg hsome, ih]

theorem canonicalModules_eq (mods : List Module) :
    canonicalModules mods = sortUnique moduleCmp mods := by
  have hcmp : (fun a b => moduleCmp a b != .gt) = fun a b : Module => (moduleCmp a b).isLE := by
    funext a b
    cases moduleCmp a b <;> rfl
  unfold canonicalModules sortUnique qsort
  rw [hcmp]
  cases mods.mergeSort fun a b => (moduleCmp a b).isLE with
  | nil => rfl
  | cons m ms =>
    rw [newEntries, if_neg (by simp), ← collapse_eq]

theorem canonicalModules_eq_iff {l m : List Module} :
    canonicalModules l = canonicalModules m ↔ ∀ x, x ∈ l ↔ x ∈ m := by
  rw [canonicalModules_eq, canonicalModules_eq]
  exact sortUnique_eq_iff

theorem mem_canonicalModules {l : List Module} {x : Module} : x ∈ canonicalModules l ↔ x ∈ l := by
  rw [canonicalModules_eq]
  exact mem_sortUnique moduleCmp

/-! ## The message -/

def imageMessage (mods : List Module) : Bytes :=
  imageDomain ++ (toLE 4 mods.length ++ mods.flatMap moduleBytes)

/-- Both strings of the module fit behind their lengths. -/
def Sized (m : Module) : Prop := m.soname.length < 256 ^ 4 ∧ m.verity.length < 256 ^ 4

theorem prefixFree_moduleBytes : PrefixFree Sized moduleBytes := by
  intro a b xs ys ha hb h
  have hsized : ∀ m : Module, moduleBytes m = sized 4 m.soname ++ sized 4 m.verity := by
    intro m
    simp [moduleBytes, sized]
  rw [hsized, hsized, List.append_assoc, List.append_assoc] at h
  obtain ⟨hname, hrest⟩ := prefixFree_sized 4 ha.1 hb.1 h
  obtain ⟨hverity, htail⟩ := prefixFree_sized 4 ha.2 hb.2 hrest
  refine ⟨?_, htail⟩
  cases a
  cases b
  exact congrArg₂ Module.mk hname hverity

theorem moduleBytes_ne_nil (m : Module) : moduleBytes m ≠ [] := by
  intro h
  have hlen := congrArg List.length h
  simp only [moduleBytes, List.length_append, toLE_length, List.length_nil] at hlen
  omega

theorem imageMessage_inj {l m : List Module} (hl : ∀ x ∈ l, Sized x) (hm : ∀ x ∈ m, Sized x)
    (h : imageMessage l = imageMessage m) : l = m := by
  unfold imageMessage at h
  have h := List.append_cancel_left h
  obtain ⟨-, h⟩ := List.append_inj h (by rw [toLE_length, toLE_length])
  exact prefixFree_moduleBytes.flatMap_inj moduleBytes_ne_nil hl hm h

/-! ## A measured process -/

/-- The modules that are hashed. -/
def Snapshot.modules (V : Verity) (p : Snapshot) : List Module :=
  match collectExecMaps maxModules [] (mapsOf p.maps) with
  | .ok entries => canonicalModules (pairs V entries)
  | .error _ => []

/-- The executable file mappings of the process. -/
def Snapshot.mappings (p : Snapshot) : List MapEntry := RuntimeImage.mappings (mapsOf p.maps)

/-- Their names and digests. -/
def Snapshot.pairs (V : Verity) (p : Snapshot) : List Module := RuntimeImage.pairs V p.mappings

/-- The digest that the set of all pairs has. -/
def Snapshot.setDigest (V : Verity) (p : Snapshot) : Hash :=
  sha256 (imageMessage (canonicalModules (p.pairs V)))

section
variable {V : Verity} {p : Snapshot} {d : Hash}

theorem measureEntry_digest {e : MapEntry} {digest : Bytes}
    (h : measureEntryVerity (p.process V) e = .ok digest) :
    e.digest V = .ok digest ∧ digest.length = verityDigestSize := by
  refine ⟨?_, measureEntryVerity_length h⟩
  unfold measureEntryVerity at h
  split at h
  · cases h
  split at h
  · cases h
  next file hfile =>
    obtain ⟨t, ht, rfl⟩ : ∃ t, p.mapFile e.start e.stop = .ok t ∧ Target.file V t = file := by
      simp only [Snapshot.process] at hfile
      cases hm : p.mapFile e.start e.stop with
      | error err =>
        rw [hm] at hfile
        cases hfile
      | ok t =>
        rw [hm] at hfile
        exact ⟨t, rfl, Except.ok.inj hfile⟩
    split at h
    · cases h
    next hsame =>
      simp only [Target.file, not_or, not_not, ne_eq] at hsame
      obtain ⟨-, h1, h2, h3⟩ := hsame
      split at h
      · cases h
      next digest' hv =>
        split at h
        · cases h
        next =>
          cases h
          simp only [Target.file] at hv
          rw [MapEntry.digest, ← h1, ← h2, ← h3]
          exact hv

theorem measureEntries_pairs {entries : List MapEntry} {mods : List Module}
    (h : measureEntries (p.process V) entries = .ok mods) : mods = RuntimeImage.pairs V entries := by
  induction entries generalizing mods with
  | nil =>
    cases h
    rfl
  | cons e es ih =>
    unfold measureEntries at h
    split at h
    · cases h
    next verity he =>
      split at h
      · cases h
      next ms hms =>
        cases h
        rw [ih hms]
        simp [RuntimeImage.pairs, (measureEntry_digest he).1]

/-- What a measurement that succeeds has found. -/
structure Measured (V : Verity) (p : Snapshot) (d : Hash) : Prop where
  valid : validateRuntimeImageModules (p.modules V) = .ok ()
  digest : computeRuntimeImageDigest (p.modules V) = .ok d
  /-- The modules are those of the first mappings. -/
  mem : ∀ m, m ∈ p.modules V ↔ ∃ e, First p.mappings e ∧ m.soname = e.soname ∧ e.digest V = .ok m.verity
  /-- Every mapping has a digest. -/
  anchored : ∀ e ∈ p.mappings, ∃ v, e.digest V = .ok v ∧ v.length = verityDigestSize

theorem measured (h : p.measure V = .ok d) : Measured V p d := by
  unfold Snapshot.measure runtimeMeasurePid at h
  simp only at h
  have hlines : (p.process V).maps = mapsOf p.maps := rfl
  rw [hlines] at h
  cases hcol : collectExecMaps maxModules [] (mapsOf p.maps) with
  | error e =>
    rw [hcol] at h
    cases h
  | ok entries =>
    rw [hcol] at h
    have hmods : p.modules V = canonicalModules (RuntimeImage.pairs V entries) := by
      unfold Snapshot.modules
      rw [hcol]
    cases entries with
    | nil => cases h
    | cons e es =>
      simp only at h
      cases hm : measureEntries (p.process V) (e :: es) with
      | error err =>
        rw [hm] at h
        cases h
      | ok mods =>
        rw [hm] at h
        simp only at h
        have hpairs := measureEntries_pairs hm
        rw [hpairs, ← hmods] at h
        obtain ⟨hname, hlen⟩ := collect_max hcol
        have hdigests := measureEntries_digests hm
        obtain ⟨mods', hm', hlen', hvalid⟩ := measureEntries_ok hname hdigests
        rw [hm] at hm'
        obtain rfl := Except.ok.inj hm'
        refine ⟨?_, h, fun m => ?_, fun x hx => ?_⟩
        · rw [hmods, ← hpairs]
          exact canonical_valid (by omega) hvalid
        · rw [hmods, mem_canonicalModules, mem_pairs]
          refine exists_congr fun x => ?_
          rw [mem_collect_iff hcol]
          rfl
        · obtain ⟨x', hfirst, hsame⟩ := exists_first hx
          obtain ⟨v, hv⟩ := hdigests x' ((mem_collect_iff hcol x').mpr hfirst)
          obtain ⟨hd, hl⟩ := measureEntry_digest hv
          exact ⟨v, by rw [← sameInode_digest hsame, hd], hl⟩

/-- The pairs of a measured process fit the message. -/
theorem Measured.sized (h : Measured V p d) : ∀ m ∈ p.pairs V, Sized m := by
  intro m hm
  obtain ⟨e, he, hname, hd⟩ := mem_pairs.mp hm
  obtain ⟨v, hv, hlen⟩ := h.anchored e he
  rw [hd] at hv
  cases hv
  have h1 : m.soname.length < 256 := by
    rw [hname]
    exact mapping_name he
  have h2 : m.verity.length = 64 := hlen
  exact ⟨by omega, by omega⟩

theorem Measured.subset (h : Measured V p d) {m : Module} (hm : m ∈ p.modules V) : m ∈ p.pairs V := by
  obtain ⟨e, he, hname, hd⟩ := (h.mem m).mp hm
  exact mem_pairs.mpr ⟨e, he.mem, hname, hd⟩

theorem Measured.digest_eq (h : Measured V p d) : d = sha256 (imageMessage (p.modules V)) := by
  have hd := h.digest
  unfold computeRuntimeImageDigest at hd
  rw [h.valid] at hd
  exact (Except.ok.inj hd).symm

/-- No name is lost when every name is one of a first mapping. -/
theorem Measured.firstNames_iff (h : Measured V p d) :
    FirstNames V p.mappings ↔ ∀ m, m ∈ p.modules V ↔ m ∈ p.pairs V := by
  constructor
  · intro hfirst m
    refine ⟨h.subset, fun hm => ?_⟩
    obtain ⟨e, he, hname, hd⟩ := mem_pairs.mp hm
    obtain ⟨e', hf, hname', hd'⟩ := hfirst e he
    exact (h.mem m).mpr ⟨e', hf, by rw [hname, hname'], by rw [hd', hd]⟩
  · intro hsame e he
    obtain ⟨v, hv, -⟩ := h.anchored e he
    obtain ⟨e', hf, hname, hd⟩ :=
      (h.mem ⟨e.soname, v⟩).mp ((hsame _).mpr (mem_pairs.mpr ⟨e, he, rfl, hv⟩))
    exact ⟨e', hf, hname.symm, by rw [hd, hv]⟩

/-- Among canonical lists of modules, the set decides about the list. -/
theorem modules_canonical (V : Verity) (p : Snapshot) :
    canonicalModules (p.modules V) = p.modules V := by
  unfold Snapshot.modules
  split
  next entries _ => exact canonicalModules_eq_iff.mpr fun x => mem_canonicalModules
  next => simp [canonicalModules]

theorem Measured.modules_eq_iff (h : Measured V p d) :
    p.modules V = canonicalModules (p.pairs V) ↔ FirstNames V p.mappings := by
  rw [h.firstNames_iff, ← modules_canonical V p]
  exact canonicalModules_eq_iff.trans (forall_congr' fun x => by rw [mem_canonicalModules])

end

/-- **Image digest.** The modules behind the digest of a measured process pass
the validation. The digest is that of the set of the names and digests of all
executable file mappings exactly when every name is one of a first mapping of
an inode; and two such processes have one digest exactly when they have one
set. -/
theorem image_digest_iff (V W : Verity) (p q : Snapshot) (d d' : Hash) (hp : p.measure V = .ok d)
    (hq : q.measure W = .ok d')
    (hcol : NoCollision (imageMessage (p.modules V)) (imageMessage (canonicalModules (p.pairs V))))
    (hcol' : NoCollision (imageMessage (canonicalModules (p.pairs V)))
      (imageMessage (canonicalModules (q.pairs W)))) :
    (validateRuntimeImageModules (p.modules V) = .ok () ∧
      computeRuntimeImageDigest (p.modules V) = .ok d) ∧
      (d = p.setDigest V ↔ FirstNames V p.mappings) ∧
      (FirstNames V p.mappings → FirstNames W q.mappings →
        (d = d' ↔ ∀ m, m ∈ p.pairs V ↔ m ∈ q.pairs W)) := by
  have hmp := measured hp
  have hmq := measured hq
  have hset : ∀ {V : Verity} {p : Snapshot} {d : Hash}, Measured V p d → FirstNames V p.mappings →
      d = p.setDigest V := by
    intro V p d h hf
    rw [h.digest_eq, h.modules_eq_iff.mpr hf]
    rfl
  have hcanon : ∀ {V : Verity} {p : Snapshot} {d : Hash}, Measured V p d →
      ∀ m ∈ canonicalModules (p.pairs V), Sized m :=
    fun h m hm => h.sized m (mem_canonicalModules.mp hm)
  refine ⟨⟨hmp.valid, hmp.digest⟩, ⟨fun hd => ?_, hset hmp⟩, fun hfp hfq => ?_⟩
  · rw [hmp.digest_eq] at hd
    exact hmp.modules_eq_iff.mp
      (imageMessage_inj (fun m hm => hmp.sized m (hmp.subset hm)) (hcanon hmp) (hcol hd))
  · rw [hset hmp hfp, hset hmq hfq, ← canonicalModules_eq_iff]
    constructor
    · intro h
      exact imageMessage_inj (hcanon hmp) (hcanon hmq) (hcol' h)
    · intro h
      unfold Snapshot.setDigest
      rw [h]

/-! ## Hard links -/

def firstName : Bytes := ascii "400000-401000 r-xp 00000000 fd:01 7   /usr/lib/libgame.so\n"
def secondName : Bytes := ascii "500000-501000 r-xp 00000000 fd:01 7   /usr/lib/libgame.so.1\n"

/-- A process that maps inode 7 of one file system. -/
def linked (maps : Bytes) : Snapshot := ⟨maps, fun _ _ => .ok ⟨true, 0xfd, 1, 7⟩⟩

def sampleVerity : Verity := fun _ _ _ => .ok (List.replicate 64 0x5a)

def libGame : MapEntry := ⟨0x400000, 0x401000, 0xfd, 1, 7, ascii "libgame.so"⟩
def libGame1 : MapEntry := ⟨0x500000, 0x501000, 0xfd, 1, 7, ascii "libgame.so.1"⟩

def sampleModule (e : MapEntry) : Module := ⟨e.soname, List.replicate 64 0x5a⟩

theorem canonicalModules_singleton (m : Module) : canonicalModules [m] = [m] := by
  simp [canonicalModules, collapse]

theorem linked_modules {maps : Bytes} {e : MapEntry}
    (hcol : collectExecMaps maxModules [] (mapsOf maps) = .ok [e]) :
    (linked maps).modules sampleVerity = [sampleModule e] := by
  unfold Snapshot.modules
  rw [show mapsOf (linked maps).maps = mapsOf maps from rfl, hcol]
  exact canonicalModules_singleton _

/-- Such a process is measured. -/
theorem linked_measure {maps : Bytes} {e : MapEntry}
    (hcol : collectExecMaps maxModules [] (mapsOf maps) = .ok [e])
    (he : measureEntryVerity ((linked maps).process sampleVerity) e = .ok (List.replicate 64 0x5a)) :
    (linked maps).measure sampleVerity = .ok (sha256 (imageMessage [sampleModule e])) := by
  have hmeas : Measurable (fun _ => .ok ((linked maps).process sampleVerity)) 0 := by
    refine ⟨(linked maps).process sampleVerity, [e], rfl, hcol, by simp, fun x hx => ?_⟩
    rw [List.mem_singleton.mp hx]
    exact ⟨_, he⟩
  obtain ⟨d, hd⟩ := (measure_iff _ 0).mpr hmeas
  have hm : Measured sampleVerity (linked maps) d := measured hd
  have hd' : (linked maps).measure sampleVerity = .ok d := hd
  rw [hd', hm.digest_eq, linked_modules hcol]

/-- A file that is mapped twice under one name. -/
theorem image_digest_twice :
    (linked (firstName ++ firstName)).measure sampleVerity =
    .ok ((linked (firstName ++ firstName)).setDigest sampleVerity) := by
  have hcol : collectExecMaps maxModules [] (mapsOf (firstName ++ firstName)) = .ok [libGame] := by
    decide +kernel
  have hpairs : (linked (firstName ++ firstName)).pairs sampleVerity =
      [sampleModule libGame, sampleModule libGame] := by
    decide +kernel
  have hmods : (linked (firstName ++ firstName)).modules sampleVerity =
      canonicalModules ((linked (firstName ++ firstName)).pairs sampleVerity) := by
    rw [linked_modules hcol, hpairs]
    exact (canonicalModules_singleton _).symm.trans (canonicalModules_eq_iff.mpr (by simp))
  have hd := linked_measure hcol (by decide +kernel)
  have hcol : NoCollision (imageMessage ((linked (firstName ++ firstName)).modules sampleVerity))
      (imageMessage (canonicalModules ((linked (firstName ++ firstName)).pairs sampleVerity))) := by
    intro _
    rw [hmods]
  have hdigest := (image_digest_iff sampleVerity sampleVerity _ _ _ _ hd hd hcol fun _ => rfl).2.1.mpr
    ((measured hd).modules_eq_iff.mp hmods)
  rw [hd, hdigest]

/-- Two hard links in two orders: one set of pairs, and two digests. -/
theorem hard_link_order : ∃ d d', (linked (firstName ++ secondName)).measure sampleVerity = .ok d ∧
    (linked (secondName ++ firstName)).measure sampleVerity = .ok d' ∧
    (∀ m, m ∈ (linked (firstName ++ secondName)).pairs sampleVerity ↔
      m ∈ (linked (secondName ++ firstName)).pairs sampleVerity) ∧ d ≠ d' := by
  have hp : collectExecMaps maxModules [] (mapsOf (firstName ++ secondName)) = .ok [libGame] := by
    decide +kernel
  have hq : collectExecMaps maxModules [] (mapsOf (secondName ++ firstName)) = .ok [libGame1] := by
    decide +kernel
  have hperm : ((linked (firstName ++ secondName)).pairs sampleVerity).reverse =
      (linked (secondName ++ firstName)).pairs sampleVerity := by decide +kernel
  refine ⟨_, _, linked_measure hp (by decide +kernel), linked_measure hq (by decide +kernel),
    fun m => ?_, by decide +kernel⟩
  rw [← hperm, List.mem_reverse]

end Lota.L6.RuntimeImage

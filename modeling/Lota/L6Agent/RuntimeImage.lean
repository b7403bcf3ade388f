import Lota.Core.Bytes
import Lota.Core.Sha256
import Lota.L1Wire.Report
import Mathlib.Data.List.Sort

/-!
# Runtime image measurement (`agent/runtime_image_measure.c`)

The agent lists the executable file mappings of a process from
`/proc/<pid>/maps`, one per inode, opens each through `/proc/<pid>/map_files`,
reads its fs-verity digest, and hashes the modules in canonical order. The
process runs on while it is measured, so what `map_files` resolves to is not
tied to what `maps` said.

A line of `maps` comes with its fields split, as the kernel prints them.

* `collect_entries`: what every collected entry satisfies.
* `canonical_valid`: after the sort and the collapse of duplicates the modules
  pass the check in front of the digest.
* `measure_iff`: a process is measured exactly when its maps can be read, name
  at least one and not too many files, and every file has a digest.
-/
namespace Lota.L6.RuntimeImage
open Lota.Core Lota.L1.Report

inductive Errno where
  | einval | enametoolong | e2big | enoent | estale
  /-- Any other that the kernel gives. -/
  | sys (errno : Nat)
  deriving DecidableEq, Repr

def sonameMax : Nat := 256
def maxModules : Nat := 256
def verityDigestSize : Nat := 64

/-! ## The mappings -/

/-- One line of `maps`; `rest` is what follows the inode, with the newline. -/
structure MapsLine where
  start : UInt64
  stop : UInt64
  perms : List Char
  devMajor : UInt32
  devMinor : UInt32
  ino : UInt64
  rest : Bytes

structure MapEntry where
  start : UInt64
  stop : UInt64
  devMajor : UInt32
  devMinor : UInt32
  ino : UInt64
  soname : Bytes
  deriving DecidableEq

/-- `" (deleted)"` -/
def deletedSuffix : Bytes := [0x20, 0x28, 0x64, 0x65, 0x6c, 0x65, 0x74, 0x65, 0x64, 0x29]

/-- mirrors src/agent/runtime_image_measure.c:27-36 -/
def stripDeletedSuffix (path : Bytes) : Bytes :=
  if deletedSuffix.isSuffixOf path then path.take (path.length - deletedSuffix.length) else path

/-- mirrors src/agent/runtime_image_measure.c:20-24 -/
def basename (path : Bytes) : Bytes := (path.reverse.takeWhile (· ≠ 0x2f)).reverse

/-- `none` for a line that is skipped.
mirrors src/agent/runtime_image_measure.c:66-117 -/
def parseMapsLine (line : MapsLine) : Except Errno (Option MapEntry) :=
  if line.perms.length ≠ 4 then .error .einval
  else if line.perms[2]? ≠ some 'x' ∨ line.ino = 0 then .ok none
  else if line.rest.head? = none ∨ line.rest.head? = some 0x0a then .ok none
  else if line.rest.head? = some 0x5b then .ok none
  else if line.rest.length ≥ sonameMax + 64 then .error .enametoolong
  else
    let soname := basename (stripDeletedSuffix (line.rest.takeWhile (· ≠ 0x0a)))
    if soname = [] ∨ soname.length ≥ sonameMax then .error .enametoolong
    else .ok (some { start := line.start, stop := line.stop, devMajor := line.devMajor,
                     devMinor := line.devMinor, ino := line.ino, soname })

/-- mirrors src/agent/runtime_image_measure.c:119-129 -/
def entrySeen (entries : List MapEntry) (cand : MapEntry) : Bool :=
  entries.any fun e => e.devMajor == cand.devMajor && e.devMinor == cand.devMinor && e.ino == cand.ino

/-- The loop of `lota_rt_collect_exec_maps`.
mirrors src/agent/runtime_image_measure.c:131-172 -/
def collectExecMaps (max : Nat) (entries : List MapEntry) : List MapsLine → Except Errno (List MapEntry)
  | [] => .ok entries
  | line :: lines =>
    match parseMapsLine line with
    | .error e => .error e
    | .ok none => collectExecMaps max entries lines
    | .ok (some e) =>
      if entrySeen entries e then collectExecMaps max entries lines
      else if entries.length ≥ max then .error .e2big
      else collectExecMaps max (entries ++ [e]) lines

/-! ## The measurement -/

/-- What an open of a range under `map_files` leads to. -/
structure BackingFile where
  regular : Bool
  devMajor : UInt32
  devMinor : UInt32
  ino : UInt64
  /-- `FS_IOC_MEASURE_VERITY` -/
  verity : Except Errno Bytes

/-- A process while it is measured. -/
structure Process where
  maps : List MapsLine
  mapFile : UInt64 → UInt64 → Except Errno BackingFile

/-- `/proc`: the error is that of the open of `maps`. -/
abbrev Procfs := UInt32 → Except Errno Process

/-- mirrors src/agent/runtime_image_measure.c:174-254 -/
def measureEntryVerity (proc : Process) (entry : MapEntry) : Except Errno Bytes :=
  if entry.start ≥ entry.stop then .error .einval
  else match proc.mapFile entry.start entry.stop with
    | .error e => .error e
    | .ok file =>
      if file.regular = false ∨ file.devMajor ≠ entry.devMajor ∨ file.devMinor ≠ entry.devMinor ∨
          file.ino ≠ entry.ino then .error .estale
      else match file.verity with
        | .error e => .error e
        | .ok digest => if digest.length ≠ verityDigestSize then .error .einval else .ok digest

structure Module where
  soname : Bytes
  verity : Bytes
  deriving DecidableEq

/-- Soname, then length, then digest.
mirrors include/lota_runtime_image_measure.h:61-71 -/
def moduleCmp (a b : Module) : Ordering :=
  (compare a.soname b.soname).then
    ((compare a.verity.length b.verity.length).then (compare a.verity b.verity))

def measureEntries (proc : Process) : List MapEntry → Except Errno (List Module)
  | [] => .ok []
  | e :: es =>
    match measureEntryVerity proc e with
    | .error err => .error err
    | .ok verity =>
      match measureEntries proc es with
      | .error err => .error err
      | .ok mods => .ok ({ soname := e.soname, verity } :: mods)

/-- An element goes when it compares equal to the last one kept.
mirrors src/agent/runtime_image_measure.c:306-316 -/
def collapse (last : Module) : List Module → List Module
  | [] => [last]
  | m :: ms => if moduleCmp last m = .eq then collapse last ms else last :: collapse m ms

/-- `qsort` and the collapse. -/
def canonicalModules (mods : List Module) : List Module :=
  match mods.mergeSort (fun a b => moduleCmp a b != .gt) with
  | [] => []
  | m :: ms => collapse m ms

def validModule (m : Module) : Bool :=
  m.soname ≠ [] && decide (m.soname.length < sonameMax) && m.verity.length == verityDigestSize

def increasing : List Module → Bool
  | a :: b :: ms => moduleCmp a b == .lt && increasing (b :: ms)
  | _ => true

/-- mirrors include/lota_runtime_image_measure.h:78-102 -/
def validateRuntimeImageModules (mods : List Module) : Except Errno Unit :=
  if mods.length > maxModules then .error .e2big
  else if mods.all validModule && increasing mods then .ok ()
  else .error .einval

/-- `"lota-runtime-image-measure:v1\0"` -/
def imageDomain : Bytes :=
  [0x6c, 0x6f, 0x74, 0x61, 0x2d, 0x72, 0x75, 0x6e, 0x74, 0x69, 0x6d, 0x65, 0x2d, 0x69, 0x6d, 0x61,
    0x67, 0x65, 0x2d,
   0x6d, 0x65, 0x61, 0x73, 0x75, 0x72, 0x65, 0x3a, 0x76, 0x31, 0x00]

def moduleBytes (m : Module) : Bytes :=
  toLE 4 m.soname.length ++ (m.soname ++ (toLE 4 m.verity.length ++ m.verity))

/-- mirrors include/lota_runtime_image_measure.h:109-172 -/
def computeRuntimeImageDigest (mods : List Module) : Except Errno Hash :=
  match validateRuntimeImageModules mods with
  | .error e => .error e
  | .ok () => .ok (sha256 (imageDomain ++ (toLE 4 mods.length ++ mods.flatMap moduleBytes)))

/-- mirrors src/agent/runtime_image_measure.c:268-329 -/
def runtimeMeasurePid (procfs : Procfs) (pid : UInt32) : Except Errno Hash :=
  match procfs pid with
  | .error e => .error e
  | .ok proc =>
    match collectExecMaps maxModules [] proc.maps with
    | .error e => .error e
    | .ok [] => .error .enoent
    | .ok entries =>
      match measureEntries proc entries with
      | .error e => .error e
      | .ok mods => computeRuntimeImageDigest (canonicalModules mods)

/-- The maps can be read, name at least one file and not too many, and every
file has a digest. -/
def Measurable (procfs : Procfs) (pid : UInt32) : Prop :=
  ∃ proc entries, procfs pid = .ok proc ∧ collectExecMaps maxModules [] proc.maps = .ok entries ∧
    entries ≠ [] ∧ ∀ e ∈ entries, ∃ digest, measureEntryVerity proc e = .ok digest

/-! ## Entries -/

theorem parse_soname {line : MapsLine} {e : MapEntry} (h : parseMapsLine line = .ok (some e)) :
    e.soname ≠ [] ∧ e.soname.length < sonameMax := by
  unfold parseMapsLine at h
  by_cases h1 : line.perms.length ≠ 4
  · rw [if_pos h1] at h
    cases h
  by_cases h2 : line.perms[2]? ≠ some 'x' ∨ line.ino = 0
  · rw [if_neg h1, if_pos h2] at h
    cases h
  by_cases h3 : line.rest.head? = none ∨ line.rest.head? = some 0x0a
  · rw [if_neg h1, if_neg h2, if_pos h3] at h
    cases h
  by_cases h4 : line.rest.head? = some 0x5b
  · rw [if_neg h1, if_neg h2, if_neg h3, if_pos h4] at h
    cases h
  by_cases h5 : line.rest.length ≥ sonameMax + 64
  · rw [if_neg h1, if_neg h2, if_neg h3, if_neg h4, if_pos h5] at h
    cases h
  rw [if_neg h1, if_neg h2, if_neg h3, if_neg h4, if_neg h5] at h
  simp only at h
  split at h
  · cases h
  · next hname =>
    cases h
    obtain ⟨hne, hlt⟩ := not_or.mp hname
    exact ⟨hne, Nat.lt_of_not_le hlt⟩

/-- Every entry of the table has a name that fits, and the table does not
overflow. -/
theorem collect_entries {max : Nat} {lines : List MapsLine} {acc entries : List MapEntry}
    (hacc : ∀ e ∈ acc, e.soname ≠ [] ∧ e.soname.length < sonameMax) (hlen : acc.length ≤ max)
    (h : collectExecMaps max acc lines = .ok entries) :
    (∀ e ∈ entries, e.soname ≠ [] ∧ e.soname.length < sonameMax) ∧ entries.length ≤ max := by
  induction lines generalizing acc with
  | nil =>
    cases h
    exact ⟨hacc, hlen⟩
  | cons line lines ih =>
    unfold collectExecMaps at h
    cases hp : parseMapsLine line with
    | error e =>
      simp only [hp] at h
      cases h
    | ok o =>
      cases o with
      | none =>
        simp only [hp] at h
        exact ih hacc hlen h
      | some e =>
        simp only [hp] at h
        split at h
        · exact ih hacc hlen h
        · split at h
          · cases h
          · next hroom =>
            refine ih ?_ ?_ h
            · intro x hx
              rcases List.mem_append.mp hx with hold | hnew
              · exact hacc x hold
              · rw [List.mem_singleton.mp hnew]
                exact parse_soname hp
            · simp only [List.length_append, List.length_singleton]
              omega

theorem measureEntryVerity_length {proc : Process} {e : MapEntry} {digest : Bytes}
    (h : measureEntryVerity proc e = .ok digest) : digest.length = verityDigestSize := by
  unfold measureEntryVerity at h
  split at h
  · cases h
  · split at h
    · cases h
    · split at h
      · cases h
      · split at h
        · cases h
        · split at h
          · cases h
          · next hlen =>
            cases h
            exact not_not.mp hlen

/-- When every entry has a digest, the modules are valid, one for each entry. -/
theorem measureEntries_ok {proc : Process} {entries : List MapEntry}
    (hname : ∀ e ∈ entries, e.soname ≠ [] ∧ e.soname.length < sonameMax)
    (h : ∀ e ∈ entries, ∃ digest, measureEntryVerity proc e = .ok digest) :
    ∃ mods, measureEntries proc entries = .ok mods ∧ mods.length = entries.length ∧
    ∀ m ∈ mods, validModule m = true := by
  induction entries with
  | nil => exact ⟨[], rfl, rfl, fun m hm => absurd hm List.not_mem_nil⟩
  | cons e es ih =>
    obtain ⟨⟨hne, hlt⟩, hnames⟩ := List.forall_mem_cons.mp hname
    obtain ⟨⟨digest, he⟩, hes⟩ := List.forall_mem_cons.mp h
    obtain ⟨mods, hm, hlen, hvalid⟩ := ih hnames hes
    have hd := measureEntryVerity_length he
    refine ⟨{ soname := e.soname, verity := digest } :: mods, ?_, ?_,
      List.forall_mem_cons.mpr ⟨?_, hvalid⟩⟩
    · simp only [measureEntries, he, hm]
    · simp only [List.length_cons, hlen]
    · simp [validModule, hne, hlt, hd]

theorem measureEntries_digests {proc : Process} {entries : List MapEntry} {mods : List Module}
    (h : measureEntries proc entries = .ok mods) :
    ∀ e ∈ entries, ∃ digest, measureEntryVerity proc e = .ok digest := by
  induction entries generalizing mods with
  | nil => exact fun e he => absurd he List.not_mem_nil
  | cons e es ih =>
    unfold measureEntries at h
    cases he : measureEntryVerity proc e with
    | error err =>
      simp only [he] at h
      cases h
    | ok digest =>
      cases hm : measureEntries proc es with
      | error err =>
        simp only [he, hm] at h
        cases h
      | ok ms => exact List.forall_mem_cons.mpr ⟨⟨digest, he⟩, ih hm⟩

/-! ## The canonical order -/

/-- `qsort`'s order, as the sort wants it. -/
def moduleLe (a b : Module) : Bool := moduleCmp a b != .gt

theorem moduleCmp_eq (a b : Module) : moduleCmp a b =
    compareLex (compareOn Module.soname)
    (compareLex (compareOn (·.verity.length)) (compareOn Module.verity)) a b := rfl

instance : Std.TransCmp moduleCmp := by
  have h : moduleCmp =
      compareLex (compareOn Module.soname)
      (compareLex (compareOn (·.verity.length)) (compareOn Module.verity)) := by
    funext a b
    exact moduleCmp_eq a b
  rw [h]
  infer_instance

theorem mem_collapse {last x : Module} {ms : List Module} (h : x ∈ collapse last ms) :
    x = last ∨ x ∈ ms := by
  induction ms generalizing last with
  | nil => exact .inl (List.mem_singleton.mp h)
  | cons m ms ih =>
    unfold collapse at h
    split at h
    · exact (ih h).imp_right (List.mem_cons_of_mem m)
    · rcases List.mem_cons.mp h with hx | hx
      · exact .inl hx
      · exact .inr (List.mem_cons.mpr (ih hx))

theorem collapse_length (last : Module) (ms : List Module) :
    (collapse last ms).length ≤ ms.length + 1 := by
  induction ms generalizing last with
  | nil => exact Nat.le_refl 1
  | cons m ms ih =>
    unfold collapse
    split
    · have := ih last
      simp only [List.length_cons]
      omega
    · have := ih m
      simp only [List.length_cons]
      omega

/-- The collapse of a sorted list starts with a module that compares equal to
its first one, and increases. -/
theorem collapse_increasing {last : Module} {ms : List Module}
    (h : (last :: ms).Pairwise (moduleCmp · · ≠ .gt)) :
    increasing (collapse last ms) = true ∧ ∃ rest, collapse last ms = last :: rest := by
  induction ms generalizing last with
  | nil => exact ⟨rfl, [], rfl⟩
  | cons m ms ih =>
    obtain ⟨hlast, hms⟩ := List.pairwise_cons.mp h
    unfold collapse
    split
    · refine ih (List.pairwise_cons.mpr ⟨fun x hx => hlast x (List.mem_cons_of_mem m hx), ?_⟩)
      exact (List.pairwise_cons.mp hms).2
    · next hne =>
      obtain ⟨hinc, rest, hrest⟩ := ih hms
      refine ⟨?_, collapse m ms, rfl⟩
      have hlt : moduleCmp last m = .lt := by
        cases hc : moduleCmp last m with
        | lt => rfl
        | eq => exact absurd hc hne
        | gt => exact absurd hc (hlast m List.mem_cons_self)
      rw [hrest] at hinc ⊢
      simp [increasing, hlt, hinc]

/-- The canonical modules pass the check in front of the digest. -/
theorem canonical_valid {mods : List Module} (hlen : mods.length ≤ maxModules)
    (h : ∀ m ∈ mods, validModule m = true) :
    validateRuntimeImageModules (canonicalModules mods) = .ok () := by
  have hperm := List.mergeSort_perm mods moduleLe
  have hsorted : (mods.mergeSort moduleLe).Pairwise (moduleCmp · · ≠ .gt) := by
    refine (List.pairwise_mergeSort ?_ ?_ mods).imp fun hab => by simpa [moduleLe] using hab
    · intro a b c hab hbc
      simp only [moduleLe, bne_iff_ne, ne_eq, Ordering.ne_gt_iff_isLE] at hab hbc ⊢
      exact Std.TransCmp.isLE_trans hab hbc
    · intro a b
      have hswap : moduleCmp a b = (moduleCmp b a).swap := Std.OrientedCmp.eq_swap
      unfold moduleLe
      rw [hswap]
      cases moduleCmp b a <;> rfl
  have hcanon : canonicalModules mods = match mods.mergeSort moduleLe with
      | [] => []
      | m :: ms => collapse m ms := rfl
  rw [hcanon]
  cases hs : mods.mergeSort moduleLe with
  | nil => rfl
  | cons m ms =>
    rw [hs] at hperm hsorted
    have hlength := hperm.length_eq
    have hclen := collapse_length m ms
    obtain ⟨hinc, -⟩ := collapse_increasing hsorted
    have hall : (collapse m ms).all validModule = true := by
      refine List.all_eq_true.mpr fun x hx => h x (hperm.mem_iff.mp ?_)
      exact List.mem_cons.mpr (mem_collapse hx)
    have hsmall : ¬ (collapse m ms).length > maxModules := by
      simp only [List.length_cons] at hlength
      omega
    simp only [validateRuntimeImageModules, if_neg hsmall, hall, hinc, Bool.and_self, if_true]

/-- **Measurement.** A process is measured exactly when it is measurable. -/
theorem measure_iff (procfs : Procfs) (pid : UInt32) :
    (∃ digest, runtimeMeasurePid procfs pid = .ok digest) ↔ Measurable procfs pid := by
  unfold runtimeMeasurePid Measurable
  cases hproc : procfs pid with
  | error e => simp
  | ok proc =>
    cases hcol : collectExecMaps maxModules [] proc.maps with
    | error e => simp [hcol]
    | ok entries =>
      cases entries with
      | nil => simp [hcol]
      | cons e es =>
        obtain ⟨hname, hlen⟩ := collect_entries (by simp) (Nat.zero_le _) hcol
        simp only [hcol, Except.ok.injEq]
        constructor
        · rintro ⟨digest, h⟩
          refine ⟨proc, e :: es, rfl, hcol, List.cons_ne_nil e es, ?_⟩
          cases hm : measureEntries proc (e :: es) with
          | error err =>
            simp only [hm] at h
            cases h
          | ok mods => exact measureEntries_digests hm
        · rintro ⟨proc', entries, rfl, hcol', -, hdigests⟩
          cases hcol.symm.trans hcol'
          obtain ⟨mods, hm, hml, hvalid⟩ := measureEntries_ok hname hdigests
          simp only [hm, computeRuntimeImageDigest, canonical_valid (hml ▸ hlen) hvalid]
          exact ⟨_, rfl⟩

end Lota.L6.RuntimeImage

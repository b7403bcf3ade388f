import Lota.Core.PrefixCode
import Lota.Core.Sha256
import Lota.Core.SortedSet
import Lota.L4Sdk.TokenWire
import Mathlib.Data.List.TakeWhile

/-!
# The runtime measurement (`sdk/lota_anticheat.c`)

A producer measures its own image: the executable segments of every object
that `dl_iterate_phdr` reports, read from memory. A verifier measures the same
files: the executable segments that their program headers name, read in chunks
from the file. Both hash each object, sort the objects by name and digest, and
hash the sorted array.

* `fileSegments_loaded`: the two walks find the same segments where memory
  holds what the file does.
* `collectObjects_ok`: what the loop over the objects collects, in a form that
  does not depend on their order.
* `objectMessage_inj`, `combinedMessage_inj`: the hashed messages determine the
  segments and the objects.
* `runtime_measure`: the measurements agree, do not depend on the order, and
  determine the objects.
-/
namespace Lota.L4.RuntimeMeasure
open Lota.Core Lota.L4.Token

def measureDomain : Bytes := ascii "lota-ac-runtime-measure:v2" ++ [0]
def objectDomain : Bytes := ascii "lota-ac-runtime-object:v1" ++ [0]
def maxSegs : Nat := 16
def maxObjs : Nat := 256
def sonameMax : Nat := 256

inductive Errno where
  | enoent
  | e2big
  | enametoolong
  | einval
  | enotsup
  | eio
  | sys (errno : Nat)
  deriving DecidableEq

/-- A C string, without its terminator. -/
@[ext] structure CString where
  bytes : Bytes
  noNul : 0 ∉ bytes
  deriving DecidableEq

/-- From the last slash on. mirrors src/sdk/lota_anticheat.c:225-229 -/
def rtBasename (path : CString) : CString where
  bytes := (path.bytes.reverse.takeWhile (· ≠ 47)).reverse
  noNul h :=
    path.noNul (List.mem_reverse.mp ((List.takeWhile_sublist _).subset (List.mem_reverse.mp h)))

/-! ## Objects -/

/-- What the measurement reads of a program header. -/
structure Phdr where
  pType : UInt32
  pFlags : UInt32
  pOffset : UInt64
  pVaddr : UInt64
  pFilesz : UInt64
  deriving DecidableEq

/-- `PT_LOAD` with `PF_X`, and not empty. -/
def Phdr.isExec (ph : Phdr) : Bool := ph.pType = 1 && ph.pFlags &&& 1 ≠ 0 && ph.pFilesz ≠ 0

/-- mirrors src/sdk/lota_anticheat.c:286-295, 662-673 -/
def collectSegs (segs : List Phdr) : List Phdr → Except Errno (List Phdr)
  | [] => .ok segs
  | ph :: phs =>
    if ph.isExec = false then collectSegs segs phs
    else if segs.length ≥ maxSegs then .error .e2big
    else collectSegs (segs ++ [ph]) phs

/-- The key moves down past the larger addresses. -/
def insertSeg (segs : List Phdr) (key : Phdr) : List Phdr :=
  let larger := fun ph : Phdr => decide (key.pVaddr < ph.pVaddr)
  (segs.reverse.dropWhile larger).reverse ++ key :: (segs.reverse.takeWhile larger).reverse

/-- mirrors src/sdk/lota_anticheat.c:299-307, 680-688 -/
def sortSegs (segs : List Phdr) : List Phdr := segs.foldl insertSeg []

/-- An executable segment and its contents. -/
structure Segment where
  vaddr : UInt64
  offset : UInt64
  filesz : UInt64
  bytes : Bytes
  deriving DecidableEq

/-- mirrors src/sdk/lota_anticheat.c:236-251 -/
def Segment.encode (s : Segment) : Bytes :=
  toLE 8 s.vaddr.toNat ++ (toLE 8 s.offset.toNat ++ (toLE 8 s.filesz.toNat ++ s.bytes))

/-- mirrors src/sdk/lota_anticheat.c:254-266 -/
def objectMessage (segs : List Segment) : Bytes := objectDomain ++ counted 4 Segment.encode segs

/-- An object without executable segments has no digest. -/
def objectDigest (segs : List Segment) : Option (Blob 32) :=
  if segs = [] then none else some (sha256 (objectMessage segs))

/-! ## The live image -/

structure DlPhdrInfo where
  dlpiAddr : UInt64
  dlpiName : Option CString
  dlpiPhdr : List Phdr

/-- A process: what `/proc/self/exe` links to, what `dl_iterate_phdr` reports,
the executable first, and its memory. -/
structure Process where
  selfExe : CString
  main : DlPhdrInfo
  others : List DlPhdrInfo
  mem : UInt64 → UInt8

def Process.read (p : Process) (addr : UInt64) (n : Nat) : Bytes :=
  (List.range n).map fun i => p.mem (addr + UInt64.ofNat i)

def liveSegment (p : Process) (info : DlPhdrInfo) (ph : Phdr) : Segment :=
  ⟨ph.pVaddr, ph.pOffset, ph.pFilesz, p.read (info.dlpiAddr + ph.pVaddr) ph.pFilesz.toNat⟩

def liveSegments (p : Process) (info : DlPhdrInfo) : Except Errno (List Segment) :=
  match collectSegs [] info.dlpiPhdr with
  | .error e => .error e
  | .ok segs => .ok ((sortSegs segs).map (liveSegment p info))

/-- mirrors src/sdk/lota_anticheat.c:272-331 -/
def rtLiveObjectDigest (p : Process) (info : DlPhdrInfo) : Except Errno (Option (Blob 32)) :=
  (liveSegments p info).map objectDigest

/-- The path and the name of an object that is measured.
mirrors src/sdk/lota_anticheat.c:412-436 -/
def rtObjectIdentity (selfExe : CString) (info : DlPhdrInfo) (index : Nat) :
    Option (CString × CString) :=
  if index = 0 then some (selfExe, rtBasename selfExe)
  else match info.dlpiName with
  | none => none
  | some name =>
    if name.bytes = [] then none
    else
      let base := rtBasename name
      if (ascii "linux-vdso").isPrefixOf base.bytes || (ascii "linux-gate").isPrefixOf base.bytes
        then none
      else some (name, base)

/-! ## The combined digest -/

structure RtObject where
  soname : CString
  digest : Blob 32
  deriving DecidableEq

/-- mirrors src/sdk/lota_anticheat.c:382-394 -/
def rtAddObject (objs : List RtObject) (o : RtObject) : Except Errno (List RtObject) :=
  if objs.length ≥ maxObjs then .error .e2big
  else if o.soname.bytes.length ≥ sonameMax then .error .enametoolong
  else .ok (objs ++ [o])

/-- `strcmp`, then `memcmp`. mirrors src/sdk/lota_anticheat.c:333-342 -/
def rtObjectCmp (a b : RtObject) : Ordering :=
  (List.compareLex compare a.soname.bytes b.soname.bytes).then
    (List.compareLex compare a.digest.toList b.digest.toList)

def RtObject.encode (o : RtObject) : Bytes := sized 4 o.soname.bytes ++ o.digest.toList

def combinedMessage (objs : List RtObject) : Bytes :=
  measureDomain ++ counted 4 RtObject.encode (qsort rtObjectCmp objs)

/-- mirrors src/sdk/lota_anticheat.c:345-380 -/
def rtFinalizeCombined (objs : List RtObject) : Except Errno (Blob 32) :=
  if objs.length = 0 then .error .enoent else .ok (sha256 (combinedMessage objs))

/-- Object after object, up to the first error. -/
def collectObjects {α : Type} (f : α → Except Errno (Option RtObject)) (objs : List RtObject) :
    List α → Except Errno (List RtObject)
  | [] => .ok objs
  | x :: xs =>
    match f x with
    | .error e => .error e
    | .ok none => collectObjects f objs xs
    | .ok (some o) =>
      match rtAddObject objs o with
      | .error e => .error e
      | .ok objs => collectObjects f objs xs

def measureObjects {α : Type} (f : α → Except Errno (Option RtObject)) (xs : List α) :
    Except Errno (Blob 32) :=
  match collectObjects f [] xs with
  | .error e => .error e
  | .ok objs => rtFinalizeCombined objs

/-- mirrors src/sdk/lota_anticheat.c:446-475 -/
def rtCollectCb (p : Process) (x : DlPhdrInfo × Nat) : Except Errno (Option RtObject) :=
  match rtObjectIdentity p.selfExe x.1 x.2 with
  | none => .ok none
  | some (_, soname) =>
    match rtLiveObjectDigest p x.1 with
    | .error e => .error e
    | .ok none => .ok none
    | .ok (some digest) => .ok (some ⟨soname, digest⟩)

/-- What `dl_iterate_phdr` hands out, with the index. -/
def Process.infos (p : Process) : List (DlPhdrInfo × Nat) := (p.main :: p.others).zipIdx

/-- mirrors src/sdk/lota_anticheat.c:477-505 -/
def computeRuntimeMeasure (p : Process) : Except Errno (Blob 32) :=
  measureObjects (rtCollectCb p) p.infos

/-- The paths that `lota_ac_list_runtime_objects` reports.
mirrors src/sdk/lota_anticheat.c:507-558 -/
def listRuntimeObjects (p : Process) : List CString :=
  p.infos.filterMap fun x => (rtObjectIdentity p.selfExe x.1 x.2).map Prod.fst

/-! ## The files -/

/-- What `open` and the reads find under a path. -/
abbrev Files := CString → Except Errno Bytes

/-- mirrors src/sdk/lota_anticheat.c:560-579 -/
def preadFull (file : Bytes) (len off : Nat) : Except Errno Bytes :=
  if len = 0 then .ok []
  else if off ≥ 2 ^ 63 then .error .einval
  else if off + len ≤ file.length then .ok ((file.drop off).take len)
  else .error .eio

/-- Chunks of 4096 bytes. mirrors src/sdk/lota_anticheat.c:581-599 -/
def readFileSeg (file : Bytes) (cur remaining : Nat) : Except Errno Bytes :=
  if _h : remaining = 0 then .ok []
  else
    let want := if remaining < 4096 then remaining else 4096
    match preadFull file want cur with
    | .error e => .error e
    | .ok chunk => (readFileSeg file (cur + want) (remaining - want)).map (chunk ++ ·)
termination_by remaining
decreasing_by
  split <;> omega

def phdrAt (table : Bytes) (off : Nat) : Phdr where
  pType := UInt32.ofNat (leAt table off 4)
  pFlags := UInt32.ofNat (leAt table (off + 4) 4)
  pOffset := UInt64.ofNat (leAt table (off + 8) 8)
  pVaddr := UInt64.ofNat (leAt table (off + 16) 8)
  pFilesz := UInt64.ofNat (leAt table (off + 32) 8)

def elfMagic : Bytes := [0x7f, 0x45, 0x4c, 0x46]
def ehdrSize : Nat := 64
def phdrSize : Nat := 56
def pnXnum : Nat := 0xffff

/-- mirrors src/sdk/lota_anticheat.c:629-660 -/
def filePhdrs (file : Bytes) : Except Errno (List Phdr) :=
  match preadFull file ehdrSize 0 with
  | .error e => .error e
  | .ok ehdr =>
    let phnum := leAt ehdr 56 2
    if ehdr.take 4 ≠ elfMagic then .error .einval
    else if leAt ehdr 4 1 ≠ 2 || leAt ehdr 5 1 ≠ 1 then .error .enotsup
    else if leAt ehdr 54 2 ≠ phdrSize then .error .einval
    else if phnum = 0 || phnum ≥ pnXnum then .error .einval
    else
      match preadFull file (phnum * phdrSize) (leAt ehdr 32 8) with
      | .error e => .error e
      | .ok table => .ok ((List.range phnum).map fun i => phdrAt table (i * phdrSize))

def readSegments (file : Bytes) : List Phdr → Except Errno (List Segment)
  | [] => .ok []
  | ph :: phs =>
    match readFileSeg file ph.pOffset.toNat ph.pFilesz.toNat with
    | .error e => .error e
    | .ok bytes => (readSegments file phs).map (⟨ph.pVaddr, ph.pOffset, ph.pFilesz, bytes⟩ :: ·)

def fileSegments (file : Bytes) : Except Errno (List Segment) :=
  match filePhdrs file with
  | .error e => .error e
  | .ok phdrs =>
    match collectSegs [] phdrs with
    | .error e => .error e
    | .ok segs => readSegments file (sortSegs segs)

/-- mirrors src/sdk/lota_anticheat.c:606-728 -/
def rtFileObjectDigest (file : Bytes) : Except Errno (Option (Blob 32)) :=
  (fileSegments file).map objectDigest

/-- mirrors src/sdk/lota_anticheat.c:746-759 -/
def expectedObject (fs : Files) (path : CString) : Except Errno (Option RtObject) :=
  match fs path with
  | .error e => .error e
  | .ok file =>
    match rtFileObjectDigest file with
    | .error e => .error e
    | .ok none => .ok none
    | .ok (some digest) => .ok (some ⟨rtBasename path, digest⟩)

/-- mirrors src/sdk/lota_anticheat.c:730-766 -/
def computeExpectedRuntimeMeasureSet (fs : Files) (paths : List CString) : Except Errno (Blob 32) :=
  measureObjects (expectedObject fs) paths

/-! ## Loaded objects -/

/-- A 64-bit little-endian ELF file with these program headers. -/
structure ElfFile (file : Bytes) (phdrs : List Phdr) : Prop where
  header : ehdrSize ≤ file.length
  /-- The size of a file is an `off_t`. -/
  size : file.length < 2 ^ 63
  magic : file.take 4 = elfMagic
  elfClass : leAt file 4 1 = 2
  elfData : leAt file 5 1 = 1
  phentsize : leAt file 54 2 = phdrSize
  phnum : phdrs.length = leAt file 56 2
  some_phdr : 0 < phdrs.length
  not_extended : phdrs.length < pnXnum
  table : leAt file 32 8 + phdrs.length * phdrSize ≤ file.length
  entries : phdrs = (List.range phdrs.length).map fun i => phdrAt file (leAt file 32 8 + i * phdrSize)

/-- The object was loaded from this file, and memory holds what the file does
in every executable segment. -/
structure Loaded (file : Bytes) (p : Process) (info : DlPhdrInfo) : Prop where
  elf : ElfFile file info.dlpiPhdr
  inside : ∀ ph ∈ info.dlpiPhdr, ph.isExec = true → ph.pOffset.toNat + ph.pFilesz.toNat ≤ file.length
  same : ∀ ph ∈ info.dlpiPhdr, ph.isExec = true →
    p.read (info.dlpiAddr + ph.pVaddr) ph.pFilesz.toNat = (file.drop ph.pOffset.toNat).take
    ph.pFilesz.toNat

/-- Every object that is measured was loaded from the file under its path. -/
def Mapped (fs : Files) (p : Process) : Prop :=
  ∀ x ∈ p.infos, ∀ path soname, rtObjectIdentity p.selfExe x.1 x.2 = some (path, soname) →
    ∃ file, fs path = .ok file ∧ Loaded file p x.1

/-! ## Segments -/

theorem collectSegs_eq (segs phs : List Phdr) (h : segs.length ≤ maxSegs) :
    collectSegs segs phs =
      if segs.length + (phs.filter Phdr.isExec).length ≤ maxSegs
        then .ok (segs ++ phs.filter Phdr.isExec) else .error .e2big := by
  induction phs generalizing segs with
  | nil => simp [collectSegs, h]
  | cons ph phs ih =>
    unfold collectSegs
    split
    next hskip =>
      rw [ih segs h, List.filter_cons_of_neg (by simp [hskip])]
    next hexec =>
      have hkeep : (ph :: phs).filter Phdr.isExec = ph :: phs.filter Phdr.isExec :=
        List.filter_cons_of_pos (by simpa using hexec)
      split
      next hfull =>
        rw [hkeep, if_neg (by rw [List.length_cons]; omega)]
      next hroom =>
        have hlen : (segs ++ [ph]).length = segs.length + 1 := by simp
        rw [ih (segs ++ [ph]) (by omega), hkeep, hlen, List.length_cons, List.append_assoc,
          List.singleton_append]
        have hsum : segs.length + 1 + (phs.filter Phdr.isExec).length = segs.length +
            ((phs.filter Phdr.isExec).length + 1) := by
          omega
        rw [hsum]

theorem insertSeg_perm (segs : List Phdr) (key : Phdr) : (insertSeg segs key).Perm (key :: segs) := by
  unfold insertSeg
  simp only
  refine List.perm_middle.trans (List.Perm.cons key ?_)
  rw [← List.reverse_append, List.takeWhile_append_dropWhile, List.reverse_reverse]

theorem sortSegs_perm (segs : List Phdr) : (sortSegs segs).Perm segs := by
  have hfold : ∀ acc : List Phdr, (segs.foldl insertSeg acc).Perm (acc ++ segs) := by
    induction segs with
    | nil => intro acc; simp
    | cons ph segs ih =>
      intro acc
      refine (ih (insertSeg acc ph)).trans ?_
      refine ((insertSeg_perm acc ph).append_right segs).trans ?_
      exact List.perm_middle.symm
  exact hfold []

/-- **Run.** The chunks are the bytes of the segment. -/
theorem readFileSeg_ok {file : Bytes} (hsize : file.length < 2 ^ 63) {cur remaining : Nat}
    (h : cur + remaining ≤ file.length) :
    readFileSeg file cur remaining = .ok ((file.drop cur).take remaining) := by
  fun_induction readFileSeg file cur remaining with
  | case1 cur => simp
  | case2 cur remaining hne want e hread =>
    have hwant : want ≤ remaining ∧ 0 < want := by
      simp only [want]
      split <;> omega
    unfold preadFull at hread
    rw [if_neg (by omega), if_neg (by omega), if_pos (by omega)] at hread
    cases hread
  | case3 cur remaining hne want chunk hread ih =>
    have hwant : want ≤ remaining ∧ 0 < want := by
      simp only [want]
      split <;> omega
    unfold preadFull at hread
    rw [if_neg (by omega), if_neg (by omega), if_pos (by omega)] at hread
    cases hread
    rw [ih (by omega)]
    have hsplit : remaining = want + (remaining - want) := by omega
    have hjoin : (file.drop cur).take want ++ (file.drop (cur + want)).take (remaining - want) =
        (file.drop cur).take remaining := by
      rw [← List.drop_drop, ← List.take_add, ← hsplit]
    exact congrArg Except.ok hjoin

theorem readSegments_ok {file : Bytes} (hsize : file.length < 2 ^ 63) {phs : List Phdr}
    (h : ∀ ph ∈ phs, ph.pOffset.toNat + ph.pFilesz.toNat ≤ file.length) :
    readSegments file phs = .ok (phs.map fun ph =>
      ⟨ph.pVaddr, ph.pOffset, ph.pFilesz, (file.drop ph.pOffset.toNat).take ph.pFilesz.toNat⟩) := by
  induction phs with
  | nil => rfl
  | cons ph phs ih =>
    obtain ⟨hph, hphs⟩ := List.forall_mem_cons.mp h
    unfold readSegments
    rw [readFileSeg_ok hsize hph, ih hphs]
    rfl

/-! ## The header -/

theorem leAt_take {data : Bytes} {n off k : Nat} (h : off + k ≤ n) :
    leAt (data.take n) off k = leAt data off k := by
  unfold leAt
  rw [List.drop_take, List.take_take, Nat.min_eq_left (by omega)]

theorem leAt_slice {data : Bytes} {base n off k : Nat} (h : off + k ≤ n) :
    leAt ((data.drop base).take n) off k = leAt data (base + off) k := by
  rw [leAt_take h]
  unfold leAt
  rw [List.drop_drop]

theorem phdrAt_slice {data : Bytes} {base n off : Nat} (h : off + phdrSize ≤ n) :
    phdrAt ((data.drop base).take n) off = phdrAt data (base + off) := by
  have hsize : phdrSize = 56 := rfl
  unfold phdrAt
  simp only [Nat.add_assoc]
  rw [leAt_slice (by omega), leAt_slice (by omega), leAt_slice (by omega), leAt_slice (by omega),
    leAt_slice (by omega)]

theorem filePhdrs_ok {file : Bytes} {phdrs : List Phdr} (h : ElfFile file phdrs) :
    filePhdrs file = .ok phdrs := by
  have hehdr : preadFull file ehdrSize 0 = .ok (file.take ehdrSize) := by
    have hlen := h.header
    unfold preadFull
    rw [if_neg (by decide), if_neg (by decide), if_pos (by omega), List.drop_zero]
  have hfield : ∀ off k, off + k ≤ 64 → leAt (file.take ehdrSize) off k = leAt file off k :=
    fun off k hk => leAt_take hk
  have hmagic : (file.take ehdrSize).take 4 = elfMagic := by
    rw [List.take_take]
    exact h.magic
  have hpos := h.some_phdr
  have hmany := h.not_extended
  have htable : preadFull file (phdrs.length * phdrSize) (leAt file 32 8) =
      .ok ((file.drop (leAt file 32 8)).take (phdrs.length * phdrSize)) := by
    have hfits := h.table
    have hsmall := h.size
    have hsize : phdrSize = 56 := rfl
    have hlong : phdrs.length * phdrSize ≠ 0 := Nat.mul_ne_zero (by omega) (by omega)
    unfold preadFull
    rw [if_neg hlong, if_neg (by omega), if_pos hfits]
  unfold filePhdrs
  rw [hehdr]
  simp only
  rw [hfield 56 2 (by omega), hfield 4 1 (by omega), hfield 5 1 (by omega), hfield 54 2 (by omega),
    hfield 32 8 (by omega),
    ← h.phnum, if_neg (not_not.mpr hmagic), if_neg (by simp [h.elfClass, h.elfData]),
    if_neg (not_not.mpr h.phentsize),
    if_neg (by simp only [Bool.or_eq_true, decide_eq_true_eq]; omega), htable]
  simp only [Except.ok.injEq]
  refine Eq.trans ?_ h.entries.symm
  refine List.map_congr_left fun i hi => ?_
  have hlt := List.mem_range.mp hi
  exact phdrAt_slice (by rw [← Nat.succ_mul]; exact Nat.mul_le_mul_right _ hlt)

/-- **One object.** Both walks find the same segments. -/
theorem fileSegments_loaded {file : Bytes} {p : Process} {info : DlPhdrInfo} (h : Loaded file p info) :
    fileSegments file = liveSegments p info := by
  unfold fileSegments liveSegments
  rw [filePhdrs_ok h.elf]
  simp only
  rw [collectSegs_eq [] info.dlpiPhdr (Nat.zero_le _)]
  split
  · rfl
  next segs hsegs =>
    have heq : segs = info.dlpiPhdr.filter Phdr.isExec := by
      split at hsegs
      · exact (Except.ok.inj hsegs).symm
      · cases hsegs
    have hmem : ∀ ph ∈ sortSegs segs, ph ∈ info.dlpiPhdr ∧ ph.isExec = true := by
      intro ph hph
      have hin := (sortSegs_perm segs).mem_iff.mp hph
      rw [heq] at hin
      exact List.mem_filter.mp hin
    rw [readSegments_ok h.elf.size fun ph hph => h.inside ph (hmem ph hph).1 (hmem ph hph).2]
    refine congrArg Except.ok (List.map_congr_left fun ph hph => ?_)
    unfold liveSegment
    rw [h.same ph (hmem ph hph).1 (hmem ph hph).2]

/-! ## Collecting -/

section
variable {α β : Type}

/-- What is found for an object, if something is. -/
def found (f : α → Except Errno (Option RtObject)) (x : α) : Option RtObject :=
  match f x with
  | .error _ => none
  | .ok r => r

/-- **Run.** What the loop collects. Apart from the order of the result this
does not depend on the order of the objects. -/
theorem collectObjects_ok {f : α → Except Errno (Option RtObject)} {objs out : List RtObject}
    {xs : List α} : collectObjects f objs xs = .ok out ↔
      (∀ x ∈ xs, ∃ r, f x = .ok r) ∧ (∀ o ∈ xs.filterMap (found f), o.soname.bytes.length < sonameMax) ∧
        (xs.filterMap (found f) = [] ∨ objs.length + (xs.filterMap (found f)).length ≤ maxObjs) ∧
        out = objs ++ xs.filterMap (found f) := by
  induction xs generalizing objs with
  | nil =>
    simp only [collectObjects, Except.ok.injEq, List.not_mem_nil, false_imp_iff, implies_true,
      List.filterMap_nil, true_or, List.append_nil, true_and]
    exact eq_comm
  | cons x xs ih =>
    unfold collectObjects
    cases hx : f x with
    | error e =>
      refine iff_of_false (by simp) fun h => ?_
      obtain ⟨r, hr⟩ := h.1 x List.mem_cons_self
      rw [hx] at hr
      cases hr
    | ok r =>
      cases r with
      | none =>
        have hnone : found f x = none := by simp [found, hx]
        simp only [List.filterMap_cons_none hnone, List.forall_mem_cons, hx, Except.ok.injEq,
          exists_eq', true_and]
        exact ih
      | some o =>
        have hsome : found f x = some o := by simp [found, hx]
        simp only [List.filterMap_cons_some hsome, List.forall_mem_cons, hx, Except.ok.injEq,
          exists_eq', true_and, List.length_cons, reduceCtorEq, false_or]
        unfold rtAddObject
        split
        next e hadd =>
          refine iff_of_false (by simp) fun h => ?_
          obtain ⟨-, ⟨hname, -⟩, hcount, -⟩ := h
          rw [if_neg (by omega), if_neg (by omega)] at hadd
          cases hadd
        next objs' hadd =>
          split at hadd
          · cases hadd
          next hroom =>
          split at hadd
          · cases hadd
          next hname =>
          cases hadd
          rw [ih, List.length_append, List.length_singleton, List.append_assoc, List.singleton_append]
          constructor
          · rintro ⟨hok, hnames, hcount, hout⟩
            refine ⟨hok, ⟨by omega, hnames⟩, ?_, hout⟩
            rcases hcount with hnil | hcount
            · rw [hnil, List.length_nil]
              omega
            · omega
          · rintro ⟨hok, ⟨-, hnames⟩, hcount, hout⟩
            exact ⟨hok, hnames, .inr (by omega), hout⟩

/-- When there is a measurement, and which. -/
theorem measureObjects_ok {f : α → Except Errno (Option RtObject)} {xs : List α} {m : Blob 32} :
    measureObjects f xs = .ok m ↔
      ((∀ x ∈ xs, ∃ r, f x = .ok r) ∧
        (∀ o ∈ xs.filterMap (found f), o.soname.bytes.length < sonameMax) ∧
        (xs.filterMap (found f)).length ≤ maxObjs ∧ xs.filterMap (found f) ≠ []) ∧
        m = sha256 (combinedMessage (xs.filterMap (found f))) := by
  unfold measureObjects
  constructor
  · intro h
    split at h
    · cases h
    next objs hcollect =>
      obtain ⟨hok, hnames, hcount, rfl⟩ := collectObjects_ok.mp hcollect
      rw [List.nil_append] at h
      unfold rtFinalizeCombined at h
      split at h
      · cases h
      next hne =>
        cases h
        have hnil : xs.filterMap (found f) ≠ [] := fun hnil => hne (by rw [hnil]; rfl)
        refine ⟨⟨hok, hnames, ?_, hnil⟩, rfl⟩
        simpa [hnil] using hcount
  · rintro ⟨⟨hok, hnames, hcount, hnil⟩, rfl⟩
    have hcollect : collectObjects f [] xs = .ok (xs.filterMap (found f)) :=
      collectObjects_ok.mpr ⟨hok, hnames, .inr (by simpa using hcount), rfl⟩
    rw [hcollect]
    exact if_neg fun hlen => hnil (List.eq_nil_of_length_eq_zero hlen)

theorem rtObjectCmp_eq : rtObjectCmp =
    compareLex (compareOn fun o : RtObject => o.soname.bytes)
    (compareOn fun o : RtObject => o.digest.toList) := rfl

instance : Std.TransCmp rtObjectCmp := rtObjectCmp_eq ▸ inferInstance

theorem eq_of_rtObjectCmp {a b : RtObject} (h : rtObjectCmp a b = .eq) : a = b := by
  obtain ⟨hname, hdigest⟩ := Ordering.then_eq_eq.mp h
  have h1 : a.soname = b.soname := CString.ext (Std.LawfulEqCmp.eq_of_compare hname)
  have h2 : a.digest = b.digest := List.Vector.toList_injective (Std.LawfulEqCmp.eq_of_compare hdigest)
  obtain ⟨n, d⟩ := a
  obtain ⟨n', d'⟩ := b
  rw [show n = n' from h1, show d = d' from h2]

theorem combinedMessage_perm {objs objs' : List RtObject} (h : objs.Perm objs') :
    combinedMessage objs = combinedMessage objs' := by
  unfold combinedMessage
  rw [(qsort_eq_iff fun a _ b _ => eq_of_rtObjectCmp).mpr h]

/-- **Order.** Collections that find the same objects, in whatever order, have
one measurement. -/
theorem measureObjects_perm {f : α → Except Errno (Option RtObject)}
    {g : β → Except Errno (Option RtObject)} {xs : List α}
    {ys : List β} {m : Blob 32} (hok : (∀ x ∈ xs, ∃ r, f x = .ok r) ↔ ∀ y ∈ ys, ∃ r, g y = .ok r)
    (hperm : (xs.filterMap (found f)).Perm (ys.filterMap (found g))) :
    measureObjects f xs = .ok m ↔ measureObjects g ys = .ok m := by
  rw [measureObjects_ok, measureObjects_ok, hok, hperm.length_eq, combinedMessage_perm hperm]
  have hnames : (∀ o ∈ xs.filterMap (found f), o.soname.bytes.length < sonameMax) ↔
      ∀ o ∈ ys.filterMap (found g), o.soname.bytes.length < sonameMax :=
    forall_congr' fun o => imp_congr_left hperm.mem_iff
  have hnil : xs.filterMap (found f) ≠ [] ↔ ys.filterMap (found g) ≠ [] := by
    rw [ne_eq, ne_eq, ← List.length_eq_zero_iff, ← List.length_eq_zero_iff, hperm.length_eq]
  rw [hnames, hnil]

end

/-! ## Agreement -/

/-- The name of a measured object is the basename of its path. -/
theorem identity_soname {selfExe path soname : CString} {info : DlPhdrInfo} {index : Nat}
    (h : rtObjectIdentity selfExe info index = some (path, soname)) : soname = rtBasename path := by
  unfold rtObjectIdentity at h
  split at h
  · cases h
    rfl
  split at h
  · cases h
  split at h
  · cases h
  simp only at h
  split at h
  · cases h
  · cases h
    rfl

theorem rtCollectCb_skip {p : Process} {x : DlPhdrInfo × Nat}
    (h : rtObjectIdentity p.selfExe x.1 x.2 = none) : rtCollectCb p x = .ok none := by
  unfold rtCollectCb
  rw [h]

/-- The file of a measured object stands for the object. -/
theorem expectedObject_mapped {fs : Files} {p : Process} (h : Mapped fs p) {x : DlPhdrInfo × Nat}
    (hx : x ∈ p.infos)
    {path soname : CString} (hid : rtObjectIdentity p.selfExe x.1 x.2 = some (path, soname)) :
    expectedObject fs path = rtCollectCb p x := by
  obtain ⟨file, hfile, hloaded⟩ := h x hx path soname hid
  unfold expectedObject rtCollectCb rtFileObjectDigest rtLiveObjectDigest
  simp only [hfile, hid, identity_soname hid, fileSegments_loaded hloaded]

theorem live_expected {fs : Files} {p : Process} (h : Mapped fs p) {paths : List CString}
    (hperm : paths.Perm (listRuntimeObjects p)) {m : Blob 32} :
    computeRuntimeMeasure p = .ok m ↔ computeExpectedRuntimeMeasureSet fs paths = .ok m := by
  have hpath : ∀ path, path ∈ paths ↔ ∃ x ∈ p.infos, ∃ soname, rtObjectIdentity p.selfExe x.1 x.2 =
      some (path, soname) := by
    intro path
    rw [hperm.mem_iff]
    unfold listRuntimeObjects
    simp [List.mem_filterMap]
  refine measureObjects_perm ⟨fun hok path hp => ?_, fun hok x hx => ?_⟩ ?_
  · obtain ⟨x, hx, soname, hid⟩ := (hpath path).mp hp
    rw [expectedObject_mapped h hx hid]
    exact hok x hx
  · cases hid : rtObjectIdentity p.selfExe x.1 x.2 with
    | none => exact ⟨none, rtCollectCb_skip hid⟩
    | some id =>
      rw [← expectedObject_mapped h hx hid]
      exact hok id.1 ((hpath id.1).mpr ⟨x, hx, id.2, hid⟩)
  · refine List.Perm.trans (List.Perm.of_eq ?_) (hperm.filterMap (found (expectedObject fs))).symm
    unfold listRuntimeObjects
    rw [List.filterMap_filterMap]
    refine List.filterMap_congr fun x hx => ?_
    cases hid : rtObjectIdentity p.selfExe x.1 x.2 with
    | none => simp [found, rtCollectCb_skip hid]
    | some id => simp [found, expectedObject_mapped h hx hid]

/-- The index only tells the executable from the rest. -/
theorem map_infos (p : Process) : p.infos.map (rtCollectCb p) =
    rtCollectCb p (p.main, 0) :: p.others.map fun info => rtCollectCb p (info, 1) := by
  have hrest : ∀ (l : List DlPhdrInfo) (i : Nat),
      (l.zipIdx (i + 1)).map (rtCollectCb p) = l.map fun info => rtCollectCb p (info, 1) := by
    intro l
    induction l with
    | nil => intro i; rfl
    | cons info l ih =>
      intro i
      rw [List.zipIdx_cons, List.map_cons, List.map_cons, ih]
      rfl
  unfold Process.infos
  rw [List.zipIdx_cons, List.map_cons, hrest]

/-- **Mapping order.** -/
theorem live_order {p : Process} {others : List DlPhdrInfo} (h : others.Perm p.others) {m : Blob 32} :
    computeRuntimeMeasure { p with others } = .ok m ↔ computeRuntimeMeasure p = .ok m := by
  have hperm : (({ p with others } : Process).infos.map (rtCollectCb p)).Perm
      (p.infos.map (rtCollectCb p)) := by
    have hnew : ({ p with others } : Process).infos.map (rtCollectCb p) =
        rtCollectCb p (p.main, 0) :: others.map fun info => rtCollectCb p (info, 1) :=
          map_infos { p with others }
    rw [hnew, map_infos p]
    exact (h.map _).cons _
  have hsame : rtCollectCb { p with others } = rtCollectCb p := rfl
  have hfound : ∀ xs : List (DlPhdrInfo × Nat),
      xs.filterMap (found (rtCollectCb p)) = (xs.map (rtCollectCb p)).filterMap (found id) := by
    intro xs
    rw [List.filterMap_map]
    rfl
  unfold computeRuntimeMeasure
  rw [hsame]
  refine measureObjects_perm ?_ ?_
  · have hok : ∀ xs : List (DlPhdrInfo × Nat),
        (∀ x ∈ xs, ∃ r, rtCollectCb p x = .ok r) ↔ ∀ e ∈ xs.map (rtCollectCb p), ∃ r, e = .ok r := by
      intro xs
      rw [List.forall_mem_map]
    rw [hok, hok]
    exact forall_congr' fun e => imp_congr_left hperm.mem_iff
  · rw [hfound, hfound]
    exact hperm.filterMap _

/-! ## What a measurement determines -/

/-- A measured object: its name and its executable segments. -/
structure Content where
  soname : CString
  segs : List Segment
  deriving DecidableEq

def Content.object (c : Content) : RtObject := ⟨c.soname, sha256 (objectMessage c.segs)⟩

/-- An object with executable segments. -/
def contentOf (soname : CString) : Except Errno (List Segment) → Option Content
  | .error _ => none
  | .ok segs => if segs = [] then none else some ⟨soname, segs⟩

def liveContents (p : Process) : List Content :=
  p.infos.filterMap fun x => (rtObjectIdentity p.selfExe x.1 x.2).bind fun id =>
    contentOf id.2 (liveSegments p x.1)

def fileContents (fs : Files) (paths : List CString) : List Content :=
  paths.filterMap fun path => contentOf (rtBasename path) ((fs path).bind fileSegments)

/-- The lengths that the messages carry are those of the parts. -/
def Content.Sized (c : Content) : Prop :=
  c.segs.length < 256 ^ 4 ∧ ∀ s ∈ c.segs, s.bytes.length = s.filesz.toNat

theorem prefixFree_segment :
    PrefixFree (fun s : Segment => s.bytes.length = s.filesz.toNat) Segment.encode := by
  intro a b xs ys ha hb h
  unfold Segment.encode at h
  simp only [List.append_assoc] at h
  obtain ⟨hv, h⟩ := append_word_inj a.vaddr.toNat_lt b.vaddr.toNat_lt h
  obtain ⟨ho, h⟩ := append_word_inj a.offset.toNat_lt b.offset.toNat_lt h
  obtain ⟨hf, h⟩ := append_word_inj a.filesz.toNat_lt b.filesz.toNat_lt h
  obtain ⟨hbytes, hrest⟩ := List.append_inj h (by rw [ha, hb, hf])
  obtain ⟨v, o, f, bs⟩ := a
  obtain ⟨v', o', f', bs'⟩ := b
  rw [show v = v' from UInt64.toNat_inj.mp hv, show o = o' from UInt64.toNat_inj.mp ho,
    show f = f' from UInt64.toNat_inj.mp hf, show bs = bs' from hbytes]
  exact ⟨rfl, hrest⟩

theorem objectMessage_inj {c d : Content} (hc : c.Sized) (hd : d.Sized)
    (h : objectMessage c.segs = objectMessage d.segs) : c.segs = d.segs := by
  have hcounted : counted 4 Segment.encode c.segs ++ [] = counted 4 Segment.encode d.segs ++ [] :=
    congrArg (· ++ []) (List.append_cancel_left h)
  exact (prefixFree_segment.counted 4 hc hd hcounted).1

theorem prefixFree_object :
    PrefixFree (fun o : RtObject => o.soname.bytes.length < 256 ^ 4) RtObject.encode := by
  intro a b xs ys ha hb h
  unfold RtObject.encode at h
  rw [List.append_assoc, List.append_assoc] at h
  obtain ⟨hname, h⟩ := prefixFree_sized 4 ha hb h
  obtain ⟨hdigest, hrest⟩ := append_blob_inj h
  obtain ⟨n, d⟩ := a
  obtain ⟨n', d'⟩ := b
  rw [show n = n' from CString.ext hname, show d = d' from hdigest]
  exact ⟨rfl, hrest⟩

theorem combinedMessage_inj {objs objs' : List RtObject} (hlen : objs.length ≤ maxObjs)
    (hlen' : objs'.length ≤ maxObjs)
    (hname : ∀ o ∈ objs, o.soname.bytes.length < sonameMax)
    (hname' : ∀ o ∈ objs', o.soname.bytes.length < sonameMax)
    (h : combinedMessage objs = combinedMessage objs') : objs.Perm objs' := by
  have hfits : ∀ l : List RtObject, l.length ≤ maxObjs → (∀ o ∈ l, o.soname.bytes.length < sonameMax) →
      (qsort rtObjectCmp l).length < 256 ^ 4 ∧ ∀ o ∈ qsort rtObjectCmp l,
      o.soname.bytes.length < 256 ^ 4 := by
    intro l hl hn
    have hmax : maxObjs = 256 ∧ sonameMax = 256 := ⟨rfl, rfl⟩
    refine ⟨?_, fun o ho => ?_⟩
    · rw [(qsort_perm rtObjectCmp l).length_eq]
      omega
    · have := hn o ((qsort_perm rtObjectCmp l).mem_iff.mp ho)
      omega
  have hcounted : counted 4 RtObject.encode (qsort rtObjectCmp objs) ++ [] =
      counted 4 RtObject.encode (qsort rtObjectCmp objs') ++ [] :=
        congrArg (· ++ []) (List.append_cancel_left h)
  have hsorted :=
    (prefixFree_object.counted 4 (hfits objs hlen hname) (hfits objs' hlen' hname') hcounted).1
  exact (qsort_eq_iff fun a _ b _ => eq_of_rtObjectCmp).mp hsorted

/-- SHA-256 does not confuse the messages of these two collections. -/
structure Unconfused (cs ds : List Content) : Prop where
  objects : ∀ c ∈ cs, ∀ d ∈ ds, NoCollision (objectMessage c.segs) (objectMessage d.segs)
  combined : NoCollision (combinedMessage (cs.map Content.object))
    (combinedMessage (ds.map Content.object))

/-- Digests that are not confused stand for their objects. -/
theorem perm_of_objects {cs ds : List Content} (hcs : ∀ c ∈ cs, c.Sized) (hds : ∀ d ∈ ds, d.Sized)
    (hobjects : ∀ c ∈ cs, ∀ d ∈ ds, NoCollision (objectMessage c.segs) (objectMessage d.segs))
    (h : (cs.map Content.object).Perm (ds.map Content.object)) : cs.Perm ds := by
  induction cs generalizing ds with
  | nil => rw [List.map_eq_nil_iff.mp (List.perm_nil.mp h.symm)]
  | cons c cs ih =>
    have hmem : c ∈ ds := by
      obtain ⟨d, hd, hobject⟩ := List.mem_map.mp (h.mem_iff.mp (List.mem_map_of_mem List.mem_cons_self))
      have hname : d.soname = c.soname := congrArg RtObject.soname hobject
      have hdigest : sha256 (objectMessage c.segs) = sha256 (objectMessage d.segs) :=
        (congrArg RtObject.digest hobject).symm
      have hsegs :=
        objectMessage_inj (hcs c List.mem_cons_self) (hds d hd)
          (hobjects c List.mem_cons_self d hd hdigest)
      have heq : d = c := by
        obtain ⟨n, segs⟩ := c
        obtain ⟨n', segs'⟩ := d
        rw [show n' = n from hname, show segs = segs' from hsegs]
      exact heq ▸ hd
    have herase := List.perm_cons_erase hmem
    have hrest : (cs.map Content.object).Perm ((ds.erase c).map Content.object) :=
      (h.trans (herase.map Content.object)).cons_inv
    refine (List.Perm.cons c (ih ?_ ?_ ?_ hrest)).trans herase.symm
    · exact fun x hx => hcs x (List.mem_cons_of_mem c hx)
    · exact fun d hd => hds d (List.mem_of_mem_erase hd)
    · exact fun x hx d hd => hobjects x (List.mem_cons_of_mem c hx) d (List.mem_of_mem_erase hd)

/-- **Injectivity.** -/
theorem contents_perm {α β : Type} {f : α → Except Errno (Option RtObject)}
    {g : β → Except Errno (Option RtObject)}
    {xs : List α} {ys : List β} {cs ds : List Content} {m : Blob 32}
    (hf : xs.filterMap (found f) = cs.map Content.object)
    (hg : ys.filterMap (found g) = ds.map Content.object) (hcs : ∀ c ∈ cs, c.Sized)
    (hds : ∀ d ∈ ds, d.Sized)
    (hsha : Unconfused cs ds) (hx : measureObjects f xs = .ok m)
    (hy : measureObjects g ys = .ok m) : cs.Perm ds := by
  obtain ⟨⟨-, hname, hlen, -⟩, hm⟩ := measureObjects_ok.mp hx
  obtain ⟨⟨-, hname', hlen', -⟩, hm'⟩ := measureObjects_ok.mp hy
  rw [hf] at hname hlen hm
  rw [hg] at hname' hlen' hm'
  have hmessage := hsha.combined (hm.symm.trans hm')
  exact perm_of_objects hcs hds hsha.objects (combinedMessage_inj hlen hlen' hname hname' hmessage)

/-! ### Both kinds of collections -/

theorem objectDigest_content (soname : CString) (r : Except Errno (List Segment)) :
    (contentOf soname r).map Content.object = match r.map objectDigest with
      | .error _ => none
      | .ok none => none
      | .ok (some digest) => some ⟨soname, digest⟩ := by
  cases r with
  | error e => rfl
  | ok segs =>
    by_cases h : segs = []
    · simp [contentOf, objectDigest, Except.map, h]
    · simp [contentOf, objectDigest, Except.map, h, Content.object]

theorem found_live (p : Process) :
    p.infos.filterMap (found (rtCollectCb p)) = (liveContents p).map Content.object := by
  unfold liveContents
  rw [List.map_filterMap]
  refine List.filterMap_congr fun x _ => ?_
  unfold found rtCollectCb rtLiveObjectDigest
  cases hid : rtObjectIdentity p.selfExe x.1 x.2 with
  | none => rfl
  | some id =>
    rw [Option.bind_some, objectDigest_content]
    simp only
    rcases (liveSegments p x.1).map objectDigest with e | - | digest
    · rfl
    · rfl
    · rfl

theorem found_file (fs : Files) (paths : List CString) :
    paths.filterMap (found (expectedObject fs)) = (fileContents fs paths).map Content.object := by
  unfold fileContents
  rw [List.map_filterMap]
  refine List.filterMap_congr fun path _ => ?_
  rw [objectDigest_content]
  unfold found expectedObject rtFileObjectDigest
  cases hfile : fs path with
  | error e => rfl
  | ok file =>
    simp only [Except.bind]
    rcases (fileSegments file).map objectDigest with e | - | digest
    · rfl
    · rfl
    · rfl

theorem contentOf_some {soname : CString} {r : Except Errno (List Segment)} {c : Content}
    (h : contentOf soname r = some c) : r = .ok c.segs := by
  unfold contentOf at h
  split at h
  · cases h
  next segs =>
    split at h
    · cases h
    · cases h
      rfl

/-- The segments that are collected fit the count. -/
theorem collectSegs_length {phs segs : List Phdr} (h : collectSegs [] phs = .ok segs) :
    (sortSegs segs).length < 256 ^ 4 := by
  have hmax : maxSegs = 16 := rfl
  rw [(sortSegs_perm segs).length_eq]
  rw [collectSegs_eq [] phs (Nat.zero_le _)] at h
  split at h
  next hle =>
    cases h
    rw [List.length_nil] at hle
    rw [List.nil_append]
    omega
  · cases h

theorem liveContents_sized {p : Process} {c : Content} (h : c ∈ liveContents p) : c.Sized := by
  obtain ⟨x, -, hx⟩ := List.mem_filterMap.mp h
  obtain ⟨id, -, hc⟩ := Option.bind_eq_some_iff.mp hx
  have hsegs := contentOf_some hc
  unfold liveSegments at hsegs
  split at hsegs
  · cases hsegs
  next segs hcollect =>
    rw [Content.Sized, ← Except.ok.inj hsegs]
    refine ⟨by rw [List.length_map]; exact collectSegs_length hcollect, fun s hs => ?_⟩
    obtain ⟨ph, -, rfl⟩ := List.mem_map.mp hs
    simp [liveSegment, Process.read]

theorem readFileSeg_length (file : Bytes) (cur remaining : Nat) :
    ∀ bs, readFileSeg file cur remaining = .ok bs → bs.length = remaining := by
  fun_induction readFileSeg file cur remaining with
  | case1 cur =>
    intro bs h
    cases h
    rfl
  | case2 =>
    intro bs h
    cases h
  | case3 cur remaining hne want chunk hread ih =>
    intro bs h
    have hwant : want ≤ remaining ∧ 0 < want := by
      simp only [want]
      split <;> omega
    have hchunk : chunk.length = want := by
      unfold preadFull at hread
      rw [if_neg (by omega)] at hread
      split at hread
      · cases hread
      split at hread
      · cases hread
        rw [List.length_take, List.length_drop]
        omega
      · cases hread
    cases hrest : readFileSeg file (cur + want) (remaining - want) with
    | error e =>
      rw [hrest] at h
      cases h
    | ok rest =>
      rw [hrest] at h
      cases h
      have hlen := ih rest hrest
      rw [List.length_append]
      omega

theorem readSegments_sized {file : Bytes} {phs : List Phdr} {segs : List Segment}
    (h : readSegments file phs = .ok segs) :
    segs.length = phs.length ∧ ∀ s ∈ segs, s.bytes.length = s.filesz.toNat := by
  induction phs generalizing segs with
  | nil =>
    cases h
    exact ⟨rfl, by simp⟩
  | cons ph phs ih =>
    unfold readSegments at h
    split at h
    · cases h
    next bytes hbytes =>
      cases hrest : readSegments file phs with
      | error e =>
        rw [hrest] at h
        cases h
      | ok rest =>
        rw [hrest] at h
        cases h
        obtain ⟨hlen, hall⟩ := ih hrest
        refine ⟨by rw [List.length_cons, List.length_cons, hlen], List.forall_mem_cons.mpr ⟨?_, hall⟩⟩
        exact readFileSeg_length _ _ _ _ hbytes

theorem fileContents_sized {fs : Files} {paths : List CString} {c : Content}
    (h : c ∈ fileContents fs paths) : c.Sized := by
  obtain ⟨path, -, hc⟩ := List.mem_filterMap.mp h
  have hsegs := contentOf_some hc
  cases hfile : fs path with
  | error e =>
    rw [hfile] at hsegs
    cases hsegs
  | ok file =>
    rw [hfile] at hsegs
    have hfileSegs : fileSegments file = .ok c.segs := hsegs
    unfold fileSegments at hfileSegs
    split at hfileSegs
    · cases hfileSegs
    split at hfileSegs
    · cases hfileSegs
    next segs hcollect =>
      obtain ⟨hlen, hall⟩ := readSegments_sized hfileSegs
      exact ⟨by rw [hlen]; exact collectSegs_length hcollect, hall⟩

/-- **The runtime measurement.** Where memory holds what the files do, the live
measurement is that of the files in any order. It does not depend on the order
of the mappings. Collections with one measurement, live or of files, are the
same objects with the same executable segments. -/
theorem runtime_measure :
    (∀ fs p paths m, Mapped fs p → paths.Perm (listRuntimeObjects p) →
      (computeRuntimeMeasure p = .ok m ↔ computeExpectedRuntimeMeasureSet fs paths = .ok m)) ∧
    (∀ (p : Process) others m, others.Perm p.others →
      (computeRuntimeMeasure { p with others } = .ok m ↔ computeRuntimeMeasure p = .ok m)) ∧
    (∀ p q m, Unconfused (liveContents p) (liveContents q) → computeRuntimeMeasure p = .ok m →
      computeRuntimeMeasure q = .ok m → (liveContents p).Perm (liveContents q)) ∧
    (∀ fs paths fs' paths' m, Unconfused (fileContents fs paths) (fileContents fs' paths') →
      computeExpectedRuntimeMeasureSet fs paths = .ok m →
      computeExpectedRuntimeMeasureSet fs' paths' = .ok m →
      (fileContents fs paths).Perm (fileContents fs' paths')) := by
  refine ⟨?_, ?_, ?_, ?_⟩
  · intro fs p paths m h hperm
    exact live_expected h hperm
  · intro p others m h
    exact live_order h
  · intro p q m hsha hp hq
    exact contents_perm (found_live p) (found_live q) (fun c => liveContents_sized)
      (fun c => liveContents_sized) hsha hp hq
  · intro fs paths fs' paths' m hsha h h'
    exact contents_perm (found_file fs paths) (found_file fs' paths') (fun c => fileContents_sized)
      (fun c => fileContents_sized)
      hsha h h'

/-! ## A process -/

/-- An ELF file with one program header and four bytes of code. -/
def sampleElf : Bytes :=
  elfMagic ++ [2, 1, 1, 0, 0, 0, 0, 0, 0, 0, 0, 0] ++ toLE 2 3 ++ toLE 2 62 ++ toLE 4 1 ++
    toLE 8 0x1078 ++ toLE 8 64 ++
    toLE 8 0 ++ toLE 4 0 ++ toLE 2 64 ++ toLE 2 56 ++ toLE 2 1 ++ toLE 2 0 ++ toLE 2 0 ++ toLE 2 0 ++
    (toLE 4 1 ++ toLE 4 5 ++ toLE 8 120 ++ toLE 8 0x1078 ++ toLE 8 0x1078 ++ toLE 8 4 ++ toLE 8 4 ++
      toLE 8 0x1000) ++
    [0x31, 0xc0, 0xc3, 0x90]

def samplePhdr : Phdr := ⟨1, 5, 120, 0x1078, 4⟩

theorem nul_not_mem_takeWhile (bs : Bytes) : 0 ∉ bs.takeWhile (· ≠ 0) := by
  intro h
  simpa using List.mem_takeWhile_imp h

/-- The string that starts with these bytes. -/
def cstring (bs : Bytes) : CString := ⟨bs.takeWhile (· ≠ 0), nul_not_mem_takeWhile bs⟩

def sampleExe : CString := cstring (ascii "/opt/game/game")
def sampleLib : CString := cstring (ascii "/usr/lib/libaudio.so")
def sampleVdso : DlPhdrInfo := ⟨0x7fffff000000, some (cstring (ascii "linux-vdso.so.1")), []⟩

def exeBase : UInt64 := 0x555500000000
def libBase : UInt64 := 0x7fff00000000

/-- The executable, a library from a file with the same contents, and the
vDSO. -/
def sampleProcess : Process where
  selfExe := sampleExe
  main := ⟨exeBase, some (cstring []), [samplePhdr]⟩
  others := [⟨libBase, some sampleLib, [samplePhdr]⟩, sampleVdso]
  mem a := sampleElf.getD ((a - if a < libBase then exeBase else libBase).toNat - 0x1000) 0

def sampleFiles : Files :=
  fun path => if path = sampleExe ∨ path = sampleLib then .ok sampleElf else .error .enoent

theorem sampleElf_elf : ElfFile sampleElf [samplePhdr] := by
  constructor
  all_goals decide +kernel

theorem sample_loaded {info : DlPhdrInfo} (hphdr : info.dlpiPhdr = [samplePhdr])
    (h : sampleProcess.read (info.dlpiAddr + samplePhdr.pVaddr) 4 = (sampleElf.drop 120).take 4) :
    Loaded sampleElf sampleProcess info := by
  refine ⟨hphdr ▸ sampleElf_elf, fun ph hph _ => ?_, fun ph hph _ => ?_⟩
  · rw [hphdr, List.mem_singleton] at hph
    rw [hph]
    decide +kernel
  · rw [hphdr, List.mem_singleton] at hph
    rw [hph]
    exact h

theorem sample_mapped : Mapped sampleFiles sampleProcess := by
  intro x hx path soname hid
  have hinfos :
      sampleProcess.infos = [(sampleProcess.main, 0), (⟨libBase, some sampleLib, [samplePhdr]⟩, 1),
      (sampleVdso, 2)] := rfl
  rw [hinfos] at hx
  simp only [List.mem_cons, List.not_mem_nil, or_false] at hx
  rcases hx with rfl | rfl | rfl
  · have hpath : path = sampleExe := (congrArg Prod.fst (Option.some.inj hid)).symm
    exact ⟨sampleElf, by rw [hpath]; exact if_pos (.inl rfl), sample_loaded rfl (by decide +kernel)⟩
  · have hid' : rtObjectIdentity sampleExe ⟨libBase, some sampleLib, [samplePhdr]⟩ 1 =
        some (sampleLib, rtBasename sampleLib) := by
      decide +kernel
    have hpath : path = sampleLib := (congrArg Prod.fst (Option.some.inj (hid'.symm.trans hid))).symm
    exact ⟨sampleElf, by rw [hpath]; exact if_pos (.inr rfl), sample_loaded rfl (by decide +kernel)⟩
  · have hnone : rtObjectIdentity sampleExe sampleVdso 2 = none := by decide +kernel
    cases hnone.symm.trans hid

def sampleSegment : Segment := ⟨0x1078, 120, 4, [0x31, 0xc0, 0xc3, 0x90]⟩

theorem sample_contents : liveContents sampleProcess =
    [⟨cstring (ascii "game"), [sampleSegment]⟩,
      ⟨cstring (ascii "libaudio.so"), [sampleSegment]⟩] := by decide +kernel

theorem sample_unconfused : Unconfused (liveContents sampleProcess) (liveContents sampleProcess) := by
  refine ⟨fun c hc d hd _ => ?_, fun _ => rfl⟩
  have hsegs : ∀ e ∈ liveContents sampleProcess, e.segs = [sampleSegment] := by
    rw [sample_contents]
    simp
  rw [hsegs c hc, hsegs d hd]

theorem sample_measured : ∃ m, computeRuntimeMeasure sampleProcess = .ok m := by
  refine ⟨_, measureObjects_ok.mpr ⟨⟨?_, ?_, ?_, ?_⟩, rfl⟩⟩
  · have hall : ∀ x ∈ sampleProcess.infos, (rtCollectCb sampleProcess x).toOption.isSome =
        true := by decide +kernel
    intro x hx
    cases h : rtCollectCb sampleProcess x with
    | error e =>
      have := hall x hx
      rw [h] at this
      cases this
    | ok r => exact ⟨r, rfl⟩
  · rw [found_live, sample_contents]
    intro o ho
    simp only [List.map_cons, List.map_nil, List.mem_cons, List.not_mem_nil, or_false] at ho
    rcases ho with rfl | rfl
    · show (cstring (ascii "game")).bytes.length < sonameMax
      decide +kernel
    · show (cstring (ascii "libaudio.so")).bytes.length < sonameMax
      decide +kernel
  · rw [found_live, sample_contents]
    decide +kernel
  · rw [found_live, sample_contents]
    exact List.cons_ne_nil _ _

/-- The library first or last, loaded before or after the vDSO: one
measurement, and it determines both objects. -/
theorem runtime_measure_sample :
    ∃ m, computeExpectedRuntimeMeasureSet sampleFiles [sampleLib, sampleExe] = .ok m ∧
    computeRuntimeMeasure { sampleProcess with others := sampleProcess.others.reverse } = .ok m ∧
    (liveContents sampleProcess).Perm (liveContents sampleProcess) ∧
    (fileContents sampleFiles [sampleLib, sampleExe]).Perm
    (fileContents sampleFiles [sampleLib, sampleExe]) := by
  obtain ⟨hagree, horder, hlive, hfile⟩ := runtime_measure
  obtain ⟨m, hm⟩ := sample_measured
  have hlist : listRuntimeObjects sampleProcess = [sampleExe, sampleLib] := by decide +kernel
  have hexpected : computeExpectedRuntimeMeasureSet sampleFiles [sampleLib, sampleExe] = .ok m :=
    (hagree sampleFiles sampleProcess _ m sample_mapped
      (by rw [hlist]; exact List.Perm.swap _ _ _)).mp hm
  refine ⟨m, hexpected, ?_, ?_, ?_⟩
  · exact (horder sampleProcess _ m (List.reverse_perm _)).mpr hm
  · exact hlive sampleProcess sampleProcess m sample_unconfused hm hm
  · refine hfile sampleFiles _ sampleFiles _ m ?_ hexpected hexpected
    have hcontents : fileContents sampleFiles [sampleLib, sampleExe] =
        [⟨rtBasename sampleLib, [sampleSegment]⟩, ⟨rtBasename sampleExe, [sampleSegment]⟩] := by
      have hloaded : Loaded sampleElf sampleProcess sampleProcess.main :=
        sample_loaded rfl (by decide +kernel)
      have hsegs : fileSegments sampleElf = .ok [sampleSegment] :=
        (fileSegments_loaded hloaded).trans (by decide +kernel)
      simp [fileContents, sampleFiles, Except.bind, hsegs, contentOf]
    refine ⟨fun c hc d hd _ => ?_, fun _ => rfl⟩
    have hsegs : ∀ e ∈ fileContents sampleFiles [sampleLib, sampleExe], e.segs = [sampleSegment] := by
      rw [hcontents]
      simp
    rw [hsegs c hc, hsegs d hd]

end Lota.L4.RuntimeMeasure

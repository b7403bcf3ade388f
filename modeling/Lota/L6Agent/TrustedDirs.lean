import Lota.Core.Machine
import Lota.Core.RefCount
import Lota.Core.Segments
import Lota.L6Agent.PolicyDigest
import Mathlib.Data.Finset.Card
import Mathlib.Data.List.DropRight

/-!
# Trusted libraries and their directories (`agent/bpf_loader.c`)

A trusted library is an entry of the map `trusted_libs`. Each directory above
it, the root apart, has a reference count in `trusted_lib_mnt`, which the LSM
reads to refuse mounts over the directory. Trusting a library counts up along
its path and undoes that if a step fails; untrusting counts down.

Neither call looks at whether the library was trusted before, and both count
along the path as it is spelled.

* `updateDirs_add`: counting up happens as a whole or not at all.
* `step_inv`, `trusted_dirs_counted`: the counts of the directories over every
  run of calls that keep to `Proper`.
-/
namespace Lota.L6.TrustedDirs
open Lota.Core Lota.L6.Policy

/-! ## The file system -/

/-- One component of a path. -/
abbrev Name := Bytes

def slash : UInt8 := 0x2F

def dot : UInt8 := 0x2E

/-- mirrors src/agent/bpf_loader.c:62-65 -/
structure TrustedLibKey where
  dev : UInt64
  ino : UInt64
  deriving DecidableEq

def TrustedLibKey.isZero (k : TrustedLibKey) : Bool := k.dev = 0 || k.ino = 0

inductive Node where
  | dir
  | file
  /-- A symbolic link, a device, … -/
  | other
  deriving DecidableEq

/-- A tree of files, by the names on the way from the root. Everything in it is
in a directory and has an identity of its own. -/
structure FileTree where
  node : List Name → Option Node
  key : List Name → TrustedLibKey
  root : node [] = some .dir
  parent : ∀ p c, node (p ++ [c]) ≠ none → node p = some .dir
  key_inj : ∀ p q, node p ≠ none → node q ≠ none → key p = key q → p = q

def enotdir : Errno := .os 20

/-- Path resolution that follows no links. -/
def walk (t : FileTree) (cur : List Name) : List Name → Except Errno (List Name)
  | [] => .ok cur
  | c :: cs =>
    if t.node cur ≠ some .dir then .error enotdir
    else if c = [dot] then walk t cur cs
    else if c = [dot, dot] then walk t cur.dropLast cs
    else match t.node (cur ++ [c]) with
      | none => .error .enoent
      | some _ => walk t (cur ++ [c]) cs

/-- mirrors src/agent/bpf_loader.c:1247-1333, 1546-1572 -/
def statRegularFileNofollow (t : FileTree) (path : Bytes) : Except Errno TrustedLibKey :=
  if path = [] then .error .einval
  else if path.head? ≠ some slash then .error .einval
  else match walk t [] (segments slash path) with
    | .error e => .error e
    | .ok p =>
      if t.node p ≠ some .file then .error .einval
      -- a slash at the end asks for a directory
      else if path.getLast? = some slash then .error enotdir
      else .ok (t.key p)

/-- mirrors src/agent/bpf_loader.c:1574-1665 -/
def statDirNofollow (t : FileTree) (path : Bytes) : Except Errno TrustedLibKey :=
  if path.head? ≠ some slash then .error .einval
  else match walk t [] (segments slash path) with
    | .error e => .error e
    | .ok p => if t.node p ≠ some .dir then .error enotdir else .ok (t.key p)

/-! ## One directory -/

/-- An error of a map operation. That a key is not there is found in the map,
so `ENOENT` is none of them. -/
structure Fault where
  errno : Errno
  real : errno ≠ .enoent

/-- What goes wrong at one directory. -/
structure RefFault where
  stat : Option Errno
  lookup : Option Fault
  write : Option Fault

def RefFault.none : RefFault := ⟨.none, .none, .none⟩

abbrev Mnt := RefCount.Table TrustedLibKey

/-- mirrors src/agent/bpf_loader.c:1667-1719 -/
def updateTrustedMountpointRef (t : FileTree) (m : Mnt) (dirPath : Bytes) (add : Bool)
    (f : RefFault) : Except Errno Mnt :=
  match f.stat with
  | some e => .error e
  | none =>
    match statDirNofollow t dirPath with
    | .error e => .error e
    | .ok key =>
      if key.isZero then .error .einval
      else match f.lookup with
        | some e => .error e.errno
        | none =>
          if add then
            if RefCount.get m key = 0xFFFFFFFF then .error .eoverflow
            else match f.write with
              | some e => .error e.errno
              | none => .ok (Function.update m key (some (RefCount.get m key + 1)))
          else if RefCount.get m key = 0 then .ok m
          else match f.write with
            | some e => .error e.errno
            | none =>
              if RefCount.get m key = 1 then .ok (Function.update m key none)
              else .ok (Function.update m key (some (RefCount.get m key - 1)))

/-! ## The directories of a path -/

/-- The names with a slash in front of each. -/
def joinPath (cs : List Name) : Bytes := unsegment slash cs

/-- The undo loop: what fails is skipped.
mirrors src/agent/bpf_loader.c:1784-1826 -/
def undoDirs (t : FileTree) (u : Nat → RefFault) (m : Mnt) (done : List Name) : List Name → Mnt
  | [] => m
  | c :: cs =>
    let m' := match updateTrustedMountpointRef t m (joinPath (done ++ [c])) false (u done.length) with
      | .ok m' => m'
      | .error _ => m
    undoDirs t u m' (done ++ [c]) cs

/-- The loop over the components; `done` are those behind it.
mirrors src/agent/bpf_loader.c:1756-1838 -/
def updateDirs (t : FileTree) (add : Bool) (f u : Nat → RefFault) (m : Mnt) (done : List Name) :
    List Name → Mnt × Except Errno Unit
  | [] => (m, .ok ())
  | c :: cs =>
    if (joinPath (done ++ [c])).length ≥ pathMax then (m, .error .enametoolong)
    else match updateTrustedMountpointRef t m (joinPath (done ++ [c])) add (f done.length) with
      | .ok m' => updateDirs t add f u m' (done ++ [c]) cs
      | .error e => (if add then undoDirs t u m [] done else m, .error e)

/-- Slashes at the end go, one character stays. -/
def stripSlashes : Bytes → Bytes
  | [] => []
  | c :: cs => c :: cs.rdropWhile (· = slash)

/-- The path up to its last slash. -/
def cutLast (s : Bytes) : Option Bytes :=
  if slash ∈ s then some (s.rdropWhile (· ≠ slash)).dropLast else none

/-- The components that are counted along. -/
def dirComponents (path : Bytes) : List Name :=
  match cutLast (stripSlashes path) with
  | none => []
  | some dirPath => segments slash dirPath.tail

/-- mirrors src/agent/bpf_loader.c:1721-1841 -/
def updateTrustedParentMountpoints (t : FileTree) (mnt : Option Mnt) (libPath : Bytes) (add : Bool)
    (f u : Nat → RefFault) : Option Mnt × Except Errno Unit :=
  match mnt with
  | none => (none, .ok ())
  | some m =>
    if libPath.length = 0 ∨ libPath.length ≥ pathMax then (mnt, .error .einval)
    else if cutLast (stripSlashes libPath) = none then (mnt, .error .einval)
    else
      -- a parent that is the root has no components
      let (m', r) := updateDirs t add f u m [] (dirComponents libPath)
      (some m', r)

/-! ## The calls -/

/-- The maps of the loader; a map that the object does not have is `none`. -/
structure Loader where
  loaded : Bool
  trustedLibs : Option (Finset TrustedLibKey)
  trustedLibMnt : Option Mnt

/-- What goes wrong in one call. -/
structure Faults where
  /-- Opening or examining the library. -/
  stat : Option Errno
  /-- The update or the delete of `trusted_libs`. -/
  libs : Option Fault
  /-- At the directories, by their place on the path. -/
  dir : Nat → RefFault
  /-- At the directories, while an update is undone. -/
  undo : Nat → RefFault
  /-- The delete that takes the library back. -/
  undoLib : Option Fault

def Faults.none : Faults := ⟨.none, .none, fun _ => .none, fun _ => .none, .none⟩

/-- mirrors src/agent/bpf_loader.c:1843-1876 -/
def bpfLoaderTrustLib (t : FileTree) (f : Faults) (ctx : Loader) (path : Bytes) :
    Loader × Except Errno Unit :=
  if ctx.loaded = false then (ctx, .error .einval)
  else match ctx.trustedLibs with
    | none => (ctx, .error .enotsup)
    | some libs =>
      match f.stat with
      | some e => (ctx, .error e)
      | none =>
        match statRegularFileNofollow t path with
        | .error e => (ctx, .error e)
        | .ok key =>
          if key.isZero then (ctx, .error .einval)
          else match f.libs with
            | some e => (ctx, .error e.errno)
            | none =>
              match updateTrustedParentMountpoints t ctx.trustedLibMnt path true f.dir f.undo with
              | (mnt, .ok ()) =>
                ({ ctx with trustedLibs := some (insert key libs), trustedLibMnt := mnt }, .ok ())
              | (mnt, .error e) =>
                let libs' := match f.undoLib with
                  | some _ => insert key libs
                  | none => (insert key libs).erase key
                ({ ctx with trustedLibs := some libs', trustedLibMnt := mnt }, .error e)

/-- mirrors src/agent/bpf_loader.c:1878-1908 -/
def bpfLoaderUntrustLib (t : FileTree) (f : Faults) (ctx : Loader) (path : Bytes) :
    Loader × Except Errno Unit :=
  if ctx.loaded = false then (ctx, .error .einval)
  else match ctx.trustedLibs with
    | none => (ctx, .error .enotsup)
    | some libs =>
      match f.stat with
      | some e => (ctx, .error e)
      | none =>
        match statRegularFileNofollow t path with
        | .error e => (ctx, .error e)
        | .ok key =>
          if key.isZero then (ctx, .error .einval)
          else match f.libs with
            | some e => (ctx, .error e.errno)
            | none =>
              -- a key that is not there is no error
              let (mnt, r) := updateTrustedParentMountpoints t ctx.trustedLibMnt path false f.dir f.undo
              ({ ctx with trustedLibs := some (libs.erase key), trustedLibMnt := mnt }, r)

/-! ## Counting along a path -/

section
variable {t : FileTree}

/-- The directory that a path leads to. -/
def keyOf (t : FileTree) (cs : List Name) : TrustedLibKey :=
  ((statDirNofollow t (joinPath cs)).toOption).getD ⟨0, 0⟩

/-- The directories along a path, from the names in `done` on. -/
def dirKeys (t : FileTree) (done : List Name) : List Name → List TrustedLibKey
  | [] => []
  | c :: cs => keyOf t (done ++ [c]) :: dirKeys t (done ++ [c]) cs

/-- Every step along the path leads to a directory that can be counted. -/
def Resolves (t : FileTree) (done : List Name) : List Name → Prop
  | [] => True
  | c :: cs =>
    (∃ k, statDirNofollow t (joinPath (done ++ [c])) = .ok k ∧ k.isZero = false) ∧
    Resolves t (done ++ [c]) cs

theorem dirKeys_append (done xs ys : List Name) :
    dirKeys t done (xs ++ ys) = dirKeys t done xs ++ dirKeys t (done ++ xs) ys := by
  induction xs generalizing done with
  | nil => simp [dirKeys]
  | cons x xs ih => simp [dirKeys, ih]

theorem resolves_append (done xs ys : List Name) :
    Resolves t done (xs ++ ys) ↔ Resolves t done xs ∧ Resolves t (done ++ xs) ys := by
  induction xs generalizing done with
  | nil => simp [Resolves]
  | cons x xs ih => simp [Resolves, ih, and_assoc]

theorem keyOf_eq {cs : List Name} {k : TrustedLibKey}
    (h : statDirNofollow t (joinPath cs) = .ok k) : keyOf t cs = k := by
  unfold keyOf
  rw [h]
  rfl

/-- Counting up one directory. -/
theorem updateRef_add {m m' : Mnt} {cs : List Name} {f : RefFault}
    (h : updateTrustedMountpointRef t m (joinPath cs) true f = .ok m') :
    (∃ k, statDirNofollow t (joinPath cs) = .ok k ∧ k.isZero = false) ∧
    RefCount.incr m (keyOf t cs) = some m' := by
  unfold updateTrustedMountpointRef at h
  cases hs : f.stat with
  | some e => simp [hs] at h
  | none =>
    cases hk : statDirNofollow t (joinPath cs) with
    | error e => simp [hs, hk] at h
    | ok k =>
      by_cases hz : k.isZero = true
      · simp [hs, hk, hz] at h
      · cases hl : f.lookup with
        | some e => simp [hs, hk, hz, hl] at h
        | none =>
          by_cases hmax : RefCount.get m k = 0xFFFFFFFF
          · simp [hs, hk, hz, hl, hmax] at h
          · cases hw : f.write with
            | some e => simp [hs, hk, hz, hl, hmax, hw] at h
            | none =>
              simp only [hs, hk, hz, hl, hmax, hw, Bool.false_eq_true, if_true, if_false,
                Except.ok.injEq] at h
              refine ⟨⟨k, rfl, by simpa using hz⟩, ?_⟩
              rw [keyOf_eq hk, RefCount.incr, if_neg hmax, h]

/-- Counting down one directory. -/
theorem updateRef_sub {m : Mnt} {cs : List Name} {k : TrustedLibKey}
    (hk : statDirNofollow t (joinPath cs) = .ok k)
    (hz : k.isZero = false) :
    updateTrustedMountpointRef t m (joinPath cs) false .none = .ok (RefCount.decr m (keyOf t cs)) := by
  rw [keyOf_eq hk]
  simp only [updateTrustedMountpointRef, RefFault.none, hk, hz, Bool.false_eq_true, if_false,
    RefCount.decr]
  by_cases h0 : RefCount.get m k = 0
  · rw [if_pos h0, if_pos h0]
  · rw [if_neg h0, if_neg h0]
    by_cases h1 : RefCount.get m k = 1
    · rw [if_pos h1, if_pos h1]
    · rw [if_neg h1, if_neg h1]

/-- A directory without a count stays without one, whatever happens. -/
theorem updateRef_sub_zero {m m' : Mnt} {cs : List Name} {f : RefFault}
    (h0 : RefCount.get m (keyOf t cs) = 0)
    (h : updateTrustedMountpointRef t m (joinPath cs) false f = .ok m') : m' = m := by
  unfold updateTrustedMountpointRef at h
  cases hs : f.stat with
  | some e => simp [hs] at h
  | none =>
    cases hk : statDirNofollow t (joinPath cs) with
    | error e => simp [hs, hk] at h
    | ok k =>
      rw [keyOf_eq hk] at h0
      by_cases hz : k.isZero = true
      · simp [hs, hk, hz] at h
      · cases hl : f.lookup with
        | some e => simp [hs, hk, hz, hl] at h
        | none =>
          simp only [hs, hk, hz, hl, h0, Bool.false_eq_true, if_true, if_false, Except.ok.injEq] at h
          exact h.symm

theorem undoDirs_eq {m : Mnt} {done cs : List Name} (h : Resolves t done cs) :
    undoDirs t (fun _ => .none) m done cs = (dirKeys t done cs).foldl RefCount.decr m := by
  induction cs generalizing m done with
  | nil => rfl
  | cons c cs ih =>
    obtain ⟨⟨k, hk, hz⟩, hrest⟩ := h
    rw [undoDirs, updateRef_sub hk hz]
    exact ih hrest

/-- Counting down along a path that resolves. -/
theorem updateDirs_sub {m : Mnt} {u : Nat → RefFault} {done cs : List Name} (h : Resolves t done cs)
    (hlen : (joinPath (done ++ cs)).length < pathMax) :
    updateDirs t false (fun _ => .none) u m done cs =
    ((dirKeys t done cs).foldl RefCount.decr m, .ok ()) := by
  induction cs generalizing m done with
  | nil => rfl
  | cons c cs ih =>
    obtain ⟨⟨k, hk, hz⟩, hrest⟩ := h
    have hsplit : done ++ c :: cs = (done ++ [c]) ++ cs := by simp
    rw [hsplit] at hlen
    have hshort : (joinPath (done ++ [c])).length < pathMax := by
      rw [joinPath, unsegment_append, List.length_append] at hlen
      exact Nat.lt_of_le_of_lt (Nat.le_add_right _ _) hlen
    rw [updateDirs, if_neg (Nat.not_le.mpr hshort), updateRef_sub hk hz]
    exact ih hrest hlen

/-- **All or nothing.** Counting up along a path either counts every directory
of it once for every time the path leads there, or it leaves the counts as they
were. -/
theorem updateDirs_add {g : TrustedLibKey → Nat} {f : Nat → RefFault} {m m' : Mnt} {done cs : List Name}
    {r : Except Errno Unit} (h : updateDirs t true f (fun _ => .none) m done cs = (m', r))
    (hm : RefCount.Counts m fun k => g k + (dirKeys t [] done).count k) (hdone : Resolves t [] done)
    (hlen : (joinPath (done ++ cs)).length < pathMax) :
    (r = .ok () ∧ Resolves t [] (done ++ cs) ∧
      RefCount.Counts m' fun k => g k + (dirKeys t [] (done ++ cs)).count k) ∨
      (∃ e, r = .error e) ∧ RefCount.Counts m' g := by
  induction cs generalizing m done with
  | nil =>
    cases h
    rw [List.append_nil]
    exact .inl ⟨rfl, hdone, hm⟩
  | cons c cs ih =>
    have hsplit : done ++ c :: cs = (done ++ [c]) ++ cs := by simp
    rw [hsplit] at hlen ⊢
    have hshort : (joinPath (done ++ [c])).length < pathMax := by
      rw [joinPath, unsegment_append, List.length_append] at hlen
      exact Nat.lt_of_le_of_lt (Nat.le_add_right _ _) hlen
    rw [updateDirs, if_neg (Nat.not_le.mpr hshort)] at h
    cases href : updateTrustedMountpointRef t m (joinPath (done ++ [c])) true (f done.length) with
    | ok m₁ =>
      rw [href] at h
      obtain ⟨hk, hincr⟩ := updateRef_add href
      have hkeys : dirKeys t [] (done ++ [c]) = dirKeys t [] done ++ [keyOf t (done ++ [c])] := by
        rw [dirKeys_append]
        rfl
      refine ih h ?_ ((resolves_append _ _ _).mpr ⟨hdone, hk, trivial⟩) hlen
      rw [hkeys]
      exact hm.incr_append hincr
    | error e =>
      rw [href] at h
      simp only [if_true, Prod.mk.injEq] at h
      obtain ⟨rfl, rfl⟩ := h
      refine .inr ⟨⟨e, rfl⟩, ?_⟩
      rw [undoDirs_eq hdone]
      have hdown := hm.foldl_decr (dirKeys t [] done)
      simpa only [Nat.add_sub_cancel] using hdown

end

/-! ## The path of a library -/

theorem cutLast_eq {a name : Bytes} (h : slash ∉ name) : cutLast (a ++ slash :: name) = some a := by
  have hdrop : (a ++ slash :: name).rdropWhile (· ≠ slash) = a ++ [slash] := by
    have hrev : (a ++ slash :: name).reverse = name.reverse ++ slash :: a.reverse := by simp
    rw [List.rdropWhile, hrev, List.dropWhile_append_of_pos, List.dropWhile_cons_of_neg (by simp)]
    · simp
    · intro c hc
      simp only [decide_eq_true_eq]
      exact fun he => h (he ▸ List.mem_reverse.mp hc)
  unfold cutLast
  rw [if_pos (by simp), hdrop, List.dropLast_concat]

theorem exists_last_slash {path : Bytes} (h : slash ∈ path) :
    ∃ a name, path = a ++ slash :: name ∧ slash ∉ name := by
  obtain ⟨xs, ys, hsplit, hxs⟩ := List.eq_append_cons_of_mem (List.mem_reverse.mpr h)
  refine ⟨ys.reverse, xs.reverse, ?_, fun hm => hxs (List.mem_reverse.mp hm)⟩
  have hrev := congrArg List.reverse hsplit
  simpa using hrev

/-- A path to a file is the path to its directory and a name. -/
theorem path_parts {path : Bytes} (hhead : path.head? = some slash)
    (hlast : path.getLast? ≠ some slash) :
    ∃ name, segments slash path = dirComponents path ++ [name] ∧ cutLast (stripSlashes path) ≠ none ∧
      (joinPath (dirComponents path)).length ≤ path.length := by
  obtain ⟨cs, rfl⟩ := List.head?_eq_some_iff.mp hhead
  have hcs : cs ≠ [] := by
    intro h0
    rw [h0] at hlast
    exact hlast rfl
  have hstrip : stripSlashes (slash :: cs) = slash :: cs := by
    have hself : cs.rdropWhile (· = slash) = cs := by
      rw [List.rdropWhile_eq_self_iff]
      intro hne he
      apply hlast
      rw [List.getLast?_cons_of_ne_nil hne, List.getLast?_eq_some_getLast hne, of_decide_eq_true he]
    rw [stripSlashes, hself]
  obtain ⟨a, name, hsplit, hname⟩ := exists_last_slash (List.mem_cons_self (a := slash) (l := cs))
  have hne : name ≠ [] := by
    intro h0
    apply hlast
    rw [hsplit, h0, List.getLast?_concat]
  have hcut : cutLast (stripSlashes (slash :: cs)) = some a := by rw [hstrip, hsplit, cutLast_eq hname]
  have hdir : dirComponents (slash :: cs) = segments slash a.tail := by
    unfold dirComponents
    rw [hcut]
  -- in front of the last slash is nothing, or a path that starts with one
  have htail : segments slash a = segments slash a.tail := by
    cases a with
    | nil => rfl
    | cons c as =>
      rw [List.cons_append] at hsplit
      rw [← (List.cons.inj hsplit).1]
      exact segments_sep_cons as
  refine ⟨name, ?_, by simp [hcut], ?_⟩
  · rw [hdir, hsplit, segments_append, htail, segments_piece hne hname]
  · have hle : (unsegment slash (segments slash a.tail)).length ≤ a.tail.length + 1 :=
      length_unsegment_segments a.tail
    have hlen := congrArg List.length hsplit
    rw [hdir, hlen, List.length_append, List.length_cons]
    rw [List.length_tail] at hle
    unfold joinPath
    omega

section
variable {t : FileTree}

theorem statRegular_ok {path : Bytes} {key : TrustedLibKey}
    (h : statRegularFileNofollow t path = .ok key) :
    (∃ p, walk t [] (segments slash path) = .ok p ∧ t.node p = some .file ∧ t.key p = key) ∧
      path.head? = some slash ∧ path.getLast? ≠ some slash := by
  unfold statRegularFileNofollow at h
  by_cases h0 : path = []
  · simp [h0] at h
  by_cases hhead : path.head? = some slash
  · rw [if_neg h0, if_neg (not_not_intro hhead)] at h
    cases hw : walk t [] (segments slash path) with
    | error e => simp [hw] at h
    | ok p =>
      by_cases hfile : t.node p = some .file
      · by_cases hlast : path.getLast? = some slash
        · simp [hw, hfile, hlast] at h
        · simp only [hw, hfile, hlast, ne_eq, not_true_eq_false, if_false, Except.ok.injEq] at h
          exact ⟨⟨p, rfl, hfile, h⟩, hhead, hlast⟩
      · simp [hw, hfile] at h
  · simp [h0, hhead] at h

/-- No component stands for another directory. -/
def NoDots (cs : List Name) : Prop := [dot] ∉ cs ∧ [dot, dot] ∉ cs

theorem walk_noDots {cur cs p : List Name} (hdots : NoDots cs) (h : walk t cur cs = .ok p) :
    p = cur ++ cs := by
  induction cs generalizing cur with
  | nil =>
    cases h
    rw [List.append_nil]
  | cons c cs ih =>
    obtain ⟨h1, h2⟩ := hdots
    rw [List.mem_cons, not_or] at h1 h2
    unfold walk at h
    by_cases hdir : t.node cur = some .dir
    · rw [if_neg (not_not_intro hdir), if_neg (Ne.symm h1.1), if_neg (Ne.symm h2.1)] at h
      cases hn : t.node (cur ++ [c]) with
      | none => simp [hn] at h
      | some n =>
        rw [hn] at h
        have hp := ih ⟨h1.2, h2.2⟩ h
        rw [hp, List.append_assoc]
        rfl
    · simp [hdir] at h

theorem node_ne_none {p : List Name} {n : Node} (h : t.node p = some n) : t.node p ≠ none := by
  rw [h]
  exact Option.some_ne_none n

/-- Names as they come out of a path. -/
def Names (cs : List Name) : Prop := ∀ c ∈ cs, c ≠ [] ∧ slash ∉ c

/-- A directory that is named without detours is the one it says. -/
theorem statDir_noDots {cs : List Name} {k : TrustedLibKey} (hnames : Names cs) (hdots : NoDots cs)
    (h : statDirNofollow t (joinPath cs) = .ok k) : t.node cs = some .dir ∧ t.key cs = k := by
  unfold statDirNofollow at h
  by_cases hhead : (joinPath cs).head? = some slash
  · rw [if_neg (not_not_intro hhead), joinPath, segments_unsegment hnames] at h
    cases hw : walk t [] cs with
    | error e => simp [hw] at h
    | ok p =>
      have hp : p = cs := walk_noDots hdots hw
      by_cases hdir : t.node p = some .dir
      · simp only [hw, hdir, ne_eq, not_true_eq_false, if_false, Except.ok.injEq] at h
        exact ⟨hp ▸ hdir, hp ▸ h⟩
      · simp [hw, hdir] at h
  · simp [hhead] at h

theorem NoDots.take {cs ds : List Name} (h : NoDots ds) (hp : cs <+: ds) : NoDots cs :=
  ⟨fun hm => h.1 (hp.subset hm), fun hm => h.2 (hp.subset hm)⟩

theorem Names.take {cs ds : List Name} (h : Names ds) (hp : cs <+: ds) : Names cs :=
  fun c hc => h c (hp.subset hc)

/-- The directories along a path without detours are its prefixes. -/
theorem mem_dirKeys {done cs : List Name} (hnames : Names (done ++ cs)) (hdots : NoDots (done ++ cs))
    (hr : Resolves t done cs) {k : TrustedLibKey} :
    k ∈ dirKeys t done cs ↔ ∃ a, a ≠ [] ∧ a <+: cs ∧ t.node (done ++ a) = some .dir ∧
    t.key (done ++ a) = k := by
  induction cs generalizing done with
  | nil => simp [dirKeys]
  | cons c cs ih =>
    obtain ⟨⟨k', hk', -⟩, hrest⟩ := hr
    have hsplit : done ++ c :: cs = (done ++ [c]) ++ cs := by simp
    rw [hsplit] at hnames hdots
    have hpre : done ++ [c] <+: (done ++ [c]) ++ cs := List.prefix_append _ _
    obtain ⟨hdir, hkey⟩ := statDir_noDots (hnames.take hpre) (hdots.take hpre) hk'
    rw [dirKeys, List.mem_cons, ih hnames hdots hrest, keyOf_eq hk', ← hkey]
    constructor
    · rintro (rfl | ⟨a, ha, hp, hdir', hk⟩)
      · exact ⟨[c], List.cons_ne_nil _ _, by simp, hdir, rfl⟩
      · refine ⟨c :: a, List.cons_ne_nil _ _, List.cons_prefix_cons.mpr ⟨rfl, hp⟩, ?_, ?_⟩
        · rwa [List.append_assoc] at hdir'
        · rwa [List.append_assoc] at hk
    · rintro ⟨a, ha, hp, hdir', hk⟩
      obtain ⟨b, as, rfl⟩ := List.exists_cons_of_ne_nil ha
      obtain ⟨rfl, hp'⟩ := List.cons_prefix_cons.mp hp
      by_cases has : as = []
      · left
        rw [← hk, has]
      · right
        refine ⟨as, has, hp', ?_, ?_⟩
        · rwa [List.append_assoc]
        · rwa [List.append_assoc]

/-- No directory comes twice. -/
theorem nodup_dirKeys {done cs : List Name} (hnames : Names (done ++ cs)) (hdots : NoDots (done ++ cs))
    (hr : Resolves t done cs) : (dirKeys t done cs).Nodup := by
  induction cs generalizing done with
  | nil => exact List.nodup_nil
  | cons c cs ih =>
    obtain ⟨⟨k, hk, -⟩, hrest⟩ := hr
    have hsplit : done ++ c :: cs = (done ++ [c]) ++ cs := by simp
    rw [hsplit] at hnames hdots
    have hpre : done ++ [c] <+: (done ++ [c]) ++ cs := List.prefix_append _ _
    obtain ⟨hdir, hkey⟩ := statDir_noDots (hnames.take hpre) (hdots.take hpre) hk
    rw [dirKeys, List.nodup_cons]
    refine ⟨fun hmem => ?_, ih hnames hdots hrest⟩
    obtain ⟨a, ha, -, hdir', hkey'⟩ := (mem_dirKeys hnames hdots hrest).mp hmem
    rw [keyOf_eq hk, ← hkey] at hkey'
    have heq := t.key_inj _ _ (node_ne_none hdir') (node_ne_none hdir) hkey'
    exact ha (List.append_right_eq_self.mp heq)

/-! ## What the counts are to be -/

/-- The library with this key lies below a directory with that key, which is
not the root. -/
def Under (t : FileTree) (k lib : TrustedLibKey) : Prop :=
  ∃ d p, t.node p = some .file ∧ t.key p = lib ∧ d ≠ [] ∧ d <+: p ∧ t.node d = some .dir ∧ t.key d = k

open Classical in
/-- The number of libraries below a directory. -/
noncomputable def below (t : FileTree) (libs : Finset TrustedLibKey) (k : TrustedLibKey) : Nat :=
  (libs.filter (Under t k)).card

/-- A library that can be trusted: each directory on its way has a key that is
not zero. -/
def Countable (t : FileTree) (lib : TrustedLibKey) (ds : List Name) : Prop :=
  (∃ name, t.node (ds ++ [name]) = some .file ∧ t.key (ds ++ [name]) = lib) ∧ Names ds ∧ NoDots ds ∧
    Resolves t [] ds

theorem Countable.under {lib k : TrustedLibKey} {ds : List Name} (h : Countable t lib ds) :
    Under t k lib ↔ k ∈ dirKeys t [] ds := by
  obtain ⟨⟨name, hfile, hkey⟩, hnames, hdots, hr⟩ := h
  rw [@mem_dirKeys t [] ds hnames hdots hr]
  constructor
  · rintro ⟨d, p, hfile', hkey', hd, hp, hdir, hk⟩
    have heq : p = ds ++ [name] :=
      t.key_inj _ _ (node_ne_none hfile') (node_ne_none hfile) (hkey'.trans hkey.symm)
    rw [heq] at hp
    -- the file itself is no directory
    have hne : d ≠ ds ++ [name] := by
      intro he
      rw [he, hfile] at hdir
      cases hdir
    exact ⟨d, hd, (List.prefix_concat_iff.mp hp).resolve_left hne, hdir, hk⟩
  · rintro ⟨a, ha, hp, hdir, hk⟩
    exact ⟨a, ds ++ [name], hfile, hkey, ha, hp.trans (List.prefix_append _ _), hdir, hk⟩

theorem Countable.count {lib : TrustedLibKey} {ds : List Name} (h : Countable t lib ds)
    (k : TrustedLibKey) [Decidable (Under t k lib)] :
    (dirKeys t [] ds).count k = if Under t k lib then 1 else 0 := by
  obtain ⟨-, hnames, hdots, hr⟩ := id h
  rw [List.Nodup.count (@nodup_dirKeys t [] ds hnames hdots hr)]
  simp only [h.under]

/-- One more library. -/
theorem below_insert {libs : Finset TrustedLibKey} {lib : TrustedLibKey} (hnew : lib ∉ libs)
    {ds : List Name}
    (h : Countable t lib ds) (k : TrustedLibKey) :
    below t (insert lib libs) k = below t libs k + (dirKeys t [] ds).count k := by
  classical
  unfold below
  rw [h.count k, Finset.filter_insert]
  by_cases hu : Under t k lib
  · rw [if_pos hu, if_pos hu, Finset.card_insert_of_notMem]
    exact fun hm => hnew (Finset.mem_of_mem_filter _ hm)
  · rw [if_neg hu, if_neg hu, Nat.add_zero]

/-- One library less. -/
theorem below_erase {libs : Finset TrustedLibKey} {lib : TrustedLibKey} (hmem : lib ∈ libs)
    {ds : List Name}
    (h : Countable t lib ds) (k : TrustedLibKey) :
    below t (libs.erase lib) k = below t libs k - (dirKeys t [] ds).count k := by
  have hins := below_insert (Finset.notMem_erase lib libs) h k
  rw [Finset.insert_erase hmem] at hins
  omega

/-! ## What the calls do -/

/-- The library whose entry a call gets to change. -/
def reaches (t : FileTree) (f : Faults) (path : Bytes) : Option TrustedLibKey :=
  match f.stat, f.libs, statRegularFileNofollow t path with
  | none, none, .ok key => if key.isZero then none else some key
  | _, _, _ => none

section
variable {f : Faults} {path : Bytes} {s : Loader} {libs : Finset TrustedLibKey} {lib : TrustedLibKey}

theorem reaches_some (h : reaches t f path = some lib) :
    f.stat = none ∧ f.libs = none ∧ statRegularFileNofollow t path = .ok lib ∧ lib.isZero = false := by
  unfold reaches at h
  split at h
  · rename_i hstat hlibs hkey
    split at h
    · cases h
    · rename_i hz
      cases h
      exact ⟨hstat, hlibs, hkey, by simpa using hz⟩
  · cases h

theorem bpfLoaderTrustLib_reaches (hl : s.loaded = true) (hlibs : s.trustedLibs = some libs)
    (h : reaches t f path = some lib) :
    bpfLoaderTrustLib t f s path =
      match updateTrustedParentMountpoints t s.trustedLibMnt path true f.dir f.undo with
      | (mnt, .ok ()) =>
        ({ s with trustedLibs := some (insert lib libs), trustedLibMnt := mnt }, .ok ())
      | (mnt, .error e) =>
        ({ s with
            trustedLibs := some (match f.undoLib with
              | some _ => insert lib libs
              | none => (insert lib libs).erase lib)
            trustedLibMnt := mnt }, .error e) := by
  obtain ⟨hstat, hf, hkey, hz⟩ := reaches_some h
  simp only [bpfLoaderTrustLib, hl, hlibs, hstat, hf, hkey, hz, Bool.true_eq_false,
    Bool.false_eq_true, if_false]

theorem bpfLoaderUntrustLib_reaches (hl : s.loaded = true) (hlibs : s.trustedLibs = some libs)
    (h : reaches t f path = some lib) :
    bpfLoaderUntrustLib t f s path =
      ({ s with
          trustedLibs := some (libs.erase lib)
          trustedLibMnt := (updateTrustedParentMountpoints t s.trustedLibMnt path false
            f.dir f.undo).1 },
        (updateTrustedParentMountpoints t s.trustedLibMnt path false f.dir f.undo).2) := by
  obtain ⟨hstat, hf, hkey, hz⟩ := reaches_some h
  simp only [bpfLoaderUntrustLib, hl, hlibs, hstat, hf, hkey, hz, Bool.true_eq_false,
    Bool.false_eq_true, if_false]

/-- The checks that both calls begin with, before `change`. -/
def checked (t : FileTree) (f : Faults) (s : Loader) (path : Bytes)
    (change : Finset TrustedLibKey → TrustedLibKey → Loader × Except Errno Unit) :
    Loader × Except Errno Unit :=
  if s.loaded = false then (s, .error .einval)
  else match s.trustedLibs with
    | none => (s, .error .enotsup)
    | some libs =>
      match f.stat with
      | some e => (s, .error e)
      | none =>
        match statRegularFileNofollow t path with
        | .error e => (s, .error e)
        | .ok key =>
          if key.isZero then (s, .error .einval)
          else match f.libs with
            | some e => (s, .error e.errno)
            | none => change libs key

/-- A call that does not get that far fails and changes nothing. -/
theorem checked_stops (h : reaches t f path = none) (change : Finset TrustedLibKey → TrustedLibKey →
      Loader × Except Errno Unit) :
    ∃ e, checked t f s path change = (s, .error e) := by
  unfold checked
  by_cases hl : s.loaded = false
  · exact ⟨_, if_pos hl⟩
  rw [if_neg hl]
  cases s.trustedLibs with
  | none => exact ⟨_, rfl⟩
  | some libs =>
    cases hstat : f.stat with
    | some e => exact ⟨_, rfl⟩
    | none =>
      cases hkey : statRegularFileNofollow t path with
      | error e => exact ⟨_, rfl⟩
      | ok key =>
        by_cases hz : key.isZero = true
        · exact ⟨_, if_pos hz⟩
        · cases hf : f.libs with
          | some e => exact ⟨_, if_neg hz⟩
          | none => simp [reaches, hstat, hkey, hf, hz] at h

theorem bpfLoaderTrustLib_stops (h : reaches t f path = none) :
    ∃ e, bpfLoaderTrustLib t f s path = (s, .error e) :=
  checked_stops h _

theorem bpfLoaderUntrustLib_stops (h : reaches t f path = none) :
    ∃ e, bpfLoaderUntrustLib t f s path = (s, .error e) :=
  checked_stops h _

theorem parents_long (add : Bool) (d u : Nat → RefFault) (m : Mnt) (hlong : pathMax ≤ path.length) :
    updateTrustedParentMountpoints t (some m) path add d u = (some m, .error .einval) :=
  if_pos (.inr hlong)

theorem parents_eq (h : statRegularFileNofollow t path = .ok lib) (hshort : path.length < pathMax)
    (add : Bool)
    (d u : Nat → RefFault) (m : Mnt) :
    updateTrustedParentMountpoints t (some m) path add d u =
        (some (updateDirs t add d u m [] (dirComponents path)).1,
          (updateDirs t add d u m [] (dirComponents path)).2) ∧
      (joinPath (dirComponents path)).length < pathMax := by
  obtain ⟨-, hhead, hlast⟩ := statRegular_ok h
  obtain ⟨name, -, hcut, hlen⟩ := path_parts hhead hlast
  have hne : path.length ≠ 0 := by
    intro h0
    rw [List.length_eq_zero_iff.mp h0] at hhead
    cases hhead
  refine ⟨?_, Nat.lt_of_le_of_lt hlen hshort⟩
  simp only [updateTrustedParentMountpoints]
  rw [if_neg (not_or.mpr ⟨hne, Nat.not_le.mpr hshort⟩), if_neg hcut]

/-- What counting up along the path of a library leaves. -/
theorem parents_add {g : TrustedLibKey → Nat} {m : Mnt} (hm : RefCount.Counts m g)
    (h : statRegularFileNofollow t path = .ok lib) (d : Nat → RefFault) :
    (∃ m', updateTrustedParentMountpoints t (some m) path true d (fun _ => .none) = (some m', .ok ()) ∧
        path.length < pathMax ∧ Resolves t [] (dirComponents path) ∧
        RefCount.Counts m' fun k => g k + (dirKeys t [] (dirComponents path)).count k) ∨
      ∃ e, updateTrustedParentMountpoints t (some m) path true d (fun _ => .none) =
      (some m, .error e) := by
  by_cases hlong : pathMax ≤ path.length
  · exact .inr ⟨_, parents_long true d _ m hlong⟩
  have hshort := Nat.not_le.mp hlong
  obtain ⟨heq, hlen⟩ := parents_eq h hshort true d (fun _ => .none) m
  have hm0 : RefCount.Counts m fun k => g k + (dirKeys t [] []).count k := hm
  rw [heq]
  cases hup : updateDirs t true d (fun _ => .none) m [] (dirComponents path) with
  | mk m' r =>
    rcases updateDirs_add hup hm0 trivial hlen with ⟨rfl, hr, hcounts⟩ | ⟨⟨e, rfl⟩, hcounts⟩
    · exact .inl ⟨m', rfl, hshort, hr, hcounts⟩
    · exact .inr ⟨e, by rw [hcounts.unique hm]⟩

/-- Counting down along the path of a library. -/
theorem parents_sub (h : statRegularFileNofollow t path = .ok lib) (hshort : path.length < pathMax)
    (hr : Resolves t [] (dirComponents path)) (u : Nat → RefFault) (m : Mnt) :
    updateTrustedParentMountpoints t (some m) path false (fun _ => .none) u =
      (some ((dirKeys t [] (dirComponents path)).foldl RefCount.decr m), .ok ()) := by
  obtain ⟨heq, hlen⟩ := parents_eq h hshort false (fun _ => .none) u m
  rw [heq, @updateDirs_sub t m u [] (dirComponents path) hr hlen]

theorem updateDirs_sub_zero {d u : Nat → RefFault} {m : Mnt} {done cs : List Name}
    (h0 : ∀ a, a ≠ [] → a <+: cs → RefCount.get m (keyOf t (done ++ a)) = 0) :
    (updateDirs t false d u m done cs).1 = m := by
  induction cs generalizing done with
  | nil => rfl
  | cons c cs ih =>
    rw [updateDirs]
    by_cases hlong : (joinPath (done ++ [c])).length ≥ pathMax
    · rw [if_pos hlong]
    rw [if_neg hlong]
    cases href : updateTrustedMountpointRef t m (joinPath (done ++ [c])) false (d done.length) with
    | error e => rfl
    | ok m' =>
      rw [updateRef_sub_zero (h0 [c] (List.cons_ne_nil _ _) (by simp)) href]
      refine ih fun a ha hp => ?_
      have := h0 (c :: a) (List.cons_ne_nil _ _) (List.cons_prefix_cons.mpr ⟨rfl, hp⟩)
      rwa [List.append_assoc]

/-- Counting down where nothing is counted. -/
theorem parents_sub_zero {d u : Nat → RefFault} {m : Mnt} (h : statRegularFileNofollow t path = .ok lib)
    (h0 : ∀ cs, cs ≠ [] → cs <+: dirComponents path → RefCount.get m (keyOf t cs) = 0) :
    (updateTrustedParentMountpoints t (some m) path false d u).1 = some m := by
  by_cases hlong : pathMax ≤ path.length
  · rw [parents_long false d u m hlong]
  · rw [(parents_eq h (Nat.not_le.mp hlong) false d u m).1, updateDirs_sub_zero h0]

end

/-! ## Over a run -/

inductive Call where
  | trust (path : Bytes)
  | untrust (path : Bytes)

def machine (t : FileTree) : Machine Loader (Call × Faults) (Except Errno Unit) where
  step s i := match i.1 with
    | .trust path => bpfLoaderTrustLib t i.2 s path
    | .untrust path => bpfLoaderUntrustLib t i.2 s path

/-- Freshly loaded maps. -/
def Loader.fresh : Loader := ⟨true, some ∅, some fun _ => none⟩

def Loader.trusts (s : Loader) (lib : TrustedLibKey) : Prop :=
  ∃ libs, s.trustedLibs = some libs ∧ lib ∈ libs

/-- The count that is stored for a directory. -/
def Loader.count (s : Loader) (k : TrustedLibKey) : Nat :=
  match s.trustedLibMnt with
  | none => 0
  | some m => (RefCount.get m k).toNat

/-- What keeps the counts right: a library is trusted once, by a path without
detours, and an update that fails can be undone; and what is untrusted was
trusted, and no step of that fails, or there is nothing to count down. A call
that ends before it reaches the map of libraries is always proper. -/
def Proper (t : FileTree) (s : Loader) (i : Call × Faults) : Prop :=
  match i.1 with
  | .trust path => ∀ lib, reaches t i.2 path = some lib →
      (¬ s.trusts lib ∨ dirComponents path = []) ∧ NoDots (segments slash path) ∧
      (∀ n, i.2.undo n = .none) ∧
        i.2.undoLib = none
  | .untrust path => ∀ lib, reaches t i.2 path = some lib →
      (s.trusts lib ∧ NoDots (segments slash path) ∧ path.length < pathMax ∧ ∀ n, i.2.dir n = .none) ∨
        (¬ s.trusts lib ∧ ∀ cs, cs ≠ [] → cs <+: dirComponents path → s.count (keyOf t cs) = 0)

/-- Every trusted library is a file whose directories are counted, and the
counts are those of the libraries below. -/
def Inv (t : FileTree) (s : Loader) : Prop :=
  ∃ libs m, s = ⟨true, some libs, some m⟩ ∧ (∀ lib ∈ libs, ∃ ds, Countable t lib ds) ∧
    RefCount.Counts m (below t libs)

section
variable {f : Faults} {path : Bytes} {s : Loader} {libs : Finset TrustedLibKey} {m : Mnt}
  {lib : TrustedLibKey}

/-- The path without detours of a file is its place in the tree. -/
theorem file_of_path (h : statRegularFileNofollow t path = .ok lib)
    (hdots : NoDots (segments slash path)) :
    (∃ name, t.node (dirComponents path ++ [name]) = some .file ∧
      t.key (dirComponents path ++ [name]) = lib) ∧
      Names (dirComponents path) ∧ NoDots (dirComponents path) := by
  obtain ⟨⟨p, hw, hfile, hkey⟩, hhead, hlast⟩ := statRegular_ok h
  obtain ⟨name, hsegs, -, -⟩ := path_parts hhead hlast
  have hp : p = dirComponents path ++ [name] := by
    rw [walk_noDots hdots hw, hsegs]
    rfl
  have hpre : dirComponents path <+: segments slash path := by
    rw [hsegs]
    exact List.prefix_append _ _
  refine ⟨⟨name, hp ▸ hfile, hp ▸ hkey⟩, ?_, hdots.take hpre⟩
  exact Names.take (fun c hc => mem_segments hc) hpre

theorem countable_of_path (h : statRegularFileNofollow t path = .ok lib)
    (hdots : NoDots (segments slash path))
    (hr : Resolves t [] (dirComponents path)) : Countable t lib (dirComponents path) := by
  obtain ⟨hfile, hnames, hno⟩ := file_of_path h hdots
  exact ⟨hfile, hnames, hno, hr⟩

/-- A file has one place. -/
theorem Countable.unique (h : statRegularFileNofollow t path = .ok lib)
    (hdots : NoDots (segments slash path))
    {ds : List Name} (hc : Countable t lib ds) : ds = dirComponents path := by
  obtain ⟨⟨name, hfile, hkey⟩, -, -⟩ := file_of_path h hdots
  obtain ⟨⟨name', hfile', hkey'⟩, -⟩ := hc
  have heq := t.key_inj _ _ (node_ne_none hfile') (node_ne_none hfile) (hkey'.trans hkey.symm)
  exact (List.append_inj' heq rfl).1

theorem countable_erase (hl : ∀ l ∈ libs, ∃ ds, Countable t l ds) :
    ∀ l ∈ libs.erase lib, ∃ ds, Countable t l ds :=
  fun l hm => hl l (Finset.mem_of_mem_erase hm)

theorem countable_insert (hl : ∀ l ∈ libs, ∃ ds, Countable t l ds) {ds : List Name}
    (h : Countable t lib ds) : ∀ l ∈ insert lib libs, ∃ ds, Countable t l ds := by
  intro l hm
  rcases Finset.mem_insert.mp hm with rfl | hm
  · exact ⟨ds, h⟩
  · exact hl l hm

theorem trust_inv (hi : Inv t s) (hp : Proper t s (.trust path, f)) :
    Inv t (bpfLoaderTrustLib t f s path).1 := by
  obtain ⟨libs, m, rfl, hl, hc⟩ := hi
  cases hreach : reaches t f path with
  | none =>
    obtain ⟨e, hstop⟩ := bpfLoaderTrustLib_stops (s := ⟨true, some libs, some m⟩) hreach
    rw [hstop]
    exact ⟨libs, m, rfl, hl, hc⟩
  | some lib =>
    obtain ⟨hnew, hdots, hundo, hundoLib⟩ := hp lib hreach
    obtain ⟨-, -, hstat, -⟩ := reaches_some hreach
    have hundo' : f.undo = fun _ => .none := funext hundo
    have hundoLib' : f.undoLib = none := hundoLib
    rw [bpfLoaderTrustLib_reaches rfl rfl hreach]
    simp only [hundo', hundoLib']
    rcases parents_add hc hstat f.dir with ⟨m', hup, -, hr, hcounts⟩ | ⟨e, hup⟩
    · rw [hup]
      have hcount := countable_of_path hstat hdots hr
      refine ⟨insert lib libs, m', rfl, countable_insert hl hcount, ?_⟩
      by_cases hmem : lib ∈ libs
      · -- trusted before, and directly in the root
        have hnil : dirComponents path = [] := hnew.resolve_left fun hno => hno ⟨libs, rfl, hmem⟩
        rw [hnil] at hcounts
        rw [Finset.insert_eq_of_mem hmem]
        simpa [dirKeys] using hcounts
      · have hbelow : (fun k => below t libs k + (dirKeys t [] (dirComponents path)).count k) =
            below t (insert lib libs) :=
          funext fun k => (below_insert hmem hcount k).symm
        rwa [hbelow] at hcounts
    · rw [hup]
      by_cases hmem : lib ∈ libs
      · have hnil : dirComponents path = [] := hnew.resolve_left fun hno => hno ⟨libs, rfl, hmem⟩
        obtain ⟨ds, hcount⟩ := hl lib hmem
        have hds : ds = [] := (hcount.unique hstat hdots).trans hnil
        have hbelow : below t (libs.erase lib) = below t libs := by
          funext k
          rw [below_erase hmem hcount k, hds]
          rfl
        rw [Finset.insert_eq_of_mem hmem]
        refine ⟨libs.erase lib, m, rfl, countable_erase hl, ?_⟩
        rwa [hbelow]
      · rw [Finset.erase_insert hmem]
        exact ⟨libs, m, rfl, hl, hc⟩

theorem untrust_inv (hi : Inv t s) (hp : Proper t s (.untrust path, f)) :
    Inv t (bpfLoaderUntrustLib t f s path).1 := by
  obtain ⟨libs, m, rfl, hl, hc⟩ := hi
  cases hreach : reaches t f path with
  | none =>
    obtain ⟨e, hstop⟩ := bpfLoaderUntrustLib_stops (s := ⟨true, some libs, some m⟩) hreach
    rw [hstop]
    exact ⟨libs, m, rfl, hl, hc⟩
  | some lib =>
    obtain ⟨-, -, hstat, -⟩ := reaches_some hreach
    rw [bpfLoaderUntrustLib_reaches rfl rfl hreach]
    rcases hp lib hreach with ⟨⟨libs', hlibs, hmem⟩, hdots, hshort, hdir⟩ | ⟨hno, hzero⟩
    · cases hlibs
      have hdir' : f.dir = fun _ => .none := funext hdir
      obtain ⟨ds, hcount⟩ := hl lib hmem
      obtain rfl := hcount.unique hstat hdots
      simp only [hdir']
      rw [parents_sub hstat hshort hcount.2.2.2 f.undo m]
      refine ⟨libs.erase lib, _, rfl, countable_erase hl, ?_⟩
      have hbelow : (fun k => below t libs k - (dirKeys t [] (dirComponents path)).count k) =
          below t (libs.erase lib) :=
        funext fun k => (below_erase hmem hcount k).symm
      rw [← hbelow]
      exact hc.foldl_decr _
    · have hmem : lib ∉ libs := fun hm => hno ⟨libs, rfl, hm⟩
      have hzero' : ∀ cs, cs ≠ [] → cs <+: dirComponents path → RefCount.get m (keyOf t cs) = 0 :=
        fun cs hcs hpre => UInt32.toNat_inj.mp (hzero cs hcs hpre)
      rw [parents_sub_zero hstat hzero', Finset.erase_eq_of_notMem hmem]
      exact ⟨libs, m, rfl, hl, hc⟩

/-- **Step.** A proper call keeps the counts. -/
theorem step_inv (s : Loader) (i : Call × Faults) (hi : Inv t s) (hp : Proper t s i) :
    Inv t ((machine t).step s i).1 := by
  obtain ⟨call, f⟩ := i
  cases call with
  | trust path => exact trust_inv hi hp
  | untrust path => exact untrust_inv hi hp

theorem fresh_inv : Inv t Loader.fresh := by
  refine ⟨∅, fun _ => none, rfl, by simp, ?_⟩
  have hzero : below t ∅ = fun _ => 0 := by
    funext k
    simp [below]
  rw [hzero]
  exact .empty

/-- The count of each directory is the number of trusted libraries below it,
but for the root, and nothing else has a count. -/
def Counted (t : FileTree) (s : Loader) : Prop :=
  ∃ libs, s.trustedLibs = some libs ∧
    (∀ d, t.node d = some .dir → d ≠ [] → s.count (t.key d) = below t libs (t.key d)) ∧
    (∀ d, t.node d = some .dir → (s.count (t.key d) ≠ 0 ↔
      d ≠ [] ∧ ∃ p, t.node p = some .file ∧ t.key p ∈ libs ∧ d <+: p)) ∧
    ∀ k, (∀ d, t.node d = some .dir → t.key d ≠ k) → s.count k = 0

theorem under_dir {d : List Name} (hd : t.node d = some .dir) :
    Under t (t.key d) lib ↔ d ≠ [] ∧ ∃ p, t.node p = some .file ∧ t.key p = lib ∧ d <+: p := by
  constructor
  · rintro ⟨d', p, hfile, hkey, hne, hpre, hdir, hk⟩
    obtain rfl := t.key_inj _ _ (node_ne_none hdir) (node_ne_none hd) hk
    exact ⟨hne, p, hfile, hkey, hpre⟩
  · rintro ⟨hne, p, hfile, hkey, hpre⟩
    exact ⟨d, p, hfile, hkey, hne, hpre, hd, rfl⟩

theorem below_ne_zero {k : TrustedLibKey} : below t libs k ≠ 0 ↔ ∃ lib ∈ libs, Under t k lib := by
  classical
  unfold below
  rw [Finset.card_ne_zero]
  constructor
  · rintro ⟨lib, hm⟩
    obtain ⟨hmem, hu⟩ := Finset.mem_filter.mp hm
    exact ⟨lib, hmem, hu⟩
  · rintro ⟨lib, hmem, hu⟩
    exact ⟨lib, Finset.mem_filter.mpr ⟨hmem, hu⟩⟩

theorem Inv.counted (h : Inv t s) : Counted t s := by
  obtain ⟨libs, m, rfl, -, hc⟩ := h
  have hcount : ∀ k, Loader.count ⟨true, some libs, some m⟩ k = below t libs k :=
    fun k => hc.toNat_get k
  refine ⟨libs, rfl, fun d _ _ => hcount _, fun d hd => ?_, fun k hk => ?_⟩
  · rw [hcount, below_ne_zero]
    constructor
    · rintro ⟨lib, hmem, hu⟩
      obtain ⟨hne, p, hfile, hkey, hpre⟩ := (under_dir hd).mp hu
      exact ⟨hne, p, hfile, hkey ▸ hmem, hpre⟩
    · rintro ⟨hne, p, hfile, hmem, hpre⟩
      exact ⟨t.key p, hmem, (under_dir hd).mpr ⟨hne, p, hfile, rfl, hpre⟩⟩
  · rw [hcount]
    by_contra hne
    obtain ⟨lib, -, d, p, -, -, -, -, hdir, hkey⟩ := below_ne_zero.mp hne
    exact hk d hdir hkey

end

/-- **Directory counts.** In every run of proper calls from freshly loaded
maps, each state has the count of every directory at the number of trusted
libraries below it. -/
theorem trusted_dirs_counted (t : FileTree) (is : List (Call × Faults))
    (h : (machine t).AllSteps (Proper t) Loader.fresh is) (pre : List (Call × Faults))
    (hpre : pre <+: is) : Counted t ((machine t).run Loader.fresh pre) := by
  obtain ⟨post, rfl⟩ := hpre
  exact (Machine.run_inv step_inv fresh_inv (Machine.allSteps_append.mp h).1).counted

/-- The tree with the one file `/a/l`. -/
def smallTree : FileTree where
  node p := if p = [] ∨ p = [[97]] then some .dir else if p = [[97], [108]] then some .file else none
  key p := ⟨1, UInt64.ofNat (p.length + 1)⟩
  root := rfl
  parent p c h := by
    by_cases hp : p ++ [c] = [[97]]
    · have hnil : p = [] := (List.append_inj' (show p ++ [c] = [] ++ [[97]] from hp) rfl).1
      rw [hnil]
      rfl
    · by_cases hf : p ++ [c] = [[97], [108]]
      · have hdir : p = [[97]] := (List.append_inj' (show p ++ [c] = [[97]] ++ [[108]] from hf) rfl).1
        rw [hdir]
        rfl
      · simp [hp, hf] at h
  key_inj p q hp hq hk := by
    have hcases : ∀ r : List Name,
        (if r = [] ∨ r = [[97]] then some Node.dir else if r = [[97], [108]] then some .file
        else none) ≠ none → r = [] ∨ r = [[97]] ∨ r = [[97], [108]] := by
      intro r hr
      by_cases h1 : r = [] ∨ r = [[97]]
      · rcases h1 with h1 | h1
        · exact .inl h1
        · exact .inr (.inl h1)
      · rw [if_neg h1] at hr
        by_cases h2 : r = [[97], [108]]
        · exact .inr (.inr h2)
        · exact absurd (if_neg h2) hr
    rcases hcases p hp with rfl | rfl | rfl <;> rcases hcases q hq with rfl | rfl | rfl <;>
      first | rfl | exact absurd hk (by decide)

/-- `/a/l` -/
def smallPath : Bytes := [slash, 97, slash, 108]

theorem trusted_dirs_counted_small :
    (machine smallTree).AllSteps (Proper smallTree) Loader.fresh
    [(.trust smallPath, .none), (.untrust smallPath, .none)] ∧
      Counted smallTree ((machine smallTree).run Loader.fresh [(.trust smallPath, .none)]) := by
  have hall : (machine smallTree).AllSteps (Proper smallTree) Loader.fresh
      [(.trust smallPath, .none), (.untrust smallPath, .none)] := by
    refine ⟨fun lib _ => ⟨.inl ?_, ⟨by decide, by decide⟩, fun _ => rfl, rfl⟩,
      fun lib hreach => .inl ⟨?_, ⟨by decide, by decide⟩, by decide, fun _ => rfl⟩, trivial⟩
    · rintro ⟨libs, hlibs, hmem⟩
      cases hlibs
      exact absurd hmem (Finset.notMem_empty lib)
    · have hlib : lib = ⟨1, 3⟩ := Option.some.inj (hreach.symm.trans (by decide))
      rw [hlib]
      exact ⟨{⟨1, 3⟩}, by decide, Finset.mem_singleton_self _⟩
  exact ⟨hall, trusted_dirs_counted smallTree _ hall _ (by simp)⟩

/-- Trusting a library twice counts its directories twice. -/
theorem trusting_twice_counts_twice :
    ¬ Counted smallTree
    ((machine smallTree).run Loader.fresh [(.trust smallPath, .none), (.trust smallPath, .none)]) := by
  rintro ⟨libs, hlibs, hcount, -⟩
  have hone : libs = {⟨1, 3⟩} := Option.some.inj (hlibs.symm.trans (by decide))
  have htwo :
      ((machine smallTree).run Loader.fresh
        [(.trust smallPath, .none), (.trust smallPath, .none)]).count
      (smallTree.key [[97]]) = 2 := by decide
  have hle : below smallTree libs (smallTree.key [[97]]) ≤ 1 := by
    classical
    rw [hone]
    exact Finset.card_filter_le _ _
  rw [← hcount [[97]] (by decide) (by decide), htwo] at hle
  exact absurd hle (by decide)

end

end Lota.L6.TrustedDirs

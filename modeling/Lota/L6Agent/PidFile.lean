import Lota.Core.Bytes
import Lota.Core.Machine
import Mathlib.Data.Nat.Digits.Defs

/-!
# The PID file: who may run

`main` (`src/agent/main.c`) calls `pidfile_create` before it starts the
daemon and `pidfile_remove` after it. `pidfile_create` (`src/agent/daemon.c`)
opens the path, looks at the file, locks it and writes the PID; every one of
these is a system call of its own, and any number of agents make them at the
same time. A process is a PID here, and one step is one system call.

* `Fs` is the inodes, the inode the path names and what each agent has done;
  `step` is the next system call of one agent, with the error the kernel may
  answer, or the end of the agent, however it ends.
* `Unlinks` says that a step takes the name off a file, `Overlap` that it does
  so while another agent has looked at that file and not closed it yet, or has
  opened it and is still to find one link on it.
* `single_instance`: without an overlap at most one agent is between `flock`
  and `close`, the path names its file and the file holds its PID, whatever
  fails and whoever is killed.
* `two_daemons` is an overlap of `pidfile_remove` with a start, after which
  two agents hold the lock.
-/
namespace Lota.L6.PidFile
open Lota.Core

inductive Errno where
  | notdir | perm | inval | exist | wouldblock | io
  | sys (n : Nat)
  deriving DecidableEq

/-- `struct stat` as `ensure_parent_dir` reads it. -/
structure DirStat where
  isDir : Bool
  worldWritable : Bool
  sticky : Bool
  uid : Nat

/-- `stat` of the parent directory, `none` when it fails, and the errno of
`mkdir` with `EEXIST` left out.
mirrors src/agent/daemon.c:119-151 -/
def ensureParentDir (euid : Nat) (st : Option DirStat) (mkdir : Option Errno) : Except Errno Unit :=
  match st with
  | some st =>
    if !st.isDir then .error .notdir
    else if st.worldWritable && !st.sticky then .error .perm
    else if st.uid != euid && !st.sticky then .error .perm
    else .ok ()
  | none =>
    match mkdir with
    | some e => .error e
    | none => .ok ()

/-- An inode, with the agent that has the `flock`. -/
structure Inode where
  regular : Bool
  nlink : Nat
  uid : Nat
  content : Bytes
  lock : Option Nat
  deriving DecidableEq

/-- Where an agent is. `looked i`: `fstat` has passed. `undo`: the descriptor
is closed and the path is still to be unlinked. `running fd`: in `run_daemon`,
with the descriptor `pidfile_create` returned. `removed i`: `pidfile_remove`
has unlinked the path. `undo` keeps the error that is returned, `none` for a
return value of 0. -/
inductive Pc where
  | idle
  | opened (i : Nat)
  | looked (i : Nat)
  | chmoded (i : Nat)
  | locked (i : Nat)
  | truncated (i : Nat)
  | undo (e : Option Errno)
  | running (fd : Option Nat)
  | removed (i : Nat)
  deriving DecidableEq

structure Fs where
  path : Option Nat
  next : Nat
  inode : Nat → Inode
  pc : Nat → Pc

/-- What one step of an agent meets. `err` is the errno of its system call,
`n` what `write` returns and `errno` what is left in `errno` by a short one;
`dir` and `mkdir` are for `ensure_parent_dir`, and `ended` is the end of the
process at this point, whatever ended it. -/
structure Env where
  euid : Nat
  err : Option Errno := none
  dir : Option DirStat := none
  mkdir : Option Errno := none
  n : Nat := 0
  errno : Option Errno := none
  ended : Bool := false

structure Ev where
  pid : Nat
  env : Env

/-- `"%d\n"` -/
def pidText (pid : Nat) : Bytes :=
  (Nat.digits 10 pid).reverse.map (fun d => UInt8.ofNat (48 + d)) ++ [10]

namespace Fs

def setPc (s : Fs) (p : Nat) (pc : Pc) : Fs := { s with pc := Function.update s.pc p pc }

def setInode (s : Fs) (i : Nat) (n : Inode) : Fs := { s with inode := Function.update s.inode i n }

/-- Closing the descriptor drops the lock if it has it. -/
def close (s : Fs) (p i : Nat) : Fs :=
  if (s.inode i).lock = some p then s.setInode i { s.inode i with lock := none } else s

/-- `unlink(path)` -/
def unlink (s : Fs) : Fs :=
  match s.path with
  | some i => { s.setInode i { s.inode i with nlink := (s.inode i).nlink - 1 } with path := none }
  | none => s

/-- `open(path, O_RDWR | O_CREAT | O_NOFOLLOW, 0600)`: the file the path
names, or a new one. -/
def openat (s : Fs) (euid : Nat) : Fs × Nat :=
  match s.path with
  | some i => (s, i)
  | none =>
    ({ s.setInode s.next ⟨true, 1, euid, [], none⟩ with path := some s.next, next := s.next + 1 },
      s.next)

end Fs

/-- `pidfile_create` has failed: `main` gives up on `EEXIST` and runs without
a PID file on everything else.
mirrors src/agent/main.c:526-537 -/
def failed (e : Errno) : Pc := if e = .exist then .idle else .running none

/-- The file is closed without the lock and the path left alone. -/
def giveUp (s : Fs) (p i : Nat) (e : Errno) : Fs := (s.close p i).setPc p (failed e)

/-- The next system call of agent `p`.
mirrors src/agent/daemon.c:153-243 and src/agent/main.c:526-563 -/
def syscall (s : Fs) (p : Nat) (v : Env) : Fs :=
  match s.pc p with
  | .idle =>
    match ensureParentDir v.euid v.dir v.mkdir, v.err with
    | .error e, _ => s.setPc p (failed e)
    | .ok (), some e => s.setPc p (failed e)
    | .ok (), none => let (t, i) := s.openat v.euid; t.setPc p (.opened i)
  | .opened i =>
    match v.err with
    | some e => giveUp s p i e
    | none =>
      if !(s.inode i).regular || (s.inode i).nlink != 1 then giveUp s p i .inval
      else if (s.inode i).uid != v.euid then giveUp s p i .perm
      else s.setPc p (.looked i)
  | .looked i =>
    match v.err with
    | some e => (s.close p i).setPc p (.undo (some e))
    | none => s.setPc p (.chmoded i)
  | .chmoded i =>
    match v.err with
    | some e => giveUp s p i (if e = .wouldblock then .exist else e)
    | none =>
      if (s.inode i).lock = none then (s.setInode i { s.inode i with lock := some p }).setPc p
        (.locked i)
      else giveUp s p i .exist
  | .locked i =>
    match v.err with
    | some e => (s.close p i).setPc p (.undo (some e))
    | none => (s.setInode i { s.inode i with content := [] }).setPc p (.truncated i)
  | .truncated i =>
    match v.err with
    | some e => (s.close p i).setPc p (.undo (some e))
    | none =>
      let t := s.setInode i { s.inode i with content := (pidText p).take v.n }
      -- a short write does not set `errno`, and `-errno` is returned all the same
      if (pidText p).length ≤ v.n then t.setPc p (.running (some i))
        else (t.close p i).setPc p (.undo v.errno)
  | .undo e => s.unlink.setPc p ((e.map failed).getD (.running none))
  | .running fd =>
    -- `pidfile_remove` unlinks the path with or without a descriptor
    match fd with
    | some i => s.unlink.setPc p (.removed i)
    | none => s.unlink.setPc p .idle
  | .removed i => (s.close p i).setPc p .idle

/-- The file an agent has open. -/
def Pc.file : Pc → Option Nat
  | .opened i | .looked i | .chmoded i | .locked i | .truncated i | .removed i => some i
  | .running fd => fd
  | .idle | .undo _ => none

def step (s : Fs) (ev : Ev) : Fs :=
  if ev.env.ended then
    match (s.pc ev.pid).file with
    | some i => (s.close ev.pid i).setPc ev.pid .idle
    | none => s.setPc ev.pid .idle
  else syscall s ev.pid ev.env

def agents : Machine Fs Ev Unit := ⟨fun s ev => (step s ev, ())⟩

/-! ## Overlaps -/

/-- The agent has looked at file `i` and not closed it, or will still find
one link on it. -/
def Pc.Uses (i nlink : Nat) : Pc → Prop
  | .opened j => j = i ∧ nlink = 2
  | .looked j | .chmoded j | .locked j | .truncated j => j = i
  | .running fd => fd = some i
  | .idle | .undo _ | .removed _ => False

/-- The next system call is `unlink(path)`. -/
def Pc.unlinks : Pc → Bool
  | .undo _ | .running _ => true
  | _ => false

/-- The step is `unlink(path)`. -/
def Unlinks (s : Fs) (ev : Ev) : Prop := ev.env.ended = false ∧ (s.pc ev.pid).unlinks = true

instance (s : Fs) (ev : Ev) : Decidable (Unlinks s ev) := inferInstanceAs (Decidable (_ ∧ _))

/-- The step takes the name off a file that another agent uses. -/
def Overlap (s : Fs) (ev : Ev) : Prop :=
  Unlinks s ev ∧ ∃ i q, s.path = some i ∧ q ≠ ev.pid ∧ (s.pc q).Uses i (s.inode i).nlink

/-- The file an agent has the lock of while its name is to stay. -/
def Pc.holds : Pc → Option Nat
  | .locked i | .truncated i => some i
  | .running fd => fd
  | _ => none

/-- The file an agent has the lock of. -/
def Pc.locks : Pc → Option Nat
  | .removed i => some i
  | pc => pc.holds

/-! ## The invariant -/

/-- What an agent at `pc` can rely on. -/
def Good (s : Fs) (p : Nat) : Pc → Prop
  | .idle | .undo _ | .running none => True
  | .opened i => i < s.next ∧ (s.path = some i ∨ (s.inode i).nlink ≠ 1)
  | .looked i | .chmoded i => i < s.next ∧ s.path = some i
  | .locked i => i < s.next ∧ s.path = some i ∧ (s.inode i).lock = some p
  | .truncated i => i < s.next ∧ s.path = some i ∧ (s.inode i).lock = some p ∧ (s.inode i).content = []
  | .running (some i) => i < s.next ∧ s.path = some i ∧ (s.inode i).lock = some p ∧
    (s.inode i).content = pidText p
  | .removed i => i < s.next ∧ (s.inode i).lock = some p

structure Inv (s : Fs) : Prop where
  named : ∀ i, s.path = some i → i < s.next
  good : ∀ p, Good s p (s.pc p)
  held : ∀ i p, (s.inode i).lock = some p → (s.pc p).locks = some i

/-- The change from `s` to `t` leaves alone what agent `q` relies on. -/
structure Keeps (s t : Fs) (q : Nat) : Prop where
  path : t.path = s.path
  next : t.next = s.next
  nlink : ∀ i, (t.inode i).nlink = (s.inode i).nlink
  mine : ∀ i, (s.inode i).lock = some q → t.inode i = s.inode i

section
variable {s t : Fs} {p q i : Nat} {pc : Pc}

theorem Good.keeps (h : Good s q pc) (k : Keeps s t q) : Good t q pc := by
  cases pc with
  | idle => trivial
  | undo e => trivial
  | opened j => exact ⟨k.next ▸ h.1, by rw [k.path, k.nlink]; exact h.2⟩
  | looked j => exact ⟨k.next ▸ h.1, k.path.trans h.2⟩
  | chmoded j => exact ⟨k.next ▸ h.1, k.path.trans h.2⟩
  | locked j =>
    have hj := k.mine j h.2.2
    exact ⟨k.next ▸ h.1, k.path.trans h.2.1, hj ▸ h.2.2⟩
  | truncated j =>
    have hj := k.mine j h.2.2.1
    exact ⟨k.next ▸ h.1, k.path.trans h.2.1, hj ▸ h.2.2⟩
  | running fd =>
    cases fd with
    | none => trivial
    | some j =>
      have hj := k.mine j h.2.2.1
      exact ⟨k.next ▸ h.1, k.path.trans h.2.1, hj ▸ h.2.2⟩
  | removed j => exact ⟨k.next ▸ h.1, k.mine j h.2 ▸ h.2⟩

/-- An agent that has a lock is the one the inode names. -/
theorem Good.lock (h : Good s p pc) (hl : pc.locks = some i) : (s.inode i).lock = some p := by
  cases pc with
  | idle | undo e | opened j | looked j | chmoded j => exact nomatch hl
  | locked j => cases hl; exact h.2.2
  | truncated j => cases hl; exact h.2.2.1
  | running fd =>
    cases fd with
    | none => exact nomatch hl
    | some j => cases hl; exact h.2.2.1
  | removed j => cases hl; exact h.2

theorem Good.path (h : Good s p pc) (hl : pc.holds = some i) : s.path = some i := by
  cases pc with
  | idle | undo e | opened j | looked j | chmoded j | removed j => exact nomatch hl
  | locked j => cases hl; exact h.2.1
  | truncated j => cases hl; exact h.2.1
  | running fd =>
    cases fd with
    | none => exact nomatch hl
    | some j => cases hl; exact h.2.1

@[simp] theorem setPc_path (s : Fs) (p : Nat) (pc : Pc) : (s.setPc p pc).path = s.path := rfl
@[simp] theorem setPc_next (s : Fs) (p : Nat) (pc : Pc) : (s.setPc p pc).next = s.next := rfl
@[simp] theorem setPc_inode (s : Fs) (p : Nat) (pc : Pc) : (s.setPc p pc).inode = s.inode := rfl

theorem setPc_pc (s : Fs) (p q : Nat) (pc : Pc) :
    (s.setPc p pc).pc q = if q = p then pc else s.pc q := by
  unfold Fs.setPc
  simp only [Function.update_apply]

/-- **Step, in general.** The inodes and the path change so that the other
agents keep what they rely on, and agent `p` moves to `pc`. -/
theorem inv_move (h : Inv s) (hpc : t.pc = s.pc) (hother : ∀ q, q ≠ p → Good t q (s.pc q))
    (hnamed : ∀ i, t.path = some i → i < t.next) (hgood : Good t p pc)
    (hheld : ∀ i q, (t.inode i).lock = some q → if q = p then pc.locks = some i
      else (s.inode i).lock = some q) :
    Inv (t.setPc p pc) := by
  refine ⟨hnamed, fun q => ?_, fun i q hl => ?_⟩
  · rw [setPc_pc]
    split
    · rename_i hq
      rw [hq]
      exact hgood.keeps ⟨rfl, rfl, fun _ => rfl, fun _ _ => rfl⟩
    · rename_i hq
      rw [hpc]
      exact (hother q hq).keeps ⟨rfl, rfl, fun _ => rfl, fun _ _ => rfl⟩
  · have hi := hheld i q hl
    rw [setPc_pc]
    split
    · rename_i hq; rwa [if_pos hq] at hi
    · rename_i hq
      rw [if_neg hq] at hi
      rw [hpc]
      exact h.held i q hi

/-- The agent moves and nothing else does. -/
theorem inv_walk (h : Inv s) (hgood : Good s p pc) (hlocks : pc.locks = (s.pc p).locks) :
    Inv (s.setPc p pc) := by
  refine inv_move h rfl (fun q _ => h.good q) h.named hgood fun i q hl => ?_
  split
  · rename_i hq
    rw [hlocks]
    exact h.held i p (hq ▸ hl)
  · exact hl

theorem good_of_no_file (h : pc.file = none) : Good s p pc := by
  cases pc with
  | idle | undo e => trivial
  | running fd =>
    cases fd with
    | none => trivial
    | some j => exact nomatch h
  | opened j | looked j | chmoded j | locked j | truncated j | removed j => exact nomatch h

theorem locks_file (h : pc.locks = some i) : pc.file = some i := by
  cases pc with
  | idle | undo e | opened j | looked j | chmoded j => exact nomatch h
  | locked j | truncated j | running fd | removed j => exact h

theorem close_pc (s : Fs) (p i : Nat) : (s.close p i).pc = s.pc := by
  unfold Fs.close
  split <;> rfl

theorem close_lock (s : Fs) (p i j : Nat) :
    ((s.close p i).inode j).lock = if j = i ∧ (s.inode i).lock = some p
    then none else (s.inode j).lock := by
  unfold Fs.close
  by_cases hl : (s.inode i).lock = some p
  · by_cases hj : j = i
    · subst hj
      simp [Fs.setInode, hl]
    · simp [Fs.setInode, hl, hj]
  · simp [hl]

theorem close_keeps (hq : q ≠ p) (i : Nat) : Keeps s (s.close p i) q := by
  unfold Fs.close
  split
  · rename_i hl
    refine ⟨rfl, rfl, fun j => ?_, fun j hj => ?_⟩
    · by_cases hji : j = i
      · subst hji; simp [Fs.setInode]
      · simp [Fs.setInode, hji]
    · have hji : j ≠ i := by
        rintro rfl
        rw [hl] at hj
        exact hq (Option.some.inj hj).symm
      simp [Fs.setInode, hji]
  · exact ⟨rfl, rfl, fun _ => rfl, fun _ _ => rfl⟩

/-- The agent closes its file. -/
theorem inv_close (h : Inv s) (hfile : (s.pc p).file = some i) (hpc : pc.file = none) :
    Inv ((s.close p i).setPc p pc) := by
  refine inv_move h (close_pc s p i) (fun q hq => (h.good q).keeps (close_keeps hq i)) (fun j hj => ?_)
    (good_of_no_file hpc) fun j q hl => ?_
  · have hk := close_keeps (s := s) (Nat.succ_ne_self p) i
    rw [hk.next]
    exact h.named j (hk.path ▸ hj)
  · rw [close_lock] at hl
    split at hl
    · exact nomatch hl
    · rename_i hne
      split
      · rename_i hq
        -- the lock would be that of another file than the one closed
        subst hq
        have hj := locks_file (h.held j q hl)
        rw [hfile] at hj
        obtain rfl := Option.some.inj hj
        exact absurd ⟨rfl, hl⟩ hne
      · exact hl

theorem failed_no_file (e : Errno) : (failed e).file = none := by
  unfold failed
  split <;> rfl

theorem inv_giveUp (h : Inv s) (hfile : (s.pc p).file = some i) (e : Errno) : Inv (giveUp s p i e) :=
  inv_close h hfile (failed_no_file e)

/-- An agent without the lock, or before it takes one, that no file depends
on. -/
theorem inv_leave (h : Inv s) (hlocks : (s.pc p).locks = none) (hpc : pc.file = none) :
    Inv (s.setPc p pc) := by
  refine inv_walk h (good_of_no_file hpc) ?_
  rw [hlocks]
  by_contra hne
  obtain ⟨i, hi⟩ := Option.ne_none_iff_exists'.mp hne
  rw [locks_file hi] at hpc
  exact nomatch hpc

/-- The agent that has the lock of a file rewrites it. -/
theorem inv_write (h : Inv s) (hl : (s.pc p).locks = some i) (bs : Bytes)
    (hgood : Good (s.setInode i { s.inode i with content := bs }) p pc) (hlocks : pc.locks = some i) :
    Inv ((s.setInode i { s.inode i with content := bs }).setPc p pc) := by
  have hmine := (h.good p).lock hl
  have hlock : ∀ j, ((s.setInode i { s.inode i with content := bs }).inode j).lock =
    (s.inode j).lock := by
    intro j
    by_cases hj : j = i
    · subst hj; simp [Fs.setInode]
    · simp [Fs.setInode, hj]
  refine inv_move h rfl (fun q hq => (h.good q).keeps ⟨rfl, rfl, fun j => ?_, fun j hj => ?_⟩)
    h.named hgood fun j q hj => ?_
  · by_cases hji : j = i
    · subst hji; simp [Fs.setInode]
    · simp [Fs.setInode, hji]
  · have hji : j ≠ i := by
      rintro rfl
      rw [hmine] at hj
      exact hq (Option.some.inj hj).symm
    simp [Fs.setInode, hji]
  · rw [hlock] at hj
    split
    · rename_i hq
      subst hq
      have hji := h.held j q hj
      rw [hl] at hji
      rw [hlocks, hji]
    · exact hj

/-- `flock` succeeds on a file nobody has locked. -/
theorem inv_flock (h : Inv s) (hpc : s.pc p = .chmoded i) (hfree : (s.inode i).lock = none) :
    Inv ((s.setInode i { s.inode i with lock := some p }).setPc p (.locked i)) := by
  have hg := h.good p
  rw [hpc] at hg
  have hnone : (s.pc p).locks = none := by rw [hpc]; rfl
  refine inv_move h rfl (fun q hq => (h.good q).keeps ⟨rfl, rfl, fun j => ?_, fun j hj => ?_⟩) h.named
    ⟨hg.1, hg.2, by simp [Fs.setInode]⟩ fun j q hj => ?_
  · by_cases hji : j = i
    · subst hji; simp [Fs.setInode]
    · simp [Fs.setInode, hji]
  · have hji : j ≠ i := by
      rintro rfl
      rw [hfree] at hj
      exact nomatch hj
    simp [Fs.setInode, hji]
  · by_cases hji : j = i
    · subst hji
      simp only [Fs.setInode, Function.update_self, Option.some.injEq] at hj
      rw [if_pos hj.symm]
      rfl
    · simp only [Fs.setInode, Function.update_of_ne hji] at hj
      have hqp : q ≠ p := by
        rintro rfl
        have := h.held j q hj
        rw [hnone] at this
        exact nomatch this
      rw [if_neg hqp]
      exact hj

/-- `open` of the path. -/
theorem inv_open (h : Inv s) (hpc : s.pc p = .idle) (euid : Nat) :
    Inv ((s.openat euid).1.setPc p (.opened (s.openat euid).2)) := by
  have hnone : (s.pc p).locks = none := by rw [hpc]; rfl
  unfold Fs.openat
  cases hpath : s.path with
  | some i => exact inv_walk h ⟨h.named i hpath, .inl hpath⟩ (by rw [hnone]; rfl)
  | none =>
    have hfresh : ∀ j, j < s.next →
        Function.update s.inode s.next ⟨true, 1, euid, [], none⟩ j = s.inode j :=
      fun j hj => Function.update_of_ne (Nat.ne_of_lt hj) _ _
    refine inv_move h rfl (fun q _ => ?_) (fun j hj => ?_) ⟨Nat.lt_succ_self _, .inl rfl⟩
      fun j q hj => ?_
    · -- nobody uses a file, for the path names none
      have hg := h.good q
      cases hq : s.pc q with
      | idle | undo e => trivial
      | opened j =>
        rw [hq] at hg
        refine ⟨Nat.lt_succ_of_lt hg.1, .inr ?_⟩
        show (Function.update s.inode s.next _ j).nlink ≠ 1
        rw [hfresh j hg.1]
        exact hg.2.resolve_left (by rw [hpath]; exact nofun)
      | looked j | chmoded j => rw [hq] at hg; exact absurd (hpath.symm.trans hg.2) nofun
      | locked j | truncated j => rw [hq] at hg; exact absurd (hpath.symm.trans hg.2.1) nofun
      | running fd =>
        cases fd with
        | none => trivial
        | some j => rw [hq] at hg; exact absurd (hpath.symm.trans hg.2.1) nofun
      | removed j =>
        rw [hq] at hg
        refine ⟨Nat.lt_succ_of_lt hg.1, ?_⟩
        show (Function.update s.inode s.next _ j).lock = some q
        rw [hfresh j hg.1]
        exact hg.2
    · cases hj
      exact Nat.lt_succ_self _
    · by_cases hjn : j = s.next
      · subst hjn
        simp [Fs.setInode] at hj
      · simp only [Fs.setInode, Function.update_of_ne hjn] at hj
        have hqp : q ≠ p := by
          rintro rfl
          have := h.held j q hj
          rw [hnone] at this
          exact nomatch this
        rw [if_neg hqp]
        exact hj

theorem unlink_lock (s : Fs) (j : Nat) : (s.unlink.inode j).lock = (s.inode j).lock := by
  unfold Fs.unlink
  split
  · rename_i i _
    by_cases hj : j = i
    · subst hj; simp [Fs.setInode]
    · simp [Fs.setInode, hj]
  · rfl

theorem unlink_pc (s : Fs) : s.unlink.pc = s.pc := by
  unfold Fs.unlink
  split <;> rfl

theorem unlink_path (s : Fs) : s.unlink.path = none := by
  unfold Fs.unlink
  split
  · rfl
  · assumption

/-- `unlink` of the path, when no other agent uses the file. -/
theorem good_unlink (hg : Good s q pc) (hfree : ∀ i, s.path = some i → ¬ pc.Uses i (s.inode i).nlink) :
    Good s.unlink q pc := by
  unfold Fs.unlink
  cases hpath : s.path with
  | none => exact hg
  | some i =>
    have hf := hfree i hpath
    cases pc with
    | idle | undo e => trivial
    | opened j =>
      refine ⟨hg.1, .inr ?_⟩
      by_cases hj : j = i
      · subst hj
        have h2 : (s.inode j).nlink ≠ 2 := fun h2 => hf ⟨rfl, h2⟩
        simp only [Fs.setInode, Function.update_self]
        omega
      · simp only [Fs.setInode, Function.update_of_ne hj]
        refine hg.2.resolve_left fun hp => hj ?_
        rw [hpath] at hp
        exact (Option.some.inj hp).symm
    | looked j | chmoded j => exact absurd (Option.some.inj (hg.2.symm.trans hpath)) hf
    | locked j | truncated j => exact absurd (Option.some.inj (hg.2.1.symm.trans hpath)) hf
    | running fd =>
      cases fd with
      | none => trivial
      | some j => exact absurd (hg.2.1.symm.trans hpath) hf
    | removed j =>
      refine ⟨hg.1, ?_⟩
      by_cases hj : j = i
      · subst hj
        simpa [Fs.setInode] using hg.2
      · simpa [Fs.setInode, hj] using hg.2

theorem inv_unlink (h : Inv s)
    (hfree : ∀ i q, s.path = some i → q ≠ p → ¬ (s.pc q).Uses i (s.inode i).nlink)
    (hgood : Good s.unlink p pc) (hlocks : pc.locks = (s.pc p).locks) : Inv (s.unlink.setPc p pc) := by
  refine inv_move h (unlink_pc s) (fun q hq => good_unlink (h.good q) fun i hi => hfree i q hi hq)
    (fun i hi => ?_) hgood fun i q hl => ?_
  · rw [unlink_path] at hi
    exact nomatch hi
  · rw [unlink_lock] at hl
    split
    · rename_i hq
      rw [hlocks]
      exact h.held i p (hq ▸ hl)
    · exact hl

end

/-! ## Runs -/

/-- One system call, when it takes no name off a file another agent uses. -/
theorem inv_syscall {s : Fs} (h : Inv s) (p : Nat) (v : Env)
    (hfree : ∀ fd e, s.pc p = .running fd ∨ s.pc p = .undo e → ∀ i q, s.path = some i → q ≠ p →
      ¬ (s.pc q).Uses i (s.inode i).nlink) :
    Inv (syscall s p v) := by
  have hg := h.good p
  unfold syscall
  cases hpc : s.pc p with
  | idle =>
    have hnone : (s.pc p).locks = none := by rw [hpc]; rfl
    dsimp only
    split
    · exact inv_leave h hnone (failed_no_file _)
    · exact inv_leave h hnone (failed_no_file _)
    · exact inv_open h hpc v.euid
  | opened i =>
    rw [hpc] at hg
    have hfile : (s.pc p).file = some i := by rw [hpc]; rfl
    dsimp only
    split
    · exact inv_giveUp h hfile _
    · split
      · exact inv_giveUp h hfile _
      · rename_i hst
        split
        · exact inv_giveUp h hfile _
        · -- one link is left, so it is the path's
          have hone : (s.inode i).nlink = 1 := by
            by_contra hne
            exact hst (by simp [hne])
          exact inv_walk h ⟨hg.1, hg.2.resolve_right fun hne => hne hone⟩ (by rw [hpc]; rfl)
  | looked i =>
    rw [hpc] at hg
    dsimp only
    split
    · exact inv_close h (by rw [hpc]; rfl) rfl
    · exact inv_walk h hg (by rw [hpc]; rfl)
  | chmoded i =>
    have hfile : (s.pc p).file = some i := by rw [hpc]; rfl
    dsimp only
    split
    · exact inv_giveUp h hfile _
    · split
      · rename_i hfree
        exact inv_flock h hpc hfree
      · exact inv_giveUp h hfile _
  | locked i =>
    rw [hpc] at hg
    have hl : (s.pc p).locks = some i := by rw [hpc]; rfl
    dsimp only
    split
    · exact inv_close h (by rw [hpc]; rfl) rfl
    · exact inv_write h hl []
        ⟨hg.1, hg.2.1, by simpa [Fs.setInode] using hg.2.2, by simp [Fs.setInode]⟩ rfl
  | truncated i =>
    rw [hpc] at hg
    have hl : (s.pc p).locks = some i := by rw [hpc]; rfl
    dsimp only
    split
    · exact inv_close h (by rw [hpc]; rfl) rfl
    · split
      · rename_i hn
        refine inv_write h hl _ ⟨hg.1, hg.2.1, ?_, ?_⟩ rfl
        · simpa [Fs.setInode] using hg.2.2.1
        · simpa [Fs.setInode] using hn
      · -- a short write, then the descriptor is closed
        rename_i hn
        set bs := (pidText p).take v.n
        have hw : Inv ((s.setInode i { s.inode i with content := bs }).setPc p (.locked i)) := by
          refine inv_write h hl bs ⟨hg.1, hg.2.1, ?_⟩ rfl
          simpa [Fs.setInode] using hg.2.2.1
        have hc :
            Inv ((((s.setInode i { s.inode i with content := bs }).setPc p (.locked i)).close p
              i).setPc p (.undo v.errno)) :=
          inv_close hw (by rw [setPc_pc, if_pos rfl]; rfl) rfl
        convert hc using 1
        unfold Fs.close
        split <;> simp_all [Fs.setPc, Fs.setInode]
  | undo e =>
    refine inv_unlink h (hfree none e (.inr hpc)) (good_of_no_file ?_) ?_
    · cases e with
      | none => rfl
      | some e => exact failed_no_file e
    · rw [hpc]
      cases e with
      | none => rfl
      | some e => show (failed e).locks = none; unfold failed; split <;> rfl
  | running fd =>
    rw [hpc] at hg
    cases fd with
    | none => exact inv_unlink h (hfree none none (.inl hpc)) trivial (by rw [hpc]; rfl)
    | some i =>
      refine inv_unlink h (hfree (some i) none (.inl hpc)) ⟨?_, ?_⟩ (by rw [hpc]; rfl)
      · unfold Fs.unlink
        split <;> exact hg.1
      · rw [unlink_lock]
        exact hg.2.2.1
  | removed i => exact inv_close h (by rw [hpc]; rfl) rfl

/-- **Step.** Without an overlap the invariant is kept, whatever fails and
wherever a process ends. -/
theorem inv_step {s : Fs} (h : Inv s) (ev : Ev) (hclean : ¬ Overlap s ev) : Inv (step s ev) := by
  unfold step
  split
  · -- the process ends: its descriptor is closed with it
    cases hf : (s.pc ev.pid).file with
    | some i => exact inv_close h hf rfl
    | none =>
      refine inv_leave h ?_ rfl
      by_contra hne
      obtain ⟨i, hi⟩ := Option.ne_none_iff_exists'.mp hne
      rw [locks_file hi] at hf
      exact nomatch hf
  · rename_i hrun
    refine inv_syscall h ev.pid ev.env fun fd e hpc i q hi hq huses =>
      hclean ⟨⟨by simpa using hrun, ?_⟩, i, q, hi, hq, huses⟩
    rcases hpc with hpc | hpc <;> rw [hpc] <;> rfl

/-- No agent runs and the path names any file, or none. -/
structure Booted (s : Fs) : Prop where
  named : ∀ i, s.path = some i → i < s.next
  idle : ∀ p, s.pc p = .idle
  free : ∀ i, (s.inode i).lock = none

theorem Booted.inv {s : Fs} (h : Booted s) : Inv s := by
  refine ⟨h.named, fun p => ?_, fun i p hl => ?_⟩
  · rw [h.idle p]
    trivial
  · rw [h.free i] at hl
    exact nomatch hl

theorem run_inv {s : Fs} (h : Booted s) {evs : List Ev}
    (hclean : agents.AllSteps (fun s ev => ¬ Overlap s ev) s evs) : Inv (agents.run s evs) :=
  Machine.run_inv (J := Inv) (fun _ ev hi hc => inv_step hi ev hc) h.inv hclean

/-- **One agent.** Any number of agents start, stop, fail and are killed in
any order of their system calls. As long as no agent takes the name off a
file another one uses, at most one of them has the lock of the file the path
names, no other file is held, and the file of an agent that runs holds its
PID. -/
theorem single_instance {s : Fs} (hboot : Booted s) {evs : List Ev}
    (hclean : agents.AllSteps (fun s ev => ¬ Overlap s ev) s evs) :
    (∀ p i, ((agents.run s evs).pc p).holds = some i →
      (agents.run s evs).path = some i ∧ ((agents.run s evs).inode i).lock = some p ∧
      ∀ q j, ((agents.run s evs).pc q).holds = some j → q = p ∧ j = i) ∧
    ∀ p i, (agents.run s evs).pc p = .running (some i) →
    ((agents.run s evs).inode i).content = pidText p := by
  have hinv := run_inv hboot hclean
  have hlock : ∀ p i, ((agents.run s evs).pc p).holds = some i →
      ((agents.run s evs).inode i).lock = some p := by
    intro p i hp
    refine (hinv.good p).lock ?_
    cases hpc : (agents.run s evs).pc p with
    | removed j => rw [hpc] at hp; exact nomatch hp
    | _ => rw [hpc] at hp; exact hp
  refine ⟨fun p i hp => ⟨(hinv.good p).path hp, hlock p i hp, fun q j hq => ?_⟩, fun p i hp => ?_⟩
  · -- both files are the one the path names, and an inode has one lock
    have hij : j = i := Option.some.inj (((hinv.good q).path hq).symm.trans ((hinv.good p).path hp))
    subst hij
    exact ⟨Option.some.inj ((hlock q j hq).symm.trans (hlock p j hp)), rfl⟩
  · have hg := hinv.good p
    rw [hp] at hg
    exact hg.2.2.2

/-- The parent directory is root's, and the PID has one digit. -/
def ok : Env := { euid := 0, dir := some ⟨true, false, false, 0⟩, n := 2 }

/-- `n` system calls of agent `p` that all succeed. -/
def calls (p n : Nat) : List Ev := List.replicate n ⟨p, ok⟩

def booted : Fs := ⟨none, 0, fun _ => ⟨false, 0, 0, [], none⟩, fun _ => .idle⟩

/-- Agent 7 starts, agent 8 finds the lock taken, agent 7 is killed and agent
9 starts on the file that 7 left. -/
def restart : List Ev := calls 7 6 ++ calls 8 4 ++ [⟨7, { ok with ended := true }⟩] ++ calls 9 6

theorem booted_ok : Booted booted := ⟨(fun _ h => nomatch h), fun _ => rfl, fun _ => rfl⟩

theorem single_instance_restart :
    agents.AllSteps (fun s ev => ¬ Overlap s ev) booted restart ∧
    (agents.run booted restart).pc 9 = .running (some 0) ∧
    (agents.run booted restart).path = some 0 ∧
    ((agents.run booted restart).inode 0).content = pidText 9 := by
  have hclean : agents.AllSteps (fun s ev => ¬ Overlap s ev) booted restart := by
    have h : agents.AllSteps (fun s ev => ¬ Unlinks s ev) booted restart := by decide
    exact Machine.allSteps_mono (fun s ev hu ho => hu ho.1) h
  have h9 : (agents.run booted restart).pc 9 = .running (some 0) := by decide
  have hone := single_instance booted_ok hclean
  exact ⟨hclean, h9, (hone.1 9 0 (by rw [h9]; rfl)).1, hone.2 9 0 h9⟩

/-- Agent 8 has opened the file of agent 7 when 7 removes it. 8 locks the file
without a name, and agent 9 makes a new one. -/
def overlapped : List Ev := calls 7 6 ++ calls 8 3 ++ calls 7 2 ++ calls 8 3 ++ calls 9 6

/-- **Two agents.** `pidfile_create` does not look at the path again after
`flock`, so an overlap lets two agents run with the lock. -/
theorem two_daemons : (agents.run booted overlapped).pc 8 = .running (some 0) ∧
    (agents.run booted overlapped).pc 9 = .running (some 1) := by
  decide

end Lota.L6.PidFile

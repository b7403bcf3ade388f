import Lota.Core.CrashFs
import Lota.Core.Machine

/-!
# The state files: replaced as a whole, across crashes

The agent and the Wine hook keep small files: the certificate and the
enrollment state, the clock state, the AIK auth value in two spellings, the AIK
metadata, the token. Seven functions write them, all the same way: a temporary
file beside the target, `write`, `fsync`, `close`, `rename`. They differ in
what they check and in whether the directory is synced after the `rename`.

* `Style` is what a function does of this, `advance` is its next system call.
* `step` is one system call of one of any number of writers, an `open` or a
  `read` of a reader, the end of a writer, or a crash of the machine.
* `Alone` is the condition of the two functions that have one fixed name for
  the temporary file: nobody else is writing.
* `Matches` takes an output to what happens to the register of `Core.CrashFs`,
  and `inv_run` is the refinement: the file is that register.
* `replace_atomic`: the file and every open reader see a whole record, until a
  crash the last one renamed, and a record is not lost once the directory is
  synced.

A directory reaches the disk in the order of its changes. The arguments a
function refuses and `mkdirs` come before the first step.
-/
namespace Lota.L6.StateFiles
open Lota.Core CrashFs

inductive Errno where
  | io
  | sys (n : Nat)
  deriving DecidableEq

/-- The file and the temporary names beside it. -/
inductive Name where
  | path
  | temp (k : Nat)
  deriving DecidableEq

/-- How a function replaces its file. `fixedTmp`: the temporary file is
`"%s.tmp"`, opened with `O_CREAT | O_TRUNC`, and otherwise
`mkstemp("%s.tmp.XXXXXX")`. `loop`: `write` is called until everything is
written, and otherwise once. `keepErrno`: a `write` that fails returns its
errno and not `EIO`. `closeChecked`: `close` may fail. `parentSync`:
`fsync_parent_dir` follows the `rename`. -/
structure Style where
  fixedTmp : Bool
  fchmod : Bool
  loop : Bool
  keepErrno : Bool
  closeChecked : Bool
  parentSync : Bool

/-- mirrors src/agent/enroll_client.c:62-106 -/
def writeFileAtomic : Style :=
  { fixedTmp := true, fchmod := false, loop := true, keepErrno := true, closeChecked := true,
    parentSync := false }

/-- mirrors src/agent/enroll_state.c:22-64 -/
def stateWriteAtomic : Style :=
  { fixedTmp := true, fchmod := false, loop := true, keepErrno := true, closeChecked := true,
    parentSync := false }

/-- mirrors src/agent/tpm.c:1851-1909 -/
def tpmClockStateSave : Style :=
  { fixedTmp := false, fchmod := true, loop := false, keepErrno := false, closeChecked := false,
    parentSync := false }

/-- mirrors src/agent/tpm.c:3187-3260 -/
def tpmAikSaveAuthPlaintext : Style :=
  { fixedTmp := false, fchmod := true, loop := false, keepErrno := false, closeChecked := false,
    parentSync := true }

/-- mirrors src/agent/tpm.c:3356-3427 -/
def tpmAikSaveAuthSealed : Style :=
  { fixedTmp := false, fchmod := true, loop := false, keepErrno := false, closeChecked := false,
    parentSync := true }

/-- mirrors src/agent/tpm.c:3711-3778 -/
def tpmAikSaveMetadata : Style :=
  { fixedTmp := false, fchmod := false, loop := false, keepErrno := false, closeChecked := false,
    parentSync := true }

/-- mirrors src/sdk/lota_wine_hook.c:367-403 -/
def atomicWrite : Style :=
  { fixedTmp := false, fchmod := false, loop := false, keepErrno := true, closeChecked := false,
    parentSync := false }

/-- The system call a writer makes next. `opened`: `fchmod`. `written`:
`fsync`. `flushed`: `close`. `closed`: `rename`. `renamed`:
`fsync_parent_dir`. `undo`: `unlink(tmp)`, with the error returned after it.
`k` is the temporary name and `i` the inode of the descriptor. -/
inductive Pc where
  | enter
  | opened (k i : Nat)
  | writing (k i off : Nat)
  | written (k i : Nat)
  | flushed (k i : Nat)
  | closed (k i : Nat)
  | renamed
  | undo (k : Nat) (e : Errno)
  deriving DecidableEq

/-- The temporary name a writer has made. -/
def Pc.tmp : Pc → Option Nat
  | .enter | .renamed => none
  | .opened k _ | .writing k _ _ | .written k _ | .flushed k _ | .closed k _ | .undo k _ => some k

structure Writer where
  data : Bytes
  pc : Pc

/-- What a system call returns: a count or a name, or an errno. -/
inductive Sys where
  | ok (n : Nat)
  | err (n : Nat)

inductive Out where
  | quiet
  | replaced (w : Nat) (data : Bytes)
  | synced (w : Nat)
  | failed (w : Nat) (e : Errno)
  | saw (q : Nat) (bs : Bytes)
  | absent (q : Nat)
  | crashed
  deriving DecidableEq

/-- `write` of `chunk` at an offset of a file; a gap reads as zeros. -/
def writeAt (bs : Bytes) (off : Nat) (chunk : Bytes) : Bytes :=
  (bs ++ List.replicate (off - bs.length) 0).take off ++ chunk ++ bs.drop (off + chunk.length)

namespace Style
variable (st : Style)

/-- Where the `while (off < len)` goes on; the others call `write` once. -/
def body (len k i off : Nat) : Pc := if st.loop && len ≤ off then .written k i else .writing k i off

def entered (len k i : Nat) : Pc := if st.fchmod then .opened k i else st.body len k i 0

/-- The next system call of writer `w`: the file system after it, where the
writer is then, `none` once the function has returned. -/
def advance (fs : Fs Name) (w : Nat) (wr : Writer) (r : Sys) : Fs Name × Option Pc × Out :=
  match wr.pc, r with
  | .enter, .err n => (fs, none, .failed w (.sys n))
  | .enter, .ok k =>
    if st.fixedTmp then
      match fs.dir (.temp 0) with
      | some i => (fs.edit i [], some (st.entered wr.data.length 0 i), .quiet)
      | none => (fs.create (.temp 0), some (st.entered wr.data.length 0 fs.next), .quiet)
    -- `O_EXCL`: `mkstemp` tries another name
    else if (fs.dir (.temp k)).isSome then (fs, some .enter, .quiet)
    else (fs.create (.temp k), some (st.entered wr.data.length k fs.next), .quiet)
  | .opened k _, .err n => (fs, some (.undo k (.sys n)), .quiet)
  | .opened k i, .ok _ => (fs, some (st.body wr.data.length k i 0), .quiet)
  | .writing k _ _, .err n => (fs, some (.undo k (if st.keepErrno then .sys n else .io)), .quiet)
  | .writing k i off, .ok n =>
    let chunk := (wr.data.drop off).take n
    let fs' := fs.edit i (writeAt (fs.data i) off chunk)
    if st.loop then (fs', some (st.body wr.data.length k i (off + chunk.length)), .quiet)
    else if chunk.length = wr.data.length then (fs', some (.written k i), .quiet)
    else (fs', some (.undo k .io), .quiet)
  | .written k _, .err n => (fs, some (.undo k (.sys n)), .quiet)
  | .written k i, .ok _ => (fs.fsync i, some (.flushed k i), .quiet)
  | .flushed k i, .err n =>
    (fs, some (if st.closeChecked then .undo k (.sys n) else .closed k i), .quiet)
  | .flushed k i, .ok _ => (fs, some (.closed k i), .quiet)
  | .closed k _, .err n => (fs, some (.undo k (.sys n)), .quiet)
  | .closed k _, .ok _ =>
    match fs.dir (.temp k) with
    | none => (fs, some (.undo k (.sys 2)), .quiet)
    | some _ => (fs.rename (.temp k) .path, if st.parentSync then some .renamed else none,
      .replaced w wr.data)
  | .renamed, .err n => (fs, none, .failed w (.sys n))
  | .renamed, .ok _ => (fs.syncDir, none, .synced w)
  | .undo _ e, .err _ => (fs, none, .failed w e)
  | .undo k e, .ok _ => (fs.unlink (.temp k), none, .failed w e)

end Style

/-- The writers that are under way and the inodes readers have open. -/
structure State where
  fs : Fs Name
  writers : Nat → Option Writer
  readers : Nat → Option Nat

/-- `call`: the function is called. `go`: it makes its next system call.
`kill`: its process ends. `look` opens the file, `take` reads it. `crash`: the
`k`-th state of the directory comes back. -/
inductive Ev where
  | call (w : Nat) (data : Bytes)
  | go (w : Nat) (r : Sys)
  | kill (w : Nat)
  | look (q : Nat)
  | take (q : Nat)
  | crash (k : Nat) (junk : Nat → Bytes)

def step (st : Style) (s : State) : Ev → State × Out
  | .call w data =>
    if (s.writers w).isSome then (s, .quiet)
    else ({ s with writers := Function.update s.writers w (some ⟨data, .enter⟩) }, .quiet)
  | .go w r =>
    match s.writers w with
    | none => (s, .quiet)
    | some wr =>
      let a := st.advance s.fs w wr r
      ({ s with fs := a.1,
                writers := Function.update s.writers w (a.2.1.map fun pc => ⟨wr.data, pc⟩) }, a.2.2)
  | .kill w => ({ s with writers := Function.update s.writers w none }, .quiet)
  | .look q => ({ s with readers := Function.update s.readers q (s.fs.dir .path) }, .quiet)
  | .take q =>
    match s.readers q with
    | none => (s, .absent q)
    | some i => (s, .saw q (s.fs.data i))
  | .crash k junk => (⟨s.fs.crash k junk, fun _ => none, fun _ => none⟩, .crashed)

def machine (st : Style) : Machine State Ev Out := ⟨step st⟩

/-- With the one fixed name, nobody else is writing when a call begins. -/
def Alone (st : Style) (s : State) : Ev → Prop
  | .call _ _ => st.fixedTmp = true → ∀ v, s.writers v = none
  | _ => True

/-- A directory with the file, or without it, and nobody at work. -/
def boot (c : Option Bytes) : State :=
  let dir : Name → Option Nat := fun n => if n = .path then c.map fun _ => 0 else none
  { fs := { dir, dirs := [dir], data := fun _ => c.getD [], synced := fun _ => true, next := 1 }
    writers := fun _ => none
    readers := fun _ => none }

/-! ## What one system call leaves alone -/

/-- Only the temporary name `o` and the inode it leads to change. -/
structure Frame (o : Option Nat) (fs fs' : Fs Name) : Prop where
  names : ∀ k, o ≠ some k → fs'.dir (.temp k) = fs.dir (.temp k)
  bytes : ∀ j, j < fs.next → (∀ k, o = some k → fs.dir (.temp k) ≠ some j) →
    fs'.data j = fs.data j ∧ fs'.synced j = fs.synced j
  own : ∀ k j, o = some k → fs'.dir (.temp k) = some j → fs.dir (.temp k) = some j ∨ fs.next ≤ j
  next : fs.next ≤ fs'.next

section
variable {fs : Fs Name} {k i : Nat}

theorem Frame.rfl' {o : Option Nat} : Frame o fs fs :=
  ⟨fun _ _ => rfl, fun _ _ _ => ⟨rfl, rfl⟩, fun _ _ _ h => .inl h, Nat.le_refl _⟩

theorem Frame.syncDir {o : Option Nat} : Frame o fs fs.syncDir :=
  ⟨fun _ _ => rfl, fun _ _ _ => ⟨rfl, rfl⟩, fun _ _ _ h => .inl h, Nat.le_refl _⟩

theorem temp_ne {k j : Nat} (h : some k ≠ some j) : Name.temp j ≠ Name.temp k := by
  intro he
  cases he
  exact h rfl

theorem Frame.create : Frame (some k) fs (fs.create (.temp k)) := by
  refine ⟨fun j hj => ?_, fun j hj _ => ?_, fun a j ha hj => ?_, Nat.le_succ _⟩
  · exact Function.update_of_ne (temp_ne hj) _ _
  · have hne : j ≠ fs.next := Nat.ne_of_lt hj
    exact ⟨Function.update_of_ne hne _ _, Function.update_of_ne hne _ _⟩
  · cases ha
    rw [Fs.create_dir_self] at hj
    cases hj
    exact .inr (Nat.le_refl _)

theorem Frame.unlink : Frame (some k) fs (fs.unlink (.temp k)) := by
  refine ⟨fun j hj => ?_, fun j _ _ => ⟨rfl, rfl⟩, fun a j ha hj => ?_, Nat.le_refl _⟩
  · exact Function.update_of_ne (temp_ne hj) _ _
  · cases ha
    rw [Fs.unlink_dir_self] at hj
    exact nomatch hj

theorem Frame.rename : Frame (some k) fs (fs.rename (.temp k) .path) := by
  refine ⟨fun j hj => ?_, fun j _ _ => ⟨rfl, rfl⟩, fun a j ha hj => ?_, Nat.le_refl _⟩
  · show Function.update (Function.update fs.dir .path _) (.temp k) none (.temp j) = _
    rw [Function.update_of_ne (temp_ne hj), Function.update_of_ne (by simp)]
  · cases ha
    rw [Fs.rename_dir_self] at hj
    exact nomatch hj

theorem Frame.edit (hi : fs.dir (.temp k) = some i) (bs : Bytes) :
    Frame (some k) fs (fs.edit i bs) := by
  refine ⟨fun _ _ => rfl, fun j _ hj => ?_, fun _ _ _ h => .inl h, Nat.le_refl _⟩
  have hne : j ≠ i := fun he => hj k rfl (he ▸ hi)
  exact ⟨Function.update_of_ne hne _ _, Function.update_of_ne hne _ _⟩

theorem Frame.fsync (hi : fs.dir (.temp k) = some i) : Frame (some k) fs (fs.fsync i) := by
  refine ⟨fun _ _ => rfl, fun j _ hj => ⟨rfl, ?_⟩, fun _ _ _ h => .inl h, Nat.le_refl _⟩
  have hne : j ≠ i := fun he => hj k rfl (he ▸ hi)
  exact Function.update_of_ne hne _ _

end

/-! ## Where a writer stands -/

/-- What a writer relies on. -/
def Works (st : Style) (fs : Fs Name) (wr : Writer) : Prop :=
  match wr.pc with
  | .enter | .renamed => True
  | .opened k i => fs.dir (.temp k) = some i ∧ fs.data i = []
  | .writing k i off =>
    fs.dir (.temp k) = some i ∧ off ≤ wr.data.length ∧ fs.data i = wr.data.take off ∧
      (st.loop = false → off = 0)
  | .written k i => fs.dir (.temp k) = some i ∧ fs.data i = wr.data
  | .flushed k i | .closed k i => fs.dir (.temp k) = some i ∧ fs.data i = wr.data ∧ fs.synced i = true
  | .undo k _ => ∃ i, fs.dir (.temp k) = some i

theorem Works.named {st : Style} {fs : Fs Name} {wr : Writer} (h : Works st fs wr) {k : Nat}
    (hk : wr.pc.tmp = some k) : ∃ i, fs.dir (.temp k) = some i := by
  obtain ⟨data, pc⟩ := wr
  cases pc with
  | enter => exact nomatch hk
  | renamed => exact nomatch hk
  | opened k' i =>
    cases hk
    exact ⟨i, h.1⟩
  | writing k' i off =>
    cases hk
    exact ⟨i, h.1⟩
  | written k' i =>
    cases hk
    exact ⟨i, h.1⟩
  | flushed k' i =>
    cases hk
    exact ⟨i, h.1⟩
  | closed k' i =>
    cases hk
    exact ⟨i, h.1⟩
  | undo k' e =>
    cases hk
    exact h

/-- Its own name, and the inode it leads to, are all a writer relies on. -/
theorem Works.congr {st : Style} {fs fs' : Fs Name} {wr : Writer} (h : Works st fs wr)
    (hname : ∀ k, wr.pc.tmp = some k → fs'.dir (.temp k) = fs.dir (.temp k))
    (hbytes : ∀ k i, wr.pc.tmp = some k → fs.dir (.temp k) = some i → fs'.data i = fs.data i ∧
      fs'.synced i = fs.synced i) :
    Works st fs' wr := by
  obtain ⟨data, pc⟩ := wr
  cases pc with
  | enter => trivial
  | renamed => trivial
  | opened k i =>
    obtain ⟨h1, h2⟩ := h
    exact ⟨(hname k rfl).trans h1, (hbytes k i rfl h1).1.trans h2⟩
  | writing k i off =>
    obtain ⟨h1, h2, h3, h4⟩ := h
    exact ⟨(hname k rfl).trans h1, h2, (hbytes k i rfl h1).1.trans h3, h4⟩
  | written k i =>
    obtain ⟨h1, h2⟩ := h
    exact ⟨(hname k rfl).trans h1, (hbytes k i rfl h1).1.trans h2⟩
  | flushed k i =>
    obtain ⟨h1, h2, h3⟩ := h
    exact ⟨(hname k rfl).trans h1, (hbytes k i rfl h1).1.trans h2, (hbytes k i rfl h1).2.trans h3⟩
  | closed k i =>
    obtain ⟨h1, h2, h3⟩ := h
    exact ⟨(hname k rfl).trans h1, (hbytes k i rfl h1).1.trans h2, (hbytes k i rfl h1).2.trans h3⟩
  | undo k e =>
    obtain ⟨i, h1⟩ := h
    exact ⟨i, (hname k rfl).trans h1⟩

/-- Another writer's system call. -/
theorem Works.frame {st : Style} {fs fs' : Fs Name} {wr : Writer} {o : Option Nat}
    {r : Reg (Option Bytes)}
    (h : Works st fs wr) (hr : Refines .path r fs) (hf : Frame o fs fs')
    (ho : ∀ k, wr.pc.tmp = some k → o ≠ some k) : Works st fs' wr := by
  refine h.congr (fun k hk => hf.names k (ho k hk)) fun k i hk hi => ?_
  refine hf.bytes i (hr.lt fs.dir hr.mem _ i hi) fun k' hk' hi' => ?_
  -- two names of one inode
  have he := hr.inj fs.dir hr.mem (.temp k) (.temp k') i hi hi'
  cases he
  exact ho k hk hk'

/-! ## One system call -/

/-- What an output does to the register. -/
def Matches : Out → List (Reg.Op (Option Bytes)) → Prop
  | .replaced _ d, ops => ops = [.write (some d)]
  | .synced _, ops => ops = [.sync]
  | .crashed, ops => ∃ j, ops = [.crash j]
  | _, ops => ops = []

/-- The name a system call may change: the writer's own, one that nobody has,
or the one fixed name. -/
def Owns (st : Style) (fs : Fs Name) (wr : Writer) (o : Option Nat) : Prop :=
  o = wr.pc.tmp ∨ st.fixedTmp = true ∨ ∃ k, o = some k ∧ fs.dir (.temp k) = none

/-- The result of a system call of `wr`. -/
def Does (st : Style) (fs : Fs Name) (wr : Writer) (r : Reg (Option Bytes))
    (a : Fs Name × Option Pc × Out) : Prop :=
  ∃ o ops, Matches a.2.2 ops ∧ Refines .path (r.run ops) a.1 ∧ Frame o fs a.1 ∧ Owns st fs wr o ∧
    ∀ pc, a.2.1 = some pc → Works st a.1 ⟨wr.data, pc⟩ ∧ (pc.tmp = none ∨ pc.tmp = o)

section
variable {st : Style} {fs : Fs Name} {wr : Writer} {r : Reg (Option Bytes)} {k i : Nat} {d : Bytes}

/-- A call that changes nothing. -/
theorem Does.stay {pc' : Option Pc} {out : Out} (hr : Refines .path r fs) (hout : Matches out [])
    (hpc : ∀ pc, pc' = some pc → Works st fs ⟨wr.data, pc⟩ ∧ (pc.tmp = none ∨ pc.tmp = wr.pc.tmp)) :
    Does st fs wr r (fs, pc', out) :=
  ⟨wr.pc.tmp, [], hout, hr, Frame.rfl', .inl rfl, hpc⟩

/-- A call with no output and one next call. -/
theorem Does.quiet {fs' : Fs Name} {pc : Pc} {o : Option Nat} (hr : Refines .path r fs')
    (hf : Frame o fs fs')
    (ho : Owns st fs wr o) (hw : Works st fs' ⟨wr.data, pc⟩) (hpc : pc.tmp = o) :
    Does st fs wr r (fs', some pc, .quiet) := by
  refine ⟨o, [], rfl, hr, hf, ho, fun pc' h => ?_⟩
  cases h
  exact ⟨hw, .inr hpc⟩

theorem writeAt_end {bs chunk : Bytes} {off : Nat} (h : bs.length = off) :
    writeAt bs off chunk = bs ++ chunk := by
  have hdrop : bs.drop (off + chunk.length) = [] := List.drop_eq_nil_of_le (by omega)
  unfold writeAt
  rw [hdrop, h, Nat.sub_self, List.append_nil, List.replicate_zero, List.append_nil,
    List.take_of_length_le (by omega)]

theorem body_works {off : Nat} (hi : fs.dir (.temp k) = some i) (hoff : off ≤ d.length)
    (hd : fs.data i = d.take off)
    (hl : st.loop = false → off = 0) : Works st fs ⟨d, st.body d.length k i off⟩ := by
  unfold Style.body
  split
  · next hc =>
    have hle : d.length ≤ off := by simpa using (Bool.and_eq_true_iff.mp hc).2
    exact ⟨hi, hd.trans (List.take_of_length_le hle)⟩
  · exact ⟨hi, hoff, hd, hl⟩

theorem body_tmp (len off : Nat) : (st.body len k i off).tmp = some k := by
  unfold Style.body
  split <;> rfl

theorem entered_works (hi : fs.dir (.temp k) = some i) (hd : fs.data i = []) :
    Works st fs ⟨d, st.entered d.length k i⟩ := by
  unfold Style.entered
  split
  · exact ⟨hi, hd⟩
  · exact body_works hi (Nat.zero_le _) (by rw [hd, List.take_zero]) (fun _ => rfl)

theorem entered_tmp (len : Nat) : (st.entered len k i).tmp = some k := by
  unfold Style.entered
  split
  · rfl
  · exact body_tmp ..

theorem undo_works {e : Errno} (hi : fs.dir (.temp k) = some i) : Works st fs ⟨d, .undo k e⟩ := ⟨i, hi⟩

/-- `open` or `mkstemp`. -/
theorem enter_does (hr : Refines .path r fs) (w : Nat) (res : Sys) :
    Does st fs ⟨d, .enter⟩ r (st.advance fs w ⟨d, .enter⟩ res) := by
  have hne : ∀ k, Name.temp k ≠ Name.path := by simp
  cases res with
  | err n => exact .stay hr rfl (fun pc h => nomatch h)
  | ok k =>
    simp only [Style.advance]
    split
    · next hfix =>
      split
      · next i hi =>
        have hi' : (fs.edit i []).dir (.temp 0) = some i := hi
        exact .quiet (hr.edit (hne 0) hi []) (.edit hi []) (.inr (.inl hfix))
          (entered_works hi' (fs.edit_data_self i [])) (entered_tmp _)
      · exact .quiet (hr.create (hne 0)) .create (.inr (.inl hfix))
          (entered_works (by simp) (by simp)) (entered_tmp _)
    · split
      · refine .stay hr rfl fun pc h => ?_
        cases h
        exact ⟨trivial, .inl rfl⟩
      · next hk =>
        have hfree : fs.dir (.temp k) = none := by simpa using hk
        exact .quiet (hr.create (hne k)) .create (.inr (.inr ⟨k, rfl, hfree⟩))
          (entered_works (by simp) (by simp))
          (entered_tmp _)

/-- `write`, whole or short. -/
theorem writing_does {off : Nat} (hr : Refines .path r fs) (h : Works st fs ⟨d, .writing k i off⟩)
    (w : Nat) (res : Sys) :
    Does st fs ⟨d, .writing k i off⟩ r (st.advance fs w ⟨d, .writing k i off⟩ res) := by
  obtain ⟨hi, hoff, hd, hl⟩ := h
  cases res with
  | err n => exact .quiet hr .rfl' (.inl rfl) (undo_works hi) rfl
  | ok n =>
    let chunk := (d.drop off).take n
    let fs' := fs.edit i (writeAt (fs.data i) off chunk)
    have hne : Name.temp k ≠ Name.path := by simp
    have hoff : off ≤ d.length := hoff
    have hi' : fs'.dir (.temp k) = some i := hi
    have hr' : Refines .path r fs' := hr.edit hne hi _
    have hf : Frame (some k) fs fs' := .edit hi _
    have hlen : off + chunk.length ≤ d.length := by
      simp only [chunk, List.length_take, List.length_drop]
      omega
    have hdata : fs'.data i = d.take (off + chunk.length) := by
      have hoff' : (d.take off).length = off := by rw [List.length_take, min_eq_left hoff]
      have hchunk : chunk = (d.drop off).take chunk.length := by
        rw [← List.prefix_iff_eq_take]
        exact List.take_prefix ..
      rw [List.take_add, ← hchunk, ← writeAt_end hoff', ← hd]
      exact fs.edit_data_self i _
    show Does st fs _ r (if st.loop then (fs', some (st.body d.length k i (off + chunk.length)), .quiet)
      else if chunk.length = d.length then (fs', some (.written k i), .quiet)
      else (fs', some (.undo k .io), .quiet))
    split
    · next hloop =>
      refine .quiet hr' hf (.inl rfl) (body_works hi' hlen hdata fun hc => ?_) (body_tmp ..)
      rw [hloop] at hc
      exact nomatch hc
    · split
      · next hall =>
        have hwhole : fs'.data i = d := by
          rw [hdata, List.take_of_length_le (by omega)]
        exact .quiet hr' hf (.inl rfl) ⟨hi, hwhole⟩ rfl
      · exact .quiet hr' hf (.inl rfl) (undo_works hi') rfl

/-- **Step.** Every system call of a writer is a step of the register, on the
writer's own name. -/
theorem advance_does (hr : Refines .path r fs) (h : Works st fs wr) (w : Nat) (res : Sys) :
    Does st fs wr r (st.advance fs w wr res) := by
  obtain ⟨d, pc⟩ := wr
  have hne : ∀ k, Name.temp k ≠ Name.path := by simp
  cases pc with
  | enter => exact enter_does hr w res
  | writing k i off => exact writing_does hr h w res
  | opened k i =>
    obtain ⟨hi, hd⟩ := h
    cases res with
    | err n => exact .quiet hr .rfl' (.inl rfl) (undo_works hi) rfl
    | ok n =>
      exact .quiet hr .rfl' (.inl rfl)
        (body_works hi (Nat.zero_le _) (by rw [hd, List.take_zero]) fun _ => rfl) (body_tmp ..)
  | written k i =>
    obtain ⟨hi, hd⟩ := h
    cases res with
    | err n => exact .quiet hr .rfl' (.inl rfl) (undo_works hi) rfl
    | ok n => exact .quiet (hr.fsync i) (.fsync hi) (.inl rfl) ⟨hi, hd, fs.fsync_synced_self i⟩ rfl
  | flushed k i =>
    cases res with
    | err n =>
      simp only [Style.advance]
      split
      · exact .quiet hr .rfl' (.inl rfl) (undo_works h.1) rfl
      · exact .quiet hr .rfl' (.inl rfl) h rfl
    | ok n => exact .quiet hr .rfl' (.inl rfl) h rfl
  | closed k i =>
    obtain ⟨hi, hd, hs⟩ := h
    cases res with
    | err n => exact .quiet hr .rfl' (.inl rfl) (undo_works hi) rfl
    | ok n =>
      simp only [Style.advance, hi]
      refine ⟨some k, [.write (some d)], rfl, ?_, .rename, .inl rfl, fun pc hpc => ?_⟩
      · have hd' : fs.data i = d := hd
        rw [← hd']
        exact hr.rename (hne k) hi hs
      · split at hpc
        · cases hpc
          exact ⟨trivial, .inl rfl⟩
        · exact nomatch hpc
  | renamed =>
    cases res with
    | err n => exact .stay hr rfl (fun pc h => nomatch h)
    | ok n => exact ⟨none, [.sync], rfl, hr.syncDir, .syncDir, .inl rfl, (fun pc h => nomatch h)⟩
  | undo k e =>
    cases res with
    | err n => exact .stay hr rfl (fun pc h => nomatch h)
    | ok n => exact ⟨some k, [], rfl, hr.unlink (hne k), .unlink, .inl rfl, (fun pc h => nomatch h)⟩

end

/-! ## The whole directory -/

/-- `v` was there at the beginning or was renamed into its place. -/
def Ever (c : Option Bytes) (outs : List Out) (v : Option Bytes) : Prop :=
  v = c ∨ ∃ w d, .replaced w d ∈ outs ∧ v = some d

theorem Ever.mono {c v : Option Bytes} {outs outs' : List Out} (h : Ever c outs v)
    (hsub : outs ⊆ outs') : Ever c outs' v := by
  rcases h with h | ⟨w, d, hmem, hv⟩
  · exact .inl h
  · exact .inr ⟨w, d, hsub hmem, hv⟩

/-- The file is the register, every writer stands where it says on a name of
its own, and what readers have open is no writer's. -/
structure Inv (st : Style) (c : Option Bytes) (outs : List Out) (r : Reg (Option Bytes))
    (s : State) : Prop where
  refines : Refines .path r s.fs
  works : ∀ v a, s.writers v = some a → Works st s.fs a
  apart : ∀ v w a b k, s.writers v = some a → s.writers w = some b → a.pc.tmp = some k →
    b.pc.tmp = some k → v = w
  single : st.fixedTmp = true → ∀ v w a b, s.writers v = some a → s.writers w = some b → v = w
  ever : ∀ v, r.Shows v → Ever c outs v
  held : ∀ q i, s.readers q = some i →
    (∀ k, s.fs.dir (.temp k) ≠ some i) ∧ i < s.fs.next ∧ Ever c outs (some (s.fs.data i))

section
variable {st : Style} {c : Option Bytes} {outs : List Out} {r : Reg (Option Bytes)} {s : State}

theorem Matches.write {out : Out} {ops : List (Reg.Op (Option Bytes))} {v : Option Bytes}
    (h : Matches out ops)
    (hv : .write v ∈ ops) : ∃ w d, out = .replaced w d ∧ v = some d := by
  cases out with
  | replaced w d =>
    rw [show ops = _ from h] at hv
    exact ⟨w, d, rfl, by simpa using hv⟩
  | synced w =>
    rw [show ops = _ from h] at hv
    simp at hv
  | crashed =>
    obtain ⟨j, rfl⟩ := h
    simp at hv
  | quiet | failed | saw | absent =>
    rw [show ops = _ from h] at hv
    exact nomatch hv

theorem Inv.now (h : Inv st c outs r s) : Ever c outs (s.fs.read .path) := by
  rw [h.refines.now]
  exact h.ever _ (Reg.value_shows h.refines.durable_le)

/-- What a crash may show after a step was there before, or the step renamed
it. -/
theorem Inv.ever_step (h : Inv st c outs r s) {out : Out} {ops : List (Reg.Op (Option Bytes))}
    (hm : Matches out ops) : ∀ v, (r.run ops).Shows v → Ever c (outs ++ [out]) v := by
  intro v hv
  rcases Reg.shows_run h.refines.durable_le hv with hv | hv
  · exact (h.ever v hv).mono (List.subset_append_left ..)
  · obtain ⟨w, d, ho, hd⟩ := hm.write hv
    exact .inr ⟨w, d, by simp [ho], hd⟩

/-- A step of the others changes no name that a writer has. -/
theorem Inv.others (h : Inv st c outs r s) {v w : Nat} {a b : Writer} {o : Option Nat}
    (hv : s.writers v = some a)
    (hw : s.writers w = some b) (hne : v ≠ w) (ho : Owns st s.fs b o) :
    ∀ k, a.pc.tmp = some k → o ≠ some k := by
  intro k hk hok
  rcases ho with ho | hfix | ⟨k', hk', hfree⟩
  · exact hne (h.apart v w a b k hv hw hk (ho ▸ hok))
  · exact hne (h.single hfix v w a b hv hw)
  · obtain ⟨i, hi⟩ := (h.works v a hv).named hk
    have he : k' = k := Option.some.inj (hk'.symm.trans hok)
    rw [← he, hfree] at hi
    exact nomatch hi

/-- **Step.** A writer goes on. -/
theorem Inv.go (h : Inv st c outs r s) {w : Nat} {b : Writer} (hw : s.writers w = some b) (res : Sys) :
    ∃ ops, Matches (step st s (.go w res)).2 ops ∧
      Inv st c (outs ++ [(step st s (.go w res)).2]) (r.run ops) (step st s (.go w res)).1 := by
  obtain ⟨o, ops, hm, hr, hf, ho, hpc⟩ := advance_does h.refines (h.works w b hw) w res
  have hstep : step st s (.go w res) =
      (⟨(st.advance s.fs w b res).1,
        Function.update s.writers w ((st.advance s.fs w b res).2.1.map fun pc => ⟨b.data, pc⟩),
        s.readers⟩, (st.advance s.fs w b res).2.2) := by
    simp only [step, hw]
  -- the writers after the step: the one that went on, or another one as it was
  have hcases : ∀ v a,
      Function.update s.writers w ((st.advance s.fs w b res).2.1.map fun pc => ⟨b.data, pc⟩) v =
      some a →
      (v = w ∧ Works st (st.advance s.fs w b res).1 a ∧ (a.pc.tmp = none ∨ a.pc.tmp = o)) ∨
      (v ≠ w ∧ s.writers v = some a) := by
    intro v a ha
    by_cases hv : v = w
    · rw [hv, Function.update_self] at ha
      obtain ⟨pc, hp, rfl⟩ := Option.map_eq_some_iff.mp ha
      exact .inl ⟨hv, hpc pc hp⟩
    · rw [Function.update_of_ne hv] at ha
      exact .inr ⟨hv, ha⟩
  rw [hstep]
  refine ⟨ops, hm, hr, fun v a ha => ?_, fun v u a a' k ha ha' hk hk' => ?_,
    fun hfix v u a a' ha ha' => ?_, h.ever_step hm, fun q i hq => ?_⟩
  · rcases hcases v a ha with ⟨-, hwk, -⟩ | ⟨hne, ha⟩
    · exact hwk
    · exact (h.works v a ha).frame h.refines hf (h.others ha hw hne ho)
  · rcases hcases v a ha with ⟨hv, -, htmp⟩ | ⟨hv, ha⟩
    · rcases hcases u a' ha' with ⟨hu, -, -⟩ | ⟨hu, ha'⟩
      · rw [hv, hu]
      · rw [hk] at htmp
        exact absurd (htmp.resolve_left (by simp)).symm (h.others ha' hw hu ho k hk')
    · rcases hcases u a' ha' with ⟨hu, -, htmp⟩ | ⟨hu, ha'⟩
      · rw [hk'] at htmp
        exact absurd (htmp.resolve_left (by simp)).symm (h.others ha hw hv ho k hk)
      · exact h.apart v u a a' k ha ha' hk hk'
  · rcases hcases v a ha with ⟨hv, -, -⟩ | ⟨hv, ha⟩
    · rcases hcases u a' ha' with ⟨hu, -, -⟩ | ⟨hu, ha'⟩
      · rw [hv, hu]
      · exact absurd (h.single hfix u w a' b ha' hw) hu
    · exact absurd (h.single hfix v w a b ha hw) hv
  · obtain ⟨hfree, hlt, hever⟩ := h.held q i hq
    refine ⟨fun k hk => ?_, Nat.lt_of_lt_of_le hlt hf.next, ?_⟩
    · by_cases hok : o = some k
      · rcases hf.own k i hok hk with hc | hc
        · exact hfree k hc
        · omega
      · rw [hf.names k hok] at hk
        exact hfree k hk
    · rw [(hf.bytes i hlt fun k _ => hfree k).1]
      exact hever.mono (List.subset_append_left ..)

/-- **Step.** Every step of the directory is a step of the register. -/
theorem inv_step (h : Inv st c outs r s) {ev : Ev} (hx : Alone st s ev) :
    ∃ ops, Matches (step st s ev).2 ops ∧ Inv st c (outs ++ [(step st s ev).2]) (r.run ops)
    (step st s ev).1 := by
  have hsub : ∀ o : Out, outs ⊆ outs ++ [o] := fun _ => List.subset_append_left ..
  -- nothing but the outputs
  have hsame : ∀ o : Out, Inv st c (outs ++ [o]) r s := fun o =>
    ⟨h.refines, h.works, h.apart, h.single, fun v hv => (h.ever v hv).mono (hsub o), fun q i hq =>
      ⟨(h.held q i hq).1, (h.held q i hq).2.1, (h.held q i hq).2.2.mono (hsub o)⟩⟩
  cases ev with
  | call w data =>
    simp only [step]
    split
    · exact ⟨[], rfl, hsame _⟩
    · have hcases : ∀ v a, Function.update s.writers w (some ⟨data, .enter⟩) v = some a →
          (v = w ∧ a = ⟨data, .enter⟩) ∨ s.writers v = some a := by
        intro v a ha
        by_cases hv : v = w
        · rw [hv, Function.update_self] at ha
          exact .inl ⟨hv, (Option.some.inj ha).symm⟩
        · rw [Function.update_of_ne hv] at ha
          exact .inr ha
      have hs := hsame .quiet
      refine ⟨[], rfl, hs.refines, fun v a ha => ?_, fun v u a b k ha hb hk hk' => ?_,
        fun hfix v u a b ha hb => ?_, hs.ever, hs.held⟩
      · rcases hcases v a ha with ⟨-, rfl⟩ | ha
        · trivial
        · exact h.works v a ha
      · rcases hcases v a ha with ⟨-, rfl⟩ | ha
        · exact nomatch hk
        · rcases hcases u b hb with ⟨-, rfl⟩ | hb
          · exact nomatch hk'
          · exact h.apart v u a b k ha hb hk hk'
      · -- nobody else was writing
        have hnone := hx hfix
        rcases hcases v a ha with ⟨hv, -⟩ | ha
        · rcases hcases u b hb with ⟨hu, -⟩ | hb
          · rw [hv, hu]
          · rw [hnone u] at hb
            exact nomatch hb
        · rw [hnone v] at ha
          exact nomatch ha
  | go w res =>
    cases hw : s.writers w with
    | none =>
      simp only [step, hw]
      exact ⟨[], rfl, hsame _⟩
    | some b => exact h.go hw res
  | kill w =>
    have hcases : ∀ v a, Function.update s.writers w none v = some a → s.writers v = some a := by
      intro v a ha
      by_cases hv : v = w
      · rw [hv, Function.update_self] at ha
        exact nomatch ha
      · rwa [Function.update_of_ne hv] at ha
    have hs := hsame .quiet
    exact ⟨[], rfl, hs.refines, fun v a ha => h.works v a (hcases v a ha),
      fun v u a b k ha hb => h.apart v u a b k (hcases v a ha) (hcases u b hb),
      fun hfix v u a b ha hb => h.single hfix v u a b (hcases v a ha) (hcases u b hb), hs.ever, hs.held⟩
  | look q =>
    have hs := hsame .quiet
    refine ⟨[], rfl, hs.refines, hs.works, hs.apart, hs.single, hs.ever, fun p i hp => ?_⟩
    have hp' : Function.update s.readers q (s.fs.dir .path) p = some i := hp
    by_cases hpq : p = q
    · have hi : s.fs.dir .path = some i := by rwa [hpq, Function.update_self] at hp'
      refine ⟨fun k hk => ?_, h.refines.lt _ h.refines.mem _ i hi, ?_⟩
      · exact nomatch h.refines.inj _ h.refines.mem _ _ i hk hi
      · have hread : s.fs.read .path = some (s.fs.data i) := by simp [Fs.read, hi]
        show Ever c (outs ++ [.quiet]) (some (s.fs.data i))
        rw [← hread]
        exact hs.now
    · rw [Function.update_of_ne hpq] at hp'
      exact hs.held p i hp'
  | take q =>
    simp only [step]
    split
    · exact ⟨[], rfl, hsame _⟩
    · exact ⟨[], rfl, hsame _⟩
  | crash k junk =>
    obtain ⟨j, hr⟩ := h.refines.crash k junk
    exact ⟨[.crash j], ⟨j, rfl⟩, hr, (fun _ _ h => nomatch h), (fun _ _ _ _ _ h => nomatch h),
      (fun _ _ _ _ _ h => nomatch h), h.ever_step ⟨j, rfl⟩, (fun _ _ h => nomatch h)⟩

/-- The steps of the register behind a list of outputs. -/
def Traces : List Out → List (Reg.Op (Option Bytes)) → Prop
  | [], ops => ops = []
  | o :: os, ops => ∃ a b, ops = a ++ b ∧ Matches o a ∧ Traces os b

/-- **Run.** Every run of the directory is a run of the register. -/
theorem inv_run {evs : List Ev} (h : Inv st c outs r s) (hx : (machine st).AllSteps (Alone st) s evs) :
    ∃ ops, Traces ((machine st).outs s evs) ops ∧
      Inv st c (outs ++ (machine st).outs s evs) (r.run ops) ((machine st).run s evs) := by
  induction evs generalizing outs r s with
  | nil =>
    refine ⟨[], rfl, ?_⟩
    rw [show (machine st).outs s [] = [] from rfl, List.append_nil]
    exact h
  | cons ev evs ih =>
    obtain ⟨a, ha, hinv⟩ := inv_step h hx.1
    obtain ⟨b, hb, hinv'⟩ := ih hinv hx.2
    refine ⟨a ++ b, ⟨a, b, rfl, ha, hb⟩, ?_⟩
    rw [Reg.run_append]
    rwa [List.append_assoc] at hinv'

theorem Traces.split {xs ys : List Out} {ops : List (Reg.Op (Option Bytes))}
    (h : Traces (xs ++ ys) ops) : ∃ a b, ops = a ++ b ∧ Traces xs a ∧ Traces ys b := by
  induction xs generalizing ops with
  | nil => exact ⟨[], ops, rfl, rfl, h⟩
  | cons x xs ih =>
    obtain ⟨a, b, rfl, ha, hb⟩ := h
    obtain ⟨b₁, b₂, rfl, h1, h2⟩ := ih hb
    exact ⟨a ++ b₁, b₂, (List.append_assoc ..).symm, ⟨a, b₁, rfl, ha, h1⟩, h2⟩

theorem Traces.write {xs : List Out} {ops : List (Reg.Op (Option Bytes))} {v : Option Bytes}
    (h : Traces xs ops)
    (hv : .write v ∈ ops) : ∃ w d, .replaced w d ∈ xs ∧ v = some d := by
  induction xs generalizing ops with
  | nil =>
    rw [show ops = [] from h] at hv
    exact nomatch hv
  | cons x xs ih =>
    obtain ⟨a, b, rfl, ha, hb⟩ := h
    rcases List.mem_append.mp hv with hv | hv
    · obtain ⟨w, d, ho, hd⟩ := ha.write hv
      exact ⟨w, d, by simp [ho], hd⟩
    · obtain ⟨w, d, hmem, hd⟩ := ih hb hv
      exact ⟨w, d, List.mem_cons_of_mem _ hmem, hd⟩

theorem Matches.crash {out : Out} {ops : List (Reg.Op (Option Bytes))} {k : Nat} (h : Matches out ops)
    (hk : .crash k ∈ ops) : out = .crashed := by
  cases out with
  | crashed => rfl
  | replaced | synced | quiet | failed | saw | absent =>
    rw [show ops = _ from h] at hk
    simp at hk

theorem Traces.crash {xs : List Out} {ops : List (Reg.Op (Option Bytes))} {k : Nat} (h : Traces xs ops)
    (hk : .crash k ∈ ops) : .crashed ∈ xs := by
  induction xs generalizing ops with
  | nil =>
    rw [show ops = [] from h] at hk
    exact nomatch hk
  | cons x xs ih =>
    obtain ⟨a, b, rfl, ha, hb⟩ := h
    rcases List.mem_append.mp hk with hk | hk
    · rw [ha.crash hk]
      exact List.mem_cons_self ..
    · exact List.mem_cons_of_mem _ (ih hb hk)

/-! ## Who wrote it, who saw it -/

theorem advance_out (st : Style) (fs : Fs Name) (w : Nat) (wr : Writer) (res : Sys) :
    (st.advance fs w wr res).2.2 = .quiet ∨ (st.advance fs w wr res).2.2 = .synced w ∨
      (st.advance fs w wr res).2.2 = .replaced w wr.data ∨
      ∃ e, (st.advance fs w wr res).2.2 = .failed w e := by
  obtain ⟨d, pc⟩ := wr
  cases pc with
  | enter | writing | closed =>
    cases res with
    | err n => simp [Style.advance]
    | ok n =>
      simp only [Style.advance]
      repeat' split
      all_goals simp
  | opened | written | flushed | renamed | undo => cases res <;> simp [Style.advance]

theorem step_replaced {ev : Ev} {w : Nat} {d : Bytes} (h : (step st s ev).2 = .replaced w d) :
    ∃ a, s.writers w = some a ∧ a.data = d := by
  cases ev with
  | go v res =>
    cases hv : s.writers v with
    | none => simp [step, hv] at h
    | some a =>
      simp only [step, hv] at h
      have ho := advance_out st s.fs v a res
      rw [h] at ho
      obtain ⟨rfl, rfl⟩ : w = v ∧ d = a.data := by simpa using ho
      exact ⟨a, hv, rfl⟩
  | call v data =>
    simp only [step] at h
    split at h <;> cases h
  | kill v => cases h
  | look q => cases h
  | take q =>
    simp only [step] at h
    split at h <;> cases h
  | crash k junk => cases h

theorem step_saw {ev : Ev} {q : Nat} {bs : Bytes} (h : (step st s ev).2 = .saw q bs) :
    ∃ i, s.readers q = some i ∧ s.fs.data i = bs := by
  cases ev with
  | take p =>
    simp only [step] at h
    split at h
    · cases h
    · next i hi =>
      cases h
      exact ⟨i, hi, rfl⟩
  | go v res =>
    cases hv : s.writers v with
    | none => simp [step, hv] at h
    | some a =>
      simp only [step, hv] at h
      have ho := advance_out st s.fs v a res
      rw [h] at ho
      simp at ho
  | call v data =>
    simp only [step] at h
    split at h <;> cases h
  | kill v => cases h
  | look p => cases h
  | crash k junk => cases h

theorem step_writers {ev : Ev} {w : Nat} {a : Writer} (h : (step st s ev).1.writers w = some a) :
    (∃ b, s.writers w = some b ∧ b.data = a.data) ∨ ev = .call w a.data := by
  cases ev with
  | call v data =>
    simp only [step] at h
    split at h
    · exact .inl ⟨a, h, rfl⟩
    · have h' : Function.update s.writers v (some ⟨data, .enter⟩) w = some a := h
      by_cases hw : w = v
      · rw [hw, Function.update_self] at h'
        cases h'
        exact .inr (by rw [hw])
      · rw [Function.update_of_ne hw] at h'
        exact .inl ⟨a, h', rfl⟩
  | go v res =>
    simp only [step] at h
    split at h
    · exact .inl ⟨a, h, rfl⟩
    · next b hb =>
      have h' :
          Function.update s.writers v ((st.advance s.fs v b res).2.1.map fun pc => ⟨b.data, pc⟩)
          w = some a := h
      by_cases hw : w = v
      · rw [hw, Function.update_self] at h'
        obtain ⟨pc, -, rfl⟩ := Option.map_eq_some_iff.mp h'
        exact .inl ⟨b, hw ▸ hb, rfl⟩
      · rw [Function.update_of_ne hw] at h'
        exact .inl ⟨a, h', rfl⟩
  | kill v =>
    have h' : Function.update s.writers v none w = some a := h
    by_cases hw : w = v
    · rw [hw, Function.update_self] at h'
      exact nomatch h'
    · rw [Function.update_of_ne hw] at h'
      exact .inl ⟨a, h', rfl⟩
  | look q => exact .inl ⟨a, h, rfl⟩
  | take q =>
    simp only [step] at h
    split at h
    · exact .inl ⟨a, h, rfl⟩
    · exact .inl ⟨a, h, rfl⟩
  | crash k junk => exact nomatch h

/-- **Run.** What is renamed into place is the whole of what somebody asked to
write. -/
theorem replaced_called {evs : List Ev} {w : Nat} {d : Bytes}
    (h : .replaced w d ∈ (machine st).outs s evs) :
    (∃ a, s.writers w = some a ∧ a.data = d) ∨ .call w d ∈ evs := by
  induction evs generalizing s with
  | nil => exact nomatch h
  | cons ev evs ih =>
    rcases List.mem_cons.mp h with h | h
    · exact .inl (step_replaced h.symm)
    · rcases ih h with ⟨a, ha, rfl⟩ | h
      · rcases step_writers ha with h | h
        · exact .inl h
        · exact .inr (h ▸ List.mem_cons_self ..)
      · exact .inr (List.mem_cons_of_mem _ h)

/-- **Run.** What a reader sees was the file. -/
theorem saw_ever {evs : List Ev} {q : Nat} {bs : Bytes} (h : Inv st c outs r s)
    (hx : (machine st).AllSteps (Alone st) s evs) (hsaw : .saw q bs ∈ (machine st).outs s evs) :
    Ever c (outs ++ (machine st).outs s evs) (some bs) := by
  induction evs generalizing outs r s with
  | nil => exact nomatch hsaw
  | cons ev evs ih =>
    rcases List.mem_cons.mp hsaw with hsaw | hsaw
    · obtain ⟨i, hi, rfl⟩ := step_saw hsaw.symm
      exact (h.held q i hi).2.2.mono (List.subset_append_left ..)
    · obtain ⟨a, -, hinv⟩ := inv_step h hx.1
      have hev := ih hinv hx.2 hsaw
      rwa [List.append_assoc] at hev

end

/-! ## The files -/

theorem boot_inv (st : Style) (c : Option Bytes) : Inv st c [] ⟨c, [], 0⟩ (boot c) := by
  have hpath : ∀ n i, (boot c).fs.dir n = some i → n = .path ∧ i = 0 := by
    intro n i hn
    have hn' : (if n = .path then c.map fun _ => 0 else none) = some i := hn
    split at hn'
    · next he =>
      obtain ⟨-, -, rfl⟩ := Option.map_eq_some_iff.mp hn'
      exact ⟨he, rfl⟩
    · exact nomatch hn'
  have hmem : ∀ d, d ∈ (boot c).fs.dirs → d = (boot c).fs.dir := by
    intro d hd
    simpa [boot] using hd
  have hread : (boot c).fs.read .path = c := by
    cases c with
    | none => rfl
    | some bs => rfl
  refine ⟨⟨by simp [boot], ?_, ?_, ?_, fun _ _ _ _ => rfl, hread, ?_⟩, (fun _ _ h => nomatch h),
    (fun _ _ _ _ _ h => nomatch h), (fun _ _ _ _ _ h => nomatch h), ?_, (fun _ _ h => nomatch h)⟩
  · intro d hd a b i ha hb
    rw [hmem d hd] at ha hb
    rw [(hpath a i ha).1, (hpath b i hb).1]
  · intro d hd a i ha
    rw [hmem d hd] at ha
    rw [(hpath a i ha).2]
    exact Nat.one_pos
  · intro d _ a i ha hi
    exact absurd (hpath a i hi).1 ha
  · intro d hd
    rw [hmem d hd]
    exact ⟨0, Nat.le_refl _, Nat.le_refl _, hread⟩
  · rintro v ⟨k, -, hk, rfl⟩
    have hk0 : k = 0 := Nat.le_zero.mp hk
    rw [hk0]
    exact .inl rfl

/-- **The state files.** Any number of writers and readers of one file, each
system call may fail, processes end and the machine crashes at any point; the
two functions with a fixed temporary name are not called while one of them is
under way. The directory reaches the disk in the order of its changes. Then
only whole records are renamed into place, the file and what every reader sees
is one of them or what was there at the beginning, until a crash the last one
renamed is the file, and once `fsync_parent_dir` has returned a crash does not
bring back an older one. -/
theorem replace_atomic (st : Style) (c : Option Bytes) (evs : List Ev)
    (hx : (machine st).AllSteps (Alone st) (boot c) evs) :
    let outs := (machine st).outs (boot c) evs
    let file := ((machine st).run (boot c) evs).fs.read .path
    (∀ w d, .replaced w d ∈ outs → .call w d ∈ evs) ∧ Ever c outs file ∧
      (∀ q bs, .saw q bs ∈ outs → Ever c outs (some bs)) ∧
      (∀ pre w d post, outs = pre ++ .replaced w d :: post →
        (∀ o ∈ post, o ≠ .crashed ∧ ∀ v e, o ≠ .replaced v e) → file = some d) ∧
      ∀ pre w d mid v post, outs = pre ++ .replaced w d :: (mid ++ .synced v :: post) → .crashed ∉ mid →
        file = some d ∨ ∃ u e, .replaced u e ∈ mid ++ post ∧ file = some e := by
  intro outs file
  obtain ⟨ops, htr, hinv⟩ := inv_run (boot_inv st c) hx
  have hfile : file = ((⟨c, [], 0⟩ : Reg (Option Bytes)).run ops).value := hinv.refines.now
  refine ⟨fun w d hmem => ?_, hinv.now, fun q bs hsaw => saw_ever (boot_inv st c) hx hsaw,
    fun pre w d post hsplit hpost => ?_, fun pre w d mid v post hsplit hmid => ?_⟩
  · rcases replaced_called hmem with ⟨a, ha, -⟩ | h
    · exact nomatch ha
    · exact h
  · rw [show (machine st).outs (boot c) evs = _ from hsplit] at htr
    obtain ⟨a, b, rfl, -, x, y, rfl, rfl, hy⟩ := htr.split
    rw [hfile, Reg.run_append]
    rcases @Reg.value_run _ ((Reg.run _ a).step (.write (some d))) y
      (fun k hk => (hpost _ (hy.crash hk)).1 rfl) with h | h
    · exact h.trans (Reg.value_write ..)
    · obtain ⟨u, e, hmem, -⟩ := hy.write h
      exact absurd rfl ((hpost _ hmem).2 u e)
  · rw [show (machine st).outs (boot c) evs = _ from hsplit] at htr
    obtain ⟨a, b, rfl, -, x, y, rfl, rfl, hy⟩ := htr.split
    obtain ⟨m, p, rfl, hm, x', z, rfl, rfl, hz⟩ := hy.split
    have hle :=
      Reg.durable_le_run (show (⟨c, [], 0⟩ : Reg (Option Bytes)).durable ≤ _ from Nat.le_refl _) a
    rw [hfile, Reg.run_append]
    rcases Reg.synced_stays hle (fun k hk => hmid (hm.crash hk)) with h | h
    · exact .inl h
    · right
      rcases List.mem_append.mp h with h | h
      · obtain ⟨u, e, hmem, he⟩ := hm.write h
        exact ⟨u, e, List.mem_append_left _ hmem, he⟩
      · obtain ⟨u, e, hmem, he⟩ := hz.write h
        exact ⟨u, e, List.mem_append_right _ hmem, he⟩

/-- A reader opens the AIK metadata, writer 1 renames and syncs the directory,
writer 2 renames, and the machine crashes before it can sync. The reader has
seen the old record before and after the `rename`s, and the record of writer 1
is back. -/
def metadataCrash : List Ev :=
  [.look 0, .call 1 [1, 2, 3], .go 1 (.ok 5), .go 1 (.ok 3), .take 0, .go 1 (.ok 0), .go 1 (.ok 0),
    .go 1 (.ok 0),
    .go 1 (.ok 0), .call 2 [4, 4], .go 2 (.ok 5), .go 2 (.ok 2), .go 2 (.ok 0), .go 2 (.ok 0),
    .go 2 (.ok 0), .take 0, .look 3, .take 3, .crash 0 fun _ => []]

theorem replace_atomic_metadata :
    let outs := (machine tpmAikSaveMetadata).outs (boot (some [9])) metadataCrash
    let file := ((machine tpmAikSaveMetadata).run (boot (some [9])) metadataCrash).fs.read .path
    outs.filter (· ≠ .quiet) =
      [.saw 0 [9], .replaced 1 [1, 2, 3], .synced 1, .replaced 2 [4, 4], .saw 0 [9],
        .saw 3 [4, 4], .crashed] ∧
      file = some [1, 2, 3] ∧ (∀ w d, .replaced w d ∈ outs → .call w d ∈ metadataCrash) ∧
      (∀ q bs, .saw q bs ∈ outs → Ever (some [9]) outs (some bs)) ∧
      (file = some [1, 2, 3] ∨ ∃ u e, .replaced u e ∈ outs.drop 9 ∧ file = some e) := by
  have h := replace_atomic tpmAikSaveMetadata (some [9]) metadataCrash
    (by simp [metadataCrash, Machine.AllSteps, Alone, tpmAikSaveMetadata])
  have hsync := h.2.2.2.2 (List.replicate 7 .quiet |>.set 4 (.saw 0 [9])) 1 [1, 2, 3] [] 1
  exact ⟨by decide, by decide, h.1, h.2.2.1, hsync _ (by decide) (by decide)⟩

-- two writers with the fixed name: the second truncates what the first is about to rename
example :
    ((machine stateWriteAtomic).run (boot none)
      [.call 0 [1, 1], .call 1 [2, 2, 2], .go 0 (.ok 0), .go 0 (.ok 2),
    .go 1 (.ok 0), .go 1 (.ok 1), .go 0 (.ok 0), .go 0 (.ok 0), .go 0 (.ok 0)]).fs.read .path =
    some [2] := by
  decide

end Lota.L6.StateFiles

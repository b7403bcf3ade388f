import Lota.Core.Bytes

/-!
# A directory that can crash, and the register it implements

Names lead to inodes. What a name leads to is kept in memory and reaches the
disk later, in order and one change at a time: `dirs` is every state of the
directory that a crash may bring back. The bytes of an inode are on disk once
they are synced, and anything after a crash otherwise.

* `Reg` is a register with the same weakness: a crash brings back a value that
  was current since the last sync.
* `Refines target r fs`: the file under `target` is the register `r`.
* `Refines.create`, `.unlink`, `.edit`, `.fsync` leave the register alone,
  `.rename` writes it, `.syncDir` syncs it and `.crash` crashes it: replacing a
  file by renaming a synced one over it is a write of the register.
-/
namespace Lota.Core.CrashFs

/-! ## The register -/

/-- The values since the beginning, the last one current; a crash keeps the
first `durable` ones. -/
structure Reg (V : Type) where
  init : V
  log : List V := []
  durable : Nat := 0

namespace Reg
variable {V : Type}

/-- The value after the first `k` writes. -/
def after (r : Reg V) (k : Nat) : V := (r.log.take k).getLastD r.init

def value (r : Reg V) : V := r.after r.log.length

inductive Op (V : Type) where
  | write (v : V)
  | sync
  | crash (k : Nat)

def step (r : Reg V) : Op V → Reg V
  | .write v => { r with log := r.log ++ [v] }
  | .sync => { r with durable := r.log.length }
  | .crash k =>
    { r with log := r.log.take (max k r.durable), durable := min (max k r.durable) r.log.length }

def run (r : Reg V) (ops : List (Op V)) : Reg V := ops.foldl step r

theorem after_write {r : Reg V} {k : Nat} (h : k ≤ r.log.length) (v : V) :
    (r.step (.write v)).after k = r.after k := by
  unfold step Reg.after
  rw [List.take_append_of_le_length h]

theorem value_write (r : Reg V) (v : V) : (r.step (.write v)).value = v := by
  have hall : (r.log ++ [v]).take (r.log ++ [v]).length = r.log ++ [v] := List.take_length
  unfold value step Reg.after
  rw [hall]
  simp

theorem after_crash {r : Reg V} {k : Nat} (hd : r.durable ≤ k) :
    (r.step (.crash k)).value = r.after k := by
  unfold value step Reg.after
  simp only [max_eq_left hd]
  rw [List.take_length]

/-- A crash may leave this value. -/
def Shows (r : Reg V) (v : V) : Prop := ∃ k, r.durable ≤ k ∧ k ≤ r.log.length ∧ r.after k = v

theorem Shows.durable_le {r : Reg V} {v : V} (h : r.Shows v) : r.durable ≤ r.log.length := by
  obtain ⟨k, h1, h2, -⟩ := h
  omega

theorem value_shows {r : Reg V} (h : r.durable ≤ r.log.length) : r.Shows r.value :=
  ⟨_, h, Nat.le_refl _, rfl⟩

/-- Only a write brings a new value. -/
theorem shows_step {r : Reg V} {op : Op V} {v : V} (hr : r.durable ≤ r.log.length)
    (h : (r.step op).Shows v) : r.Shows v ∨ op = .write v := by
  obtain ⟨k, h1, h2, h3⟩ := h
  cases op with
  | write w =>
    by_cases hk : k ≤ r.log.length
    · exact .inl ⟨k, h1, hk, by rw [← h3, after_write hk]⟩
    · have hlen : (r.step (.write w)).log.length = r.log.length + 1 := by simp [step]
      have hke : k = (r.step (.write w)).log.length := by omega
      right
      rw [← h3, hke]
      exact congrArg Op.write (value_write r w).symm
  | sync =>
    have h1' : r.log.length ≤ k := h1
    exact .inl ⟨k, by omega, h2, h3⟩
  | crash j =>
    left
    simp only [step, List.length_take] at h1 h2
    refine ⟨k, by omega, by omega, ?_⟩
    rw [← h3]
    unfold Reg.after step
    rw [List.take_take, min_eq_left (by omega)]

theorem durable_le_step {r : Reg V} (hr : r.durable ≤ r.log.length) (op : Op V) :
    (r.step op).durable ≤ (r.step op).log.length := by
  cases op with
  | write v => simp only [step, List.length_append]; omega
  | sync => exact Nat.le_refl _
  | crash k => simp only [step, List.length_take]; omega

theorem durable_le_run {r : Reg V} (hr : r.durable ≤ r.log.length) (ops : List (Op V)) :
    (r.run ops).durable ≤ (r.run ops).log.length := by
  induction ops generalizing r with
  | nil => exact hr
  | cons op ops ih => exact ih (durable_le_step hr op)

/-- What is there after some steps could have been shown before them, or was
written by one of them. -/
theorem shows_run {r : Reg V} {ops : List (Op V)} {v : V} (hr : r.durable ≤ r.log.length)
    (h : (r.run ops).Shows v) : r.Shows v ∨ .write v ∈ ops := by
  induction ops generalizing r with
  | nil => exact .inl h
  | cons op ops ih =>
    rcases ih (durable_le_step hr op) h with h | h
    · rcases shows_step hr h with h | h
      · exact .inl h
      · exact .inr (h ▸ List.mem_cons_self ..)
    · exact .inr (List.mem_cons_of_mem _ h)

theorem shows_sync {r : Reg V} {v : V} (h : (r.step .sync).Shows v) : v = r.value := by
  obtain ⟨k, h1, h2, h3⟩ := h
  have h1' : r.log.length ≤ k := h1
  have h2' : k ≤ r.log.length := h2
  have hk : k = r.log.length := Nat.le_antisymm h2' h1'
  rw [← h3, hk]
  rfl

/-- Without a crash the value is the last one written. -/
theorem value_run {r : Reg V} {ops : List (Op V)} (h : ∀ k, .crash k ∉ ops) :
    (r.run ops).value = r.value ∨ .write (r.run ops).value ∈ ops := by
  induction ops generalizing r with
  | nil => exact .inl rfl
  | cons op ops ih =>
    rcases @ih (r.step op) (fun k hk => h k (List.mem_cons_of_mem _ hk)) with hv | hv
    · cases op with
      | write v =>
        have hv' : (r.run (.write v :: ops)).value = v := hv.trans (value_write r v)
        right
        rw [hv']
        exact List.mem_cons_self ..
      | sync => exact .inl hv
      | crash k => exact absurd (List.mem_cons_self ..) (h k)
    · exact .inr (List.mem_cons_of_mem _ hv)

theorem run_append (r : Reg V) (xs ys : List (Op V)) : r.run (xs ++ ys) = (r.run xs).run ys :=
  List.foldl_append ..

/-- **Durability.** A value that is synced after it was written is not lost:
what is there later was written after it. -/
theorem synced_stays {r : Reg V} (hr : r.durable ≤ r.log.length) {v : V} {mid post : List (Op V)}
    (hmid : ∀ k, .crash k ∉ mid) : (r.run (.write v :: (mid ++ .sync :: post))).value = v ∨
      .write (r.run (.write v :: (mid ++ .sync :: post))).value ∈ mid ++ post := by
  have hsplit : r.run (.write v :: (mid ++ .sync :: post)) =
      ((((r.step (.write v)).run mid).step .sync).run post) := by
    show (r.step (.write v)).run (mid ++ .sync :: post) = _
    rw [run_append]
    rfl
  have hle := durable_le_run (durable_le_step hr (.write v)) mid
  have hle' := durable_le_step hle .sync
  rw [hsplit]
  rcases shows_run hle' (value_shows (durable_le_run hle' post)) with h | h
  · rw [shows_sync h]
    rcases @value_run _ (r.step (.write v)) _ hmid with hv | hv
    · left
      rw [hv, value_write]
    · exact .inr (List.mem_append_left _ hv)
  · exact .inr (List.mem_append_right _ h)

end Reg

/-! ## The directory -/

structure Fs (N : Type) where
  dir : N → Option Nat
  dirs : List (N → Option Nat)
  data : Nat → Bytes
  synced : Nat → Bool
  next : Nat

namespace Fs
variable {N : Type} [DecidableEq N]

/-- The directory changes; the state before it may come back. -/
def setDir (fs : Fs N) (d : N → Option Nat) : Fs N := { fs with dir := d, dirs := fs.dirs ++ [d] }

/-- A new empty file under `n`. -/
def create (fs : Fs N) (n : N) : Fs N :=
  { fs.setDir (Function.update fs.dir n (some fs.next)) with
    data := Function.update fs.data fs.next []
    synced := Function.update fs.synced fs.next false
    next := fs.next + 1 }

def unlink (fs : Fs N) (n : N) : Fs N := fs.setDir (Function.update fs.dir n none)

/-- The bytes of inode `i` become `bs`, in memory. -/
def edit (fs : Fs N) (i : Nat) (bs : Bytes) : Fs N :=
  { fs with data := Function.update fs.data i bs, synced := Function.update fs.synced i false }

def fsync (fs : Fs N) (i : Nat) : Fs N := { fs with synced := Function.update fs.synced i true }

def rename (fs : Fs N) (n m : N) : Fs N :=
  fs.setDir (Function.update (Function.update fs.dir m (fs.dir n)) n none)

def syncDir (fs : Fs N) : Fs N := { fs with dirs := [fs.dir] }

/-- The `k`-th of the states comes back, and bytes that were not synced are
`junk`. -/
def crash (fs : Fs N) (k : Nat) (junk : Nat → Bytes) : Fs N :=
  let d := (fs.dirs[k]?).getD fs.dir
  { dir := d, dirs := [d], next := fs.next, synced := fun _ => true
    data := fun i => if fs.synced i then fs.data i else junk i }

/-- What is under a name, `none` for no file. -/
def read (fs : Fs N) (n : N) : Option Bytes := (fs.dir n).map fs.data

@[simp] theorem create_dir_self (fs : Fs N) (n : N) : (fs.create n).dir n = some fs.next :=
  Function.update_self ..

@[simp] theorem create_data_next (fs : Fs N) (n : N) : (fs.create n).data fs.next = [] :=
  Function.update_self ..

@[simp] theorem unlink_dir_self (fs : Fs N) (n : N) : (fs.unlink n).dir n = none :=
  Function.update_self ..

@[simp] theorem rename_dir_self (fs : Fs N) (n m : N) : (fs.rename n m).dir n = none :=
  Function.update_self ..

omit [DecidableEq N] in
@[simp] theorem edit_data_self (fs : Fs N) (i : Nat) (bs : Bytes) : (fs.edit i bs).data i = bs :=
  Function.update_self ..

omit [DecidableEq N] in
@[simp] theorem fsync_synced_self (fs : Fs N) (i : Nat) : (fs.fsync i).synced i = true :=
  Function.update_self ..

end Fs

/-! ## The file is the register -/

section
variable {N : Type}

/-- Every state of the directory that may come back shows a value of the
register that may come back, and shows it on disk. -/
structure Refines (target : N) (r : Reg (Option Bytes)) (fs : Fs N) : Prop where
  mem : fs.dir ∈ fs.dirs
  inj : ∀ d ∈ fs.dirs, ∀ a b i, d a = some i → d b = some i → a = b
  lt : ∀ d ∈ fs.dirs, ∀ a i, d a = some i → i < fs.next
  apart : ∀ d ∈ fs.dirs, ∀ a i, a ≠ target → fs.dir a = some i → d target ≠ some i
  disk : ∀ d ∈ fs.dirs, ∀ i, d target = some i → fs.synced i = true
  now : fs.read target = r.value
  past : ∀ d ∈ fs.dirs, ∃ k, r.durable ≤ k ∧ k ≤ r.log.length ∧ (d target).map fs.data = r.after k

variable {target : N} {r : Reg (Option Bytes)} {fs : Fs N}

theorem Refines.durable_le (h : Refines target r fs) : r.durable ≤ r.log.length := by
  obtain ⟨k, h1, h2, -⟩ := h.past fs.dir h.mem
  exact Nat.le_trans h1 h2

/-- The directory changes and `target` does not. -/
theorem Refines.setDir (h : Refines target r fs) {d : N → Option Nat} (hsame : d target = fs.dir target)
    (hinj : ∀ a b i, d a = some i → d b = some i → a = b) (hlt : ∀ a i, d a = some i → i < fs.next)
    (hapart : ∀ e ∈ fs.dirs, ∀ a i, a ≠ target → d a = some i → e target ≠ some i) :
    Refines target r (fs.setDir d) := by
  have hmem : ∀ e, e ∈ (fs.setDir d).dirs → e ∈ fs.dirs ∨ e = d := by
    intro e he
    simpa [Fs.setDir] using he
  refine ⟨by simp [Fs.setDir], fun e he => ?_, fun e he => ?_, fun e he a i ha hi => ?_,
    fun e he => ?_, ?_, fun e he => ?_⟩
  · rcases hmem e he with he | rfl
    · exact h.inj e he
    · exact hinj
  · rcases hmem e he with he | rfl
    · exact h.lt e he
    · exact hlt
  · rcases hmem e he with he | rfl
    · exact hapart e he a i ha hi
    · exact fun hc => ha (hinj a target i hi hc)
  · rcases hmem e he with he | rfl
    · exact h.disk e he
    · rw [hsame]
      exact h.disk fs.dir h.mem
  · show (d target).map fs.data = r.value
    rw [hsame]
    exact h.now
  · rcases hmem e he with he | rfl
    · exact h.past e he
    · rw [hsame]
      exact h.past fs.dir h.mem

/-- Only inodes that `target` never led to change. -/
theorem Refines.inodes (h : Refines target r fs) {data : Nat → Bytes} {synced : Nat → Bool}
    (hsame : ∀ d ∈ fs.dirs, ∀ i, d target = some i → data i = fs.data i ∧
      (fs.synced i = true → synced i = true)) :
    Refines target r { fs with data, synced } := by
  have hread : ∀ d ∈ fs.dirs, (d target).map data = (d target).map fs.data := by
    intro d hd
    cases hi : d target with
    | none => rfl
    | some i => exact congrArg some (hsame d hd i hi).1
  refine ⟨h.mem, h.inj, h.lt, h.apart, fun d hd i hi => (hsame d hd i hi).2 (h.disk d hd i hi), ?_,
    fun d hd => ?_⟩
  · show (fs.dir target).map data = r.value
    rw [hread fs.dir h.mem]
    exact h.now
  · obtain ⟨k, h1, h2, h3⟩ := h.past d hd
    exact ⟨k, h1, h2, (hread d hd).trans h3⟩

theorem Refines.edit (h : Refines target r fs) {a : N} {i : Nat} (ha : a ≠ target)
    (hi : fs.dir a = some i) (bs : Bytes) : Refines target r (fs.edit i bs) := by
  refine h.inodes fun d hd j hj => ?_
  have hne : j ≠ i := fun he => h.apart d hd a i ha hi (he ▸ hj)
  rw [Function.update_of_ne hne, Function.update_of_ne hne]
  exact ⟨rfl, fun hs => hs⟩

theorem Refines.fsync (h : Refines target r fs) (i : Nat) : Refines target r (fs.fsync i) := by
  refine h.inodes fun d _ j _ => ⟨rfl, fun hs => ?_⟩
  by_cases he : j = i
  · rw [he, Function.update_self]
  · rw [Function.update_of_ne he]
    exact hs

theorem Refines.next_le (h : Refines target r fs) (n : Nat) (hn : fs.next ≤ n) :
    Refines target r { fs with next := n } :=
  ⟨h.mem, h.inj, fun d hd a i hi => Nat.lt_of_lt_of_le (h.lt d hd a i hi) hn, h.apart, h.disk,
    h.now, h.past⟩

theorem Refines.syncDir (h : Refines target r fs) : Refines target (r.step .sync) fs.syncDir := by
  have hmem : ∀ e, e ∈ fs.syncDir.dirs → e = fs.dir := by
    intro e he
    simpa [Fs.syncDir] using he
  refine ⟨by simp [Fs.syncDir], fun e he => ?_, fun e he => ?_, fun e he => ?_, fun e he => ?_,
    h.now, fun e he => ?_⟩
  · rw [hmem e he]
    exact h.inj fs.dir h.mem
  · rw [hmem e he]
    exact h.lt fs.dir h.mem
  · rw [hmem e he]
    exact h.apart fs.dir h.mem
  · rw [hmem e he]
    exact h.disk fs.dir h.mem
  · rw [hmem e he]
    exact ⟨r.log.length, Nat.le_refl _, Nat.le_refl _, h.now⟩

/-- **A crash.** -/
theorem Refines.crash (h : Refines target r fs) (k : Nat) (junk : Nat → Bytes) :
    ∃ j, Refines target (r.step (.crash j)) (fs.crash k junk) := by
  let d := (fs.dirs[k]?).getD fs.dir
  have hd : d ∈ fs.dirs := by
    show (fs.dirs[k]?).getD fs.dir ∈ fs.dirs
    cases hk : fs.dirs[k]? with
    | none => exact h.mem
    | some e => exact List.mem_of_getElem? hk
  have hmem : ∀ e, e ∈ (fs.crash k junk).dirs → e = d := by
    intro e he
    simpa [Fs.crash] using he
  have hread : (d target).map (fs.crash k junk).data = (d target).map fs.data := by
    cases hi : d target with
    | none => rfl
    | some i =>
      have hs := h.disk d hd i hi
      simp [Fs.crash, hs]
  obtain ⟨j, h1, h2, h3⟩ := h.past d hd
  have hmax : max j r.durable = j := max_eq_left h1
  refine ⟨j, by simp [Fs.crash], fun e he => ?_, fun e he => ?_, fun e he a i hat ha => ?_,
    fun _ _ _ _ => rfl, ?_, fun e he => ?_⟩
  · rw [hmem e he]
    exact h.inj d hd
  · rw [hmem e he]
    exact h.lt d hd
  · rw [hmem e he]
    have ha' : d a = some i := ha
    exact fun hc => hat (h.inj d hd a target i ha' hc)
  · rw [Reg.after_crash h1]
    exact hread.trans h3
  · refine ⟨j, ?_, ?_, ?_⟩
    · simp only [Reg.step, hmax]
      omega
    · simp only [Reg.step, hmax, List.length_take]
      omega
    · rw [hmem e he, hread, h3]
      unfold Reg.after Reg.step
      simp only [hmax]
      rw [List.take_take, min_self]

variable [DecidableEq N]

theorem Refines.create (h : Refines target r fs) {n : N} (hn : n ≠ target) :
    Refines target r (fs.create n) := by
  -- the counter first, so that the new inode is below it
  have h1 := h.next_le (fs.next + 1) (Nat.le_succ _)
  have hold : ∀ a i, a ≠ n → Function.update fs.dir n (some fs.next) a = some i →
      fs.dir a = some i := by
    intro a i ha hi
    rwa [Function.update_of_ne ha] at hi
  have hfresh : ∀ d ∈ fs.dirs, ∀ a, d a ≠ some fs.next :=
    fun d hd a ha => Nat.lt_irrefl _ (h.lt d hd a _ ha)
  have h2 :
      Refines target r
      ({ fs with next := fs.next + 1 }.setDir (Function.update fs.dir n (some fs.next))) := by
    refine h1.setDir (Function.update_of_ne (Ne.symm hn) _ _) (fun a b i ha hb => ?_) (fun a i ha => ?_)
      (fun e he a i hat ha => ?_)
    · by_cases han : a = n
      · by_cases hbn : b = n
        · rw [han, hbn]
        · rw [han, Function.update_self] at ha
          cases ha
          exact absurd (hold b _ hbn hb) (hfresh _ h.mem b)
      · by_cases hbn : b = n
        · rw [hbn, Function.update_self] at hb
          cases hb
          exact absurd (hold a _ han ha) (hfresh _ h.mem a)
        · exact h.inj fs.dir h.mem a b i (hold a i han ha) (hold b i hbn hb)
    · by_cases han : a = n
      · rw [han, Function.update_self] at ha
        cases ha
        exact Nat.lt_succ_self _
      · exact Nat.lt_succ_of_lt (h.lt fs.dir h.mem a i (hold a i han ha))
    · by_cases han : a = n
      · rw [han, Function.update_self] at ha
        cases ha
        exact hfresh e he target
      · exact h.apart e he a i hat (hold a i han ha)
  refine h2.inodes fun d hd j hj => ?_
  have hne : j ≠ fs.next := by
    rintro rfl
    have hd' : d ∈ fs.dirs ∨ d = Function.update fs.dir n (some fs.next) := by
      simpa [Fs.setDir] using hd
    rcases hd' with hd' | rfl
    · exact hfresh d hd' target hj
    · rw [Function.update_of_ne (Ne.symm hn)] at hj
      exact hfresh _ h.mem target hj
  show Function.update fs.data fs.next [] j = fs.data j ∧
      (fs.synced j = true → Function.update fs.synced fs.next false j = true)
  rw [Function.update_of_ne hne, Function.update_of_ne hne]
  exact ⟨rfl, fun hs => hs⟩

theorem Refines.unlink (h : Refines target r fs) {n : N} (hn : n ≠ target) :
    Refines target r (fs.unlink n) := by
  have hold : ∀ a i, Function.update fs.dir n none a = some i → fs.dir a = some i := by
    intro a i hi
    by_cases ha : a = n
    · rw [ha, Function.update_self] at hi
      exact nomatch hi
    · rwa [Function.update_of_ne ha] at hi
  refine h.setDir (Function.update_of_ne (Ne.symm hn) _ _) (fun a b i ha hb => ?_)
    (fun a i ha => ?_) (fun e he a i hat ha => ?_)
  · exact h.inj fs.dir h.mem a b i (hold a i ha) (hold b i hb)
  · exact h.lt fs.dir h.mem a i (hold a i ha)
  · exact h.apart e he a i hat (hold a i ha)

/-- **Replacing the file.** A synced file is renamed over `target`. -/
theorem Refines.rename (h : Refines target r fs) {n : N} {i : Nat} (hn : n ≠ target)
    (hi : fs.dir n = some i)
    (hs : fs.synced i = true) :
    Refines target (r.step (.write (some (fs.data i)))) (fs.rename n target) := by
  let d := Function.update (Function.update fs.dir target (fs.dir n)) n none
  have hdir : (fs.rename n target).dir = d := rfl
  have htarget : d target = some i := by
    show Function.update (Function.update fs.dir target (fs.dir n)) n none target = some i
    rw [Function.update_of_ne (Ne.symm hn), Function.update_self, hi]
  have hold : ∀ a j, a ≠ target → d a = some j → a ≠ n ∧ fs.dir a = some j := by
    intro a j ha hj
    have hj' : Function.update (Function.update fs.dir target (fs.dir n)) n none a = some j := hj
    by_cases han : a = n
    · rw [han, Function.update_self] at hj'
      exact nomatch hj'
    · rw [Function.update_of_ne han, Function.update_of_ne ha] at hj'
      exact ⟨han, hj'⟩
  have hother : ∀ a j, a ≠ target → d a = some j → j ≠ i := by
    rintro a j ha hj rfl
    obtain ⟨han, hj'⟩ := hold a j ha hj
    exact han (h.inj fs.dir h.mem a n j hj' hi)
  have hmem : ∀ e, e ∈ (fs.rename n target).dirs → e ∈ fs.dirs ∨ e = d := by
    intro e he
    simpa [Fs.rename, Fs.setDir] using he
  refine ⟨by simp [Fs.rename, Fs.setDir], fun e he a b j ha hb => ?_, fun e he a j ha => ?_,
    fun e he a j hat ha => ?_, fun e he j hj => ?_, ?_, fun e he => ?_⟩
  · rcases hmem e he with he | rfl
    · exact h.inj e he a b j ha hb
    · by_cases hat : a = target
      · by_cases hbt : b = target
        · rw [hat, hbt]
        · rw [hat, htarget] at ha
          exact absurd (Option.some.inj ha).symm (hother b j hbt hb)
      · by_cases hbt : b = target
        · rw [hbt, htarget] at hb
          exact absurd (Option.some.inj hb).symm (hother a j hat ha)
        · exact h.inj fs.dir h.mem a b j (hold a j hat ha).2 (hold b j hbt hb).2
  · rcases hmem e he with he | rfl
    · exact h.lt e he a j ha
    · by_cases hat : a = target
      · rw [hat, htarget] at ha
        cases ha
        exact h.lt fs.dir h.mem n i hi
      · exact h.lt fs.dir h.mem a j (hold a j hat ha).2
  · rw [hdir] at ha
    rcases hmem e he with he | rfl
    · exact h.apart e he a j hat (hold a j hat ha).2
    · rw [htarget]
      exact fun hc => hother a j hat ha (Option.some.inj hc).symm
  · rcases hmem e he with he | rfl
    · exact h.disk e he j hj
    · rw [htarget] at hj
      cases hj
      exact hs
  · rw [Reg.value_write]
    show (d target).map fs.data = _
    rw [htarget]
    rfl
  · have hle : r.durable ≤ r.log.length := h.durable_le
    rcases hmem e he with he | rfl
    · obtain ⟨k, h1, h2, h3⟩ := h.past e he
      refine ⟨k, h1, ?_, ?_⟩
      · simp only [Reg.step, List.length_append, List.length_singleton]
        omega
      · rw [Reg.after_write h2]
        exact h3
    · refine ⟨r.log.length + 1, ?_, ?_, ?_⟩
      · simp only [Reg.step]
        omega
      · simp [Reg.step]
      · have hv := Reg.value_write r (some (fs.data i))
        rw [Reg.value] at hv
        simp only [Reg.step, List.length_append, List.length_singleton] at hv ⊢
        rw [hv, htarget]
        rfl

end

end Lota.Core.CrashFs

import Lota.Core.Bytes
import Lota.L6Agent.ProtectedPids
import Mathlib.Data.List.Induction

/-!
# Executable memory of a protected task (`bpf/lota_lsm.bpf.c`)

The hooks `lota_mmap_file` and `lota_file_mprotect` decide on requests that
end in executable memory. Each looks at one request: the first at the file
and the protection asked for, the second at the file and the flags the
mapping already has.

The kernel around them is a memory of pages. A request is applied to the
pages it covers after the hook has agreed, and `PROT_WRITE` is refused without
`VM_MAYWRITE`. A page carries the number of the request that mapped it, so
that "since it was mapped" can be said of states.

* `mprotectPage_spec`, `step_page`: what one request does to a page.
* `write_xor_execute`: over every sequence of requests of a protected task, a
  page that is executable belongs to an allowed file and has never been
  writable since it was mapped.
-/
namespace Lota.L6.MemoryHooks
open Lota.Core Lota.L6.Protect

/-! ## The maps of the programs -/

/-- What the programs read of a file: the identity of its inode and what
`bpf_get_fsverity_digest` returns. -/
structure File where
  dev : UInt64
  ino : UInt64
  verityDigest : Option Bytes
  deriving DecidableEq

/-- The two allowlists. -/
structure Allowlists where
  allowVerity : Bytes → Option UInt32
  trustedLibs : UInt64 × UInt64 → Option UInt32

/-- What the hooks read apart from the request. -/
structure HookEnv where
  config : UInt32 → Option UInt32
  protectedPids : ProtectedPids
  current : Option Task

def modeEnforce : UInt32 := 1
def cfgMode : UInt32 := 0
def cfgStrictMmap : UInt32 := 1
def cfgBlockAnonExec : UInt32 := 3
def verityDigestSha512Size : Nat := 64

/-- mirrors src/bpf/lota_lsm.bpf.c:304-309 -/
def getMode (env : HookEnv) : UInt32 := (env.config cfgMode).getD modeEnforce

/-- mirrors src/bpf/lota_lsm.bpf.c:355-359 -/
def getConfig (env : HookEnv) (key : UInt32) : UInt32 := (env.config key).getD 0

/-- mirrors src/bpf/lota_lsm.bpf.c:513-522 -/
def isProtectedCurrentTask (env : HookEnv) : Bool := isProtectedTask env.protectedPids env.current

/-- An entry that is there and not zero. -/
def isSet (allowed : Option UInt32) : Bool := allowed.any (· ≠ 0)

/-- mirrors src/bpf/lota_lsm.bpf.c:600-637 -/
def isVerityAllowed (lists : Allowlists) (file : Option File) : Bool :=
  match file with
  | none => false
  | some file =>
    match file.verityDigest with
    | none => false
    | some digest =>
      if digest.length ≠ verityDigestSha512Size then false else isSet (lists.allowVerity digest)

/-- mirrors src/bpf/lota_lsm.bpf.c:639-664 -/
def isTrustedLib (lists : Allowlists) (file : Option File) : Bool :=
  match file with
  | none => false
  | some file =>
    if file.dev = 0 ∨ file.ino = 0 then false else isSet (lists.trustedLibs (file.dev, file.ino))

structure Prot where
  read : Bool
  write : Bool
  exec : Bool
  deriving DecidableEq

/-! ## The hooks -/

inductive Verdict where
  | allow
  | eperm
  deriving DecidableEq

/-- mirrors src/bpf/lota_lsm.bpf.c:1274-1415; `ret` is the verdict of the hooks
before this one. -/
def lotaMmapFile (lists : Allowlists) (env : HookEnv) (file : Option File) (reqprot prot : Prot)
    (ret : Verdict) : Verdict :=
  if ret ≠ .allow then .eperm
  else if prot.exec = false then .allow
  else match file with
    | none =>
      if getMode env = modeEnforce ∧ getConfig env cfgBlockAnonExec ≠ 0 ∧
        isProtectedCurrentTask env = true then .eperm
      else .allow
    | some file =>
      if getMode env = modeEnforce ∧ getConfig env cfgStrictMmap ≠ 0 ∧
        isProtectedCurrentTask env = true then
        if prot.write = true ∨ reqprot.write = true then .eperm
        else if isVerityAllowed lists (some file) = false ∧ isTrustedLib lists (some file) = false
          then .eperm
        else .allow
      else .allow

/-- A page of the task: the request that mapped it, the file of its VMA,
`VM_MAYWRITE`, and the protection. -/
structure Page where
  birth : Nat
  vmFile : Option File
  mayWrite : Bool
  prot : Prot
  deriving DecidableEq

/-- mirrors src/bpf/lota_lsm.bpf.c:1433-1572 -/
def lotaFileMprotect (lists : Allowlists) (env : HookEnv) (vma : Page) (prot : Prot) : Verdict :=
  if prot.exec = false then .allow
  else match vma.vmFile with
    | none =>
      if getMode env = modeEnforce ∧ getConfig env cfgBlockAnonExec ≠ 0 ∧
        isProtectedCurrentTask env = true then .eperm
      else .allow
    | some file =>
      if getMode env = modeEnforce ∧ getConfig env cfgStrictMmap ≠ 0 ∧
        isProtectedCurrentTask env = true then
        if vma.prot.write = true ∨ vma.mayWrite = true then .eperm
        else if isVerityAllowed lists (some file) = false ∧ isTrustedLib lists (some file) = false
          then .eperm
        else .allow
      else .allow

/-! ## The kernel around them -/

/-- An `mmap` request. An anonymous shared mapping gets a file of the kernel's
own, which the hook does not see. -/
structure Mmap where
  start : Nat
  len : Nat
  file : Option File
  reqprot : Prot
  prot : Prot
  shared : Bool
  /-- The descriptor is open for writing. -/
  fdWrite : Bool
  shmem : Option File
  ret : Verdict

inductive Request where
  | mmap (env : HookEnv) (m : Mmap)
  | mprotect (env : HookEnv) (start len : Nat) (prot : Prot)
  | munmap (env : HookEnv) (start len : Nat)

def Request.env : Request → HookEnv
  | .mmap env _ => env
  | .mprotect env _ _ _ => env
  | .munmap env _ _ => env

structure Memory where
  /-- How many requests there have been. -/
  clock : Nat
  pages : Nat → Option Page

/-- Private mappings and writable descriptors may become writable. -/
def Mmap.mayWrite (m : Mmap) : Bool := !m.shared || m.file.isNone || m.fdWrite

def Mmap.vmFile (m : Mmap) : Option File :=
  match m.file with
  | some file => some file
  | none => if m.shared then m.shmem else none

def Mmap.page (m : Mmap) (clock : Nat) : Page :=
  { birth := clock, vmFile := m.vmFile, mayWrite := m.mayWrite, prot := m.prot }

section
variable (lists : Allowlists)

def mprotectPage (env : HookEnv) (prot : Prot) (page : Page) : Option Page :=
  if prot.write = true ∧ page.mayWrite = false then none
  else if lotaFileMprotect lists env page prot ≠ .allow then none
  else some { page with prot }

/-- Page after page, up to the first one that is refused or not mapped. -/
def mprotectLoop (env : HookEnv) (prot : Prot) : List Nat → (Nat → Option Page) → (Nat → Option Page)
  | [], pages => pages
  | n :: ns, pages =>
    match pages n with
    | none => pages
    | some page =>
      match mprotectPage lists env prot page with
      | none => pages
      | some page' => mprotectLoop env prot ns (Function.update pages n (some page'))

def stepPages (s : Memory) : Request → (Nat → Option Page)
  | .mmap env m =>
    if m.prot.write = true ∧ m.mayWrite = false then s.pages
    else if lotaMmapFile lists env m.file m.reqprot m.prot m.ret ≠ .allow then s.pages
    else fun n => if m.start ≤ n ∧ n < m.start + m.len then some (m.page s.clock) else s.pages n
  | .mprotect env start len prot => mprotectLoop lists env prot (List.range' start len) s.pages
  | .munmap _ start len => fun n => if start ≤ n ∧ n < start + len then none else s.pages n

def step (s : Memory) (r : Request) : Memory := { clock := s.clock + 1, pages := stepPages lists s r }

def run (s : Memory) (rs : List Request) : Memory := rs.foldl (step lists) s

/-- The hooks are in force for this request. -/
def Enforcing (env : HookEnv) : Prop :=
  getMode env = modeEnforce ∧ getConfig env cfgStrictMmap ≠ 0 ∧ getConfig env cfgBlockAnonExec ≠ 0 ∧
    isProtectedCurrentTask env = true

/-- The file is on one of the two lists. -/
def Allowed (page : Page) : Prop :=
  ∃ file, page.vmFile = some file ∧
    (isVerityAllowed lists (some file) = true ∨ isTrustedLib lists (some file) = true)

/-- A memory without executable pages, as the kernel may hand it over. -/
structure Start (s : Memory) : Prop where
  noExec : ∀ n page, s.pages n = some page → page.prot.exec = false
  mayWrite : ∀ n page, s.pages n = some page → page.prot.write = true → page.mayWrite = true
  birth : ∀ n page, s.pages n = some page → page.birth < s.clock

end

/-! ## What one request does to a page -/

section
variable {lists : Allowlists} {env : HookEnv}

/-- A file that both lists do not refuse is on one of them. -/
theorem listed_of_not {file : Option File}
    (h : ¬ (isVerityAllowed lists file = false ∧ isTrustedLib lists file = false)) :
    isVerityAllowed lists file = true ∨ isTrustedLib lists file = true := by
  by_cases hv : isVerityAllowed lists file = true
  · exact .inl hv
  · by_cases ht : isTrustedLib lists file = true
    · exact .inr ht
    · exact absurd ⟨Bool.eq_false_iff.mpr hv, Bool.eq_false_iff.mpr ht⟩ h

/-- An allowed executable mapping: the file is on a list and nothing asks for
write access. -/
theorem lotaMmapFile_exec (henv : Enforcing env) {file : Option File} {reqprot prot : Prot}
    {ret : Verdict}
    (h : lotaMmapFile lists env file reqprot prot ret = .allow) (hx : prot.exec = true) :
    prot.write = false ∧
      ∃ f, file = some f ∧
      (isVerityAllowed lists (some f) = true ∨ isTrustedLib lists (some f) = true) := by
  obtain ⟨hmode, hstrict, hanon, hprot⟩ := henv
  unfold lotaMmapFile at h
  split at h
  · cases h
  · rw [if_neg (by rw [hx]; exact Bool.noConfusion)] at h
    cases file with
    | none =>
      simp only at h
      rw [if_pos ⟨hmode, hanon, hprot⟩] at h
      cases h
    | some f =>
      simp only at h
      rw [if_pos ⟨hmode, hstrict, hprot⟩] at h
      split at h
      · cases h
      · rename_i hw
        split at h
        · cases h
        · rename_i hlist
          exact ⟨Bool.eq_false_iff.mpr fun hwr => hw (.inl hwr), f, rfl, listed_of_not hlist⟩

/-- An allowed change to executable: the mapping may not become writable, and
its file is on a list. -/
theorem lotaFileMprotect_exec (henv : Enforcing env) {vma : Page} {prot : Prot}
    (h : lotaFileMprotect lists env vma prot = .allow) (hx : prot.exec = true) :
    vma.mayWrite = false ∧ Allowed lists vma := by
  obtain ⟨hmode, hstrict, hanon, hprot⟩ := henv
  unfold lotaFileMprotect at h
  rw [if_neg (by rw [hx]; exact Bool.noConfusion)] at h
  cases hf : vma.vmFile with
  | none =>
    simp only [hf] at h
    rw [if_pos ⟨hmode, hanon, hprot⟩] at h
    cases h
  | some f =>
    simp only [hf] at h
    rw [if_pos ⟨hmode, hstrict, hprot⟩] at h
    split at h
    · cases h
    · rename_i hw
      split at h
      · cases h
      · rename_i hlist
        exact ⟨Bool.eq_false_iff.mpr fun hmay => hw (.inr hmay), f, hf, listed_of_not hlist⟩

/-- **A page under `mprotect`.** It keeps its file and `VM_MAYWRITE`; it
becomes writable only with the latter, executable only without it and from an
allowed file. -/
theorem mprotectPage_spec (henv : Enforcing env) {prot : Prot} {page page' : Page}
    (h : mprotectPage lists env prot page = some page') :
    page' = { page with prot } ∧ (prot.write = true → page.mayWrite = true) ∧
      (prot.exec = true → page.mayWrite = false ∧ Allowed lists page) := by
  unfold mprotectPage at h
  split at h
  · cases h
  · rename_i hw
    split at h
    · cases h
    · rename_i hv
      refine ⟨(Option.some.inj h).symm, ?_, ?_⟩
      · intro hwr
        by_contra hmay
        exact hw ⟨hwr, Bool.eq_false_iff.mpr hmay⟩
      · intro hx
        exact lotaFileMprotect_exec henv (Decidable.not_not.mp hv) hx

theorem mprotectLoop_notMem {prot : Prot} {n : Nat} {ns : List Nat} (hn : n ∉ ns)
    (pages : Nat → Option Page) : mprotectLoop lists env prot ns pages n = pages n := by
  induction ns generalizing pages with
  | nil => rfl
  | cons k ns ih =>
    have hk : n ≠ k := fun h => hn (h ▸ List.mem_cons_self)
    have hns : n ∉ ns := fun h => hn (List.mem_cons_of_mem k h)
    unfold mprotectLoop
    cases hp : pages k with
    | none => rfl
    | some page =>
      simp only
      cases hm : mprotectPage lists env prot page with
      | none => rfl
      | some page' =>
        simp only
        rw [ih hns, Function.update_of_ne hk]

/-- The loop leaves a page alone or changes it once. -/
theorem mprotectLoop_page {prot : Prot} {ns : List Nat} (hnodup : ns.Nodup)
    (pages : Nat → Option Page) (n : Nat) : mprotectLoop lists env prot ns pages n = pages n ∨
      ∃ page page', pages n = some page ∧ mprotectPage lists env prot page = some page' ∧
        mprotectLoop lists env prot ns pages n = some page' := by
  induction ns generalizing pages with
  | nil => exact .inl rfl
  | cons k ns ih =>
    obtain ⟨hk, hns⟩ := List.nodup_cons.mp hnodup
    unfold mprotectLoop
    cases hp : pages k with
    | none => exact .inl rfl
    | some page =>
      simp only
      cases hm : mprotectPage lists env prot page with
      | none => exact .inl rfl
      | some page' =>
        simp only
        by_cases hnk : n = k
        · subst hnk
          refine .inr ⟨page, page', hp, hm, ?_⟩
          rw [mprotectLoop_notMem hk, Function.update_self]
        · have hrest := ih hns (Function.update pages k (some page'))
          rw [Function.update_of_ne hnk] at hrest
          exact hrest

/-- **Step.** A page after a request: as before, changed by `mprotect`, or
mapped by this request. -/
theorem step_page {s : Memory} {r : Request} (henv : Enforcing r.env) {n : Nat} {page : Page}
    (h : (step lists s r).pages n = some page) :
    s.pages n = some page ∨
      (∃ old, s.pages n = some old ∧ page = { old with prot := page.prot } ∧
        (page.prot.write = true → old.mayWrite = true) ∧
        (page.prot.exec = true → old.mayWrite = false ∧ Allowed lists old)) ∨
      (page.birth = s.clock ∧ (page.prot.write = true → page.mayWrite = true) ∧
        (page.prot.exec = true → page.prot.write = false ∧ Allowed lists page)) := by
  change stepPages lists s r n = some page at h
  cases r with
  | mmap env m =>
    unfold stepPages at h
    simp only at h
    split at h
    · exact .inl h
    · rename_i hw
      split at h
      · exact .inl h
      · rename_i hv
        simp only at h
        split at h
        · have hpage := Option.some.inj h
          subst hpage
          refine .inr (.inr ⟨rfl, ?_, ?_⟩)
          · intro hwr
            by_contra hmay
            exact hw ⟨hwr, Bool.eq_false_iff.mpr hmay⟩
          · intro hx
            obtain ⟨hwr, f, hf, hlist⟩ := lotaMmapFile_exec henv (Decidable.not_not.mp hv) hx
            refine ⟨hwr, f, ?_, hlist⟩
            show m.vmFile = some f
            unfold Mmap.vmFile
            rw [hf]
        · exact .inl h
  | mprotect env start len prot =>
    have hnodup : (List.range' start len).Nodup := List.nodup_range'
    rcases mprotectLoop_page hnodup s.pages n with hsame | ⟨old, page', hold, hm, hloop⟩
    · exact .inl (hsame.symm.trans h)
    · obtain ⟨hpage, hwr, hx⟩ := mprotectPage_spec henv hm
      have heq : page' = page := Option.some.inj (hloop.symm.trans h)
      rw [heq] at hpage
      have hprot : page.prot = prot := by rw [hpage]
      refine .inr (.inl ⟨old, hold, ?_, ?_, ?_⟩)
      · rw [hprot]
        exact hpage
      · rw [hprot]
        exact hwr
      · rw [hprot]
        exact hx
  | munmap env start len =>
    unfold stepPages at h
    simp only at h
    split at h
    · cases h
    · exact .inl h

end

/-! ## Every sequence of requests -/

section
variable (lists : Allowlists)

/-- A page with this birth was writable after some of the requests. -/
def WasWritable (s : Memory) (rs : List Request) (n birth : Nat) : Prop :=
  ∃ before after page, rs = before ++ after ∧ (run lists s before).pages n = some page ∧
    page.birth = birth ∧ page.prot.write = true

theorem run_concat (s : Memory) (rs : List Request) (r : Request) :
    run lists s (rs ++ [r]) = step lists (run lists s rs) r := by
  unfold run
  rw [List.foldl_append]
  rfl

/-- One more request: writable before, or now. -/
theorem wasWritable_concat {s : Memory} {rs : List Request} {r : Request} {n birth : Nat}
    (h : WasWritable lists s (rs ++ [r]) n birth) :
    WasWritable lists s rs n birth ∨
      ∃ page, (run lists s (rs ++ [r])).pages n = some page ∧ page.birth = birth ∧
      page.prot.write = true := by
  obtain ⟨before, after, page, heq, hpage, hb, hw⟩ := h
  rcases List.eq_nil_or_concat after with hnil | ⟨after', x, hafter⟩
  · rw [hnil, List.append_nil] at heq
    exact .inr ⟨page, heq ▸ hpage, hb, hw⟩
  · rw [hafter, List.concat_eq_append, ← List.append_assoc] at heq
    have hrs := (List.append_inj' heq rfl).1
    exact .inl ⟨before, after', page, hrs, hpage, hb, hw⟩

/-- An executable page has never been writable; a page that has been writable
may be so again; a number stands for one mapping. -/
structure Inv (s : Memory) (rs : List Request) : Prop where
  exec : ∀ n page, (run lists s rs).pages n = some page → page.prot.exec = true →
    Allowed lists page ∧ page.prot.write = false ∧ ¬ WasWritable lists s rs n page.birth
  mayWrite : ∀ n page, (run lists s rs).pages n = some page →
    page.prot.write = true ∨ WasWritable lists s rs n page.birth → page.mayWrite = true
  birth : ∀ n page, (run lists s rs).pages n = some page → page.birth < (run lists s rs).clock
  past : ∀ n birth, WasWritable lists s rs n birth → birth < (run lists s rs).clock

theorem start_inv {s : Memory} (hs : Start s) : Inv lists s [] := by
  have hpast : ∀ n birth, WasWritable lists s [] n birth → ∃ page, s.pages n = some page ∧
      page.birth = birth ∧ page.prot.write = true := by
    intro n birth h
    obtain ⟨before, after, page, heq, hpage, hb, hw⟩ := h
    rw [(List.append_eq_nil_iff.mp heq.symm).1] at hpage
    exact ⟨page, hpage, hb, hw⟩
  refine ⟨?_, ?_, hs.birth, ?_⟩
  · intro n page hp hx
    rw [hs.noExec n page hp] at hx
    cases hx
  · intro n page hp h
    rcases h with hw | hw
    · exact hs.mayWrite n page hp hw
    · obtain ⟨page', hp', -, hw'⟩ := hpast n _ hw
      rw [Option.some.inj (hp.symm.trans hp')]
      exact hs.mayWrite n page' hp' hw'
  · intro n birth h
    obtain ⟨page, hp, hb, -⟩ := hpast n birth h
    rw [← hb]
    exact hs.birth n page hp

/-! What one more request `r` does to the pages, one part of the invariant
at a time. -/

section
variable {lists : Allowlists} {s : Memory} {rs : List Request} {r : Request} {n : Nat} {page : Page}

theorem clock_concat : (run lists s (rs ++ [r])).clock = (run lists s rs).clock + 1 := by
  rw [run_concat]
  rfl

theorem birth_concat (hi : Inv lists s rs) (henv : Enforcing r.env)
    (hp : (run lists s (rs ++ [r])).pages n = some page) :
    page.birth < (run lists s (rs ++ [r])).clock := by
  rw [clock_concat]
  rw [run_concat] at hp
  rcases step_page henv hp with hsame | ⟨old, hold, hpage, -, -⟩ | ⟨hb, -, -⟩
  · have := hi.birth n page hsame
    omega
  · have := hi.birth n old hold
    rw [hpage]
    show old.birth < _
    omega
  · omega

/-- A page that was writable under this number before can be writable,
whatever the request did to it. -/
theorem mayWrite_concat (hi : Inv lists s rs) (henv : Enforcing r.env)
    (hp : (run lists s (rs ++ [r])).pages n = some page)
    (h : page.prot.write = true ∨ WasWritable lists s rs n page.birth) : page.mayWrite = true := by
  rw [run_concat] at hp
  rcases step_page henv hp with hsame | ⟨old, hold, hpage, hwr, -⟩ | ⟨hb, hwr, -⟩
  · exact hi.mayWrite n page hsame h
  · have hm : page.mayWrite = old.mayWrite := by rw [hpage]
    have hb : page.birth = old.birth := by rw [hpage]
    rw [hm]
    rcases h with hw | hw
    · exact hwr hw
    · exact hi.mayWrite n old hold (.inr (hb ▸ hw))
  · rcases h with hw | hw
    · exact hwr hw
    · have hlt := hi.past n _ hw
      omega

/-- An executable page after the request was not writable before it. -/
theorem exec_concat (hi : Inv lists s rs) (henv : Enforcing r.env)
    (hp : (run lists s (rs ++ [r])).pages n = some page) (hx : page.prot.exec = true) :
    Allowed lists page ∧ page.prot.write = false ∧ ¬ WasWritable lists s rs n page.birth := by
  have hmay := mayWrite_concat hi henv hp
  rw [run_concat] at hp
  rcases step_page henv hp with hsame | ⟨old, hold, hpage, hwr, hex⟩ | ⟨hb, hwr, hex⟩
  · exact hi.exec n page hsame hx
  · -- Made executable by `mprotect`: the mapping could never be writable.
    obtain ⟨hno, f, hf, hlist⟩ := hex hx
    have hm : page.mayWrite = false := by
      rw [hpage]
      exact hno
    refine ⟨⟨f, ?_, hlist⟩, ?_, ?_⟩
    · rw [hpage]
      exact hf
    · refine Bool.eq_false_iff.mpr fun hw => ?_
      rw [hmay (.inl hw)] at hm
      cases hm
    · intro hw
      rw [hmay (.inr hw)] at hm
      cases hm
  · obtain ⟨hw, hallow⟩ := hex hx
    refine ⟨hallow, hw, ?_⟩
    intro hpast
    have hlt := hi.past n _ hpast
    omega

end

/-- **Run.** One more request keeps the invariant. -/
theorem concat_inv {s : Memory} {rs : List Request} {r : Request} (hi : Inv lists s rs)
    (henv : Enforcing r.env) : Inv lists s (rs ++ [r]) := by
  refine ⟨?_, ?_, fun n page hp => birth_concat hi henv hp, ?_⟩
  · intro n page hp hx
    obtain ⟨hallow, hw, hnot⟩ := exec_concat hi henv hp hx
    refine ⟨hallow, hw, ?_⟩
    intro hpast
    rcases wasWritable_concat lists hpast with hold | ⟨page', hp', -, hw'⟩
    · exact hnot hold
    · rw [← Option.some.inj (hp.symm.trans hp'), hw] at hw'
      cases hw'
  · intro n page hp h
    apply mayWrite_concat hi henv hp
    rcases h with hw | hpast
    · exact .inl hw
    · rcases wasWritable_concat lists hpast with hold | ⟨page', hp', -, hw⟩
      · exact .inr hold
      · rw [Option.some.inj (hp.symm.trans hp')]
        exact .inl hw
  · intro n birth hpast
    rcases wasWritable_concat lists hpast with hold | ⟨page', hp', hb, -⟩
    · have hlt := hi.past n birth hold
      rw [clock_concat]
      omega
    · rw [← hb]
      exact birth_concat hi henv hp'

theorem requests_inv {s : Memory} (hs : Start s) (rs : List Request) (hrs : ∀ r ∈ rs, Enforcing r.env) :
    Inv lists s rs := by
  induction rs using List.reverseRecOn with
  | nil => exact start_inv lists hs
  | append_singleton rs r ih =>
    apply concat_inv
    · apply ih
      intro r' hr'
      exact hrs r' (List.mem_append_left _ hr')
    · exact hrs r (List.mem_append_right _ List.mem_cons_self)

/-- **W^X.** A protected task starts without executable pages and makes any
sequence of requests while the hooks are in force. Then every page that is
executable belongs to a file that is fs-verity allowed or a trusted library,
is not writable, and has not been writable at any time since it was mapped. -/
theorem write_xor_execute {s : Memory} (hs : Start s) (rs : List Request)
    (hrs : ∀ r ∈ rs, Enforcing r.env)
    (n : Nat) (page : Page) (hp : (run lists s rs).pages n = some page) (hx : page.prot.exec = true) :
    Allowed lists page ∧ page.prot.write = false ∧
      ∀ before after old, rs = before ++ after → (run lists s before).pages n = some old →
        old.birth = page.birth → old.prot.write = false := by
  obtain ⟨hallow, hw, hpast⟩ := (requests_inv lists hs rs hrs).exec n page hp hx
  refine ⟨hallow, hw, ?_⟩
  intro before after old heq hold hb
  refine Bool.eq_false_iff.mpr fun hwr => ?_
  exact hpast ⟨before, after, old, heq, hold, hb, hwr⟩

end

/-- A library on the list, and a task that is protected. -/
def lib : File := { dev := 1, ino := 2, verityDigest := none }
def libLists : Allowlists :=
  { allowVerity := fun _ => none, trustedLibs := fun key => if key = (1, 2) then some 1 else none }
def game : Task := { pid := 100, tgid := 100, startBoottime := 90000000, groupLeader := some 90000000 }
def gameEnv : HookEnv where
  config := fun _ => some 1
  protectedPids := AList.insert 100 9 ∅
  current := some game

def readExec : Prot := { read := true, write := false, exec := true }
def readWrite : Prot := { read := true, write := true, exec := false }

def mapLib : Mmap where
  start := 16
  len := 2
  file := some lib
  reqprot := readExec
  prot := readExec
  shared := false
  fdWrite := false
  shmem := none
  ret := .allow

/-- The library mapped executable, its second page made writable and then
asked to be executable again, which is refused: the first page is still as
the theorem says. -/
theorem write_xor_execute_lib :
    Allowed libLists (mapLib.page 0) ∧ (mapLib.page 0).prot.write = false ∧
      ∀ before after old,
      [.mmap gameEnv mapLib, .mprotect gameEnv 17 1 readWrite, .mprotect gameEnv 17 1 readExec] =
          before ++ after →
        (run libLists ⟨0, fun _ => none⟩ before).pages 16 = some old →
        old.birth = (mapLib.page 0).birth → old.prot.write = false := by
  have henv : Enforcing gameEnv := by
    refine ⟨rfl, ?_, ?_, ?_⟩
    · decide
    · decide
    · decide
  refine write_xor_execute libLists (s := ⟨0, fun _ => none⟩) ⟨?_, ?_, ?_⟩
    [.mmap gameEnv mapLib, .mprotect gameEnv 17 1 readWrite, .mprotect gameEnv 17 1 readExec] ?_ 16
      (mapLib.page 0) rfl rfl
  · intro n page h
    cases h
  · intro n page h
    cases h
  · intro n page h
    cases h
  · intro r hr
    simp only [List.mem_cons, List.not_mem_nil, or_false] at hr
    rcases hr with rfl | rfl | rfl
    · exact henv
    · exact henv
    · exact henv

end Lota.L6.MemoryHooks

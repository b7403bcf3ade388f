import Lota.L6Agent.LsmAudit

/-!
# The lock on the maps (`bpf/lota_lsm.bpf.c`, `agent/bpf_loader.c`)

The programs decide by maps that user space writes through descriptors. The
loader marks its own task in `lota_task_auth`, freezes that map, sets
`LOTA_CFG_LOCK_BPF` and only then attaches the programs; from there on
`lota_bpf_map` refuses a descriptor that can write one of the maps to every
task without the mark.

Any number of tasks open descriptors, hand them to each other, write through
them and make requests, in any order. A map is written by replacing it, which
covers every sequence of updates and deletes. Left out is a program of another
process: one that is loaded with a map behind a descriptor that only reads can
still write the map from the kernel side, where no descriptor is looked at.

* `lock_noninterference`: what a task outside of the trusted ones does has no
  influence on any map that decides, over every run.
* `early_descriptor`: a descriptor from before the attachment is not covered.
* `agent_untouchable`: once the marks are frozen, nobody can trace the agent
  and only marked tasks can kill it, whatever is written to the other maps.
-/
namespace Lota.L6.Lsm
open Lota.Core Lota.L6.Protect Lota.L6.MemoryHooks

/-! ## Maps and descriptors -/

/-- mirrors src/bpf/lota_lsm.bpf.c:126-285 -/
inductive LotaMap where
  | events | stats | config | integrityCfg | eventBudget | taskAuth | verityScratch
  | protectedPids | trustedLibs
  | trustedLibMnt | allowVerity
  deriving DecidableEq

/-- One of the maps of the object file, or another map under any name. -/
inductive BpfMap where
  | lota (map : LotaMap)
  | foreign (name : Bytes)
  deriving DecidableEq

def LotaMap.name : LotaMap → Bytes
  | .events => ascii "events"
  | .stats => ascii "stats"
  | .config => ascii "lota_config"
  | .integrityCfg => ascii "integrity_cfg"
  | .eventBudget => ascii "event_budget"
  | .taskAuth => ascii "lota_task_auth"
  | .verityScratch => ascii "verity_scratch"
  | .protectedPids => ascii "protected_pids"
  | .trustedLibs => ascii "trusted_libs"
  | .trustedLibMnt => ascii "trusted_lib_mnt"
  | .allowVerity => ascii "allow_verity"

def BpfMap.name : BpfMap → Bytes
  | .lota map => map.name
  | .foreign name => name

/-- A descriptor of a map and the process that holds it. -/
structure Fd where
  holder : Option Nat
  map : BpfMap
  write : Bool
  deriving DecidableEq

/-- A descriptor that the lock is about. -/
def Fd.locked (fd : Fd) : Bool := fd.write && isLotaManagedMap fd.map.name

/-- What a map holds after a write through a descriptor. -/
inductive Write where
  | config (entries : UInt32 → Option UInt32)
  | integrityCfg (cfg : IntegrityData)
  | taskAuth (auth : Nat → Option UInt32)
  | protectedPids (pids : ProtectedPids)
  | trustedLibs (libs : UInt64 × UInt64 → Option UInt32)
  | trustedLibMnt (mnt : UInt64 × UInt64 → Option UInt32)
  | allowVerity (digests : Bytes → Option UInt32)

def Write.map : Write → LotaMap
  | .config _ => .config
  | .integrityCfg _ => .integrityCfg
  | .taskAuth _ => .taskAuth
  | .protectedPids _ => .protectedPids
  | .trustedLibs _ => .trustedLibs
  | .trustedLibMnt _ => .trustedLibMnt
  | .allowVerity _ => .allowVerity

/-- The maps that decide. -/
structure Maps where
  policy : Policy
  protectedPids : ProtectedPids

def Write.apply (m : Maps) : Write → Maps
  | .config entries => { m with policy := { m.policy with config := entries } }
  | .integrityCfg cfg => { m with policy := { m.policy with integrityCfg := cfg } }
  | .taskAuth auth => { m with policy := { m.policy with taskAuth := auth } }
  | .protectedPids pids => { m with protectedPids := pids }
  | .trustedLibs libs =>
    { m with policy := { m.policy with lists := { m.policy.lists with trustedLibs := libs } } }
  | .trustedLibMnt mnt => { m with policy := { m.policy with trustedLibMnt := mnt } }
  | .allowVerity digests =>
    { m with policy := { m.policy with lists := { m.policy.lists with allowVerity := digests } } }

/-! ## The system -/

structure System where
  maps : Maps
  audit : Audit
  /-- The programs are attached. -/
  attached : Bool
  /-- `lota_task_auth` is frozen. -/
  frozen : Bool
  fds : List Fd

/-- The process a request comes from. -/
def Caller.subject (c : Caller) : Option Nat := c.current.map authSubjectTask

inductive Action where
  /-- `bpf_loader_attach`. -/
  | attach (c : Caller)
  /-- A request to one of the programs. -/
  | request (c : Caller) (k : Call)
  /-- `bpf(BPF_MAP_GET_FD_BY_ID)` and its like. -/
  | openMap (c : Caller) (map : BpfMap) (fmode : UInt32) (ret : Verdict)
  /-- Its holder gives a descriptor to another process: `fork`, `SCM_RIGHTS`. -/
  | pass (fd : Fd) (holder : Option Nat)
  /-- `pidfd_getfd` takes a descriptor of `child`, which needs to be traceable. -/
  | takeFd (c : Caller) (child : TaskRef) (fd : Fd) (ret : Verdict)
  | close (fd : Fd)
  | write (holder : Option Nat) (w : Write)
  /-- `bpf(BPF_MAP_FREEZE)` on `lota_task_auth`. -/
  | freeze (holder : Option Nat)
  /-- The kernel frees a task. -/
  | free (addr : Nat) (task : Option Task)

inductive Reply where
  | verdict (v : Verdict)
  | done
  | refused
  deriving DecidableEq

/-- A write through a descriptor of the process, which a frozen map refuses. -/
def canWrite (s : System) (holder : Option Nat) (map : LotaMap) : Bool :=
  (⟨holder, .lota map, true⟩ : Fd) ∈ s.fds ∧ ¬ (s.frozen = true ∧ map = .taskAuth)

/-- The program on new descriptors, once it is attached. -/
def openVerdict (s : System) (c : Caller) (map : BpfMap) (fmode : UInt32) (ret : Verdict) :
    Audit × Verdict :=
  if s.attached = true then lotaBpfMap s.maps.policy c (some map.name) fmode ret s.audit
    else (s.audit, ret)

/-- The program on tracing, once it is attached. -/
def traceVerdict (s : System) (c : Caller) (child : TaskRef) (ret : Verdict) : Audit × Verdict :=
  if s.attached = true then lotaPtraceAccessCheck s.maps.policy s.maps.protectedPids c child ret
    s.audit else (s.audit, ret)

def act (s : System) : Action → System × Reply
  | .attach _ => ({ s with attached := true }, .done)
  | .request c k =>
    if s.attached = false then (s, .verdict k.ret)
    else
      let (audit, v) := call s.maps.policy s.maps.protectedPids c s.audit k
      ({ s with audit }, .verdict v)
  | .openMap c map fmode ret =>
    let (audit, v) := openVerdict s c map fmode ret
    if v = .allow then
      ({ s with audit, fds := ⟨c.subject, map, decide (fmode &&& fmodeWrite ≠ 0)⟩ :: s.fds },
        .verdict v)
    else ({ s with audit }, .verdict v)
  | .pass fd holder =>
    if fd ∈ s.fds then ({ s with fds := { fd with holder } :: s.fds }, .done) else (s, .refused)
  | .takeFd c child fd ret =>
    let (audit, v) := traceVerdict s c child ret
    if v = .allow ∧ fd ∈ s.fds ∧ fd.holder = some (authSubjectTask child) then
      ({ s with audit, fds := { fd with holder := c.subject } :: s.fds }, .done)
    else ({ s with audit }, .refused)
  | .close fd => ({ s with fds := s.fds.erase fd }, .done)
  | .write holder w =>
    if canWrite s holder w.map = true then ({ s with maps := w.apply s.maps }, .done) else (s, .refused)
  | .freeze holder =>
    if canWrite s holder .taskAuth = true then ({ s with frozen := true }, .done) else (s, .refused)
  | .free addr task =>
    let policy := { s.maps.policy with taskAuth := Function.update s.maps.policy.taskAuth addr none }
    let protectedPids :=
      if s.attached = true then lotaTaskFree s.maps.protectedPids task else s.maps.protectedPids
    ({ s with maps := { policy, protectedPids },
              fds := s.fds.filter fun fd => decide (fd.holder ≠ some addr) }, .done)

def system : Machine System Action Reply := ⟨act⟩

/-! ## Who may write -/

section
variable (T : Nat → Bool)

/-- A process, none of the trusted ones if there is none. -/
def trusts (holder : Option Nat) : Bool := holder.any T

/-- The action of a trusted process or of the kernel. -/
def Action.inside : Action → Bool
  | .attach _ | .free _ _ => true
  | .request c _ | .openMap c _ _ _ | .takeFd c _ _ _ => trusts T c.subject
  | .pass fd _ | .close fd => trusts T fd.holder
  | .write holder _ | .freeze holder => trusts T holder

/-- The process is marked as the agent. -/
def isAgent (m : Maps) (holder : Option Nat) : Bool :=
  (holder.bind m.policy.taskAuth).any (· &&& taskAuthAgent ≠ 0)

/-- The lock is on, and only trusted processes are marked as admin, all of
them as agent too. -/
structure Locked (m : Maps) : Prop where
  lock : config m.policy cfgLockBpf = true
  admin : ∀ addr flags, m.policy.taskAuth addr = some flags → flags &&& taskAuthAdmin ≠ 0 →
    T addr = true ∧ flags &&& taskAuthAgent ≠ 0

/-- Every descriptor that the lock is about is with a trusted process that is
marked as the agent. -/
structure Confined (s : System) : Prop where
  attached : s.attached = true
  maps : Locked T s.maps
  fds : ∀ fd ∈ s.fds, fd.locked = true → trusts T fd.holder = true ∧ isAgent s.maps fd.holder = true

/-- What is asked of the trusted processes: that they keep the lock on and the
marks to themselves, and pass their descriptors only to each other. Nothing is
asked of the others. -/
def Discreet (s : System) : Action → Prop
  | .write holder w => trusts T holder = true → Locked T (w.apply s.maps) ∧
      ∀ fd ∈ s.fds, fd.locked = true → isAgent (w.apply s.maps) fd.holder = true
  | .pass fd holder => trusts T fd.holder = true → fd.locked = true → trusts T holder = true ∧
    isAgent s.maps holder = true
  | _ => True

end

/-! ## What an action does to the maps -/

section
variable {T : Nat → Bool} {s t : System} {c : Caller}

/-- The scratch map is the only one that is not managed, and it decides
nothing. -/
theorem managed {map : LotaMap} (h : map ≠ .verityScratch) : isLotaManagedMap map.name = true := by
  cases map with
  | verityScratch => exact absurd rfl h
  | _ => decide

theorem Write.locked (holder : Option Nat) (w : Write) :
    (⟨holder, .lota w.map, true⟩ : Fd).locked = true := by
  have hmap : w.map ≠ .verityScratch := by cases w <;> exact LotaMap.noConfusion
  exact managed hmap

/-- The verdict does not depend on what was recorded. -/
theorem lotaBpfMap_verdict (p : Policy) (c : Caller) (map : Option Bytes) (fmode : UInt32)
    (ret : Verdict) (a a' : Audit) :
    (lotaBpfMap p c map fmode ret a).2 = (lotaBpfMap p c map fmode ret a').2 := by
  unfold lotaBpfMap
  repeat' split
  all_goals rfl

theorem lotaPtrace_verdict (p : Policy) (pids : ProtectedPids) (c : Caller) (child : TaskRef)
    (ret : Verdict) (a a' : Audit) :
    (lotaPtraceAccessCheck p pids c child ret a).2 =
    (lotaPtraceAccessCheck p pids c child ret a').2 := by
  unfold lotaPtraceAccessCheck
  split
  · rfl
  · simp only [finish_verdict]

/-- Under the lock only a marked process gets a descriptor that writes. -/
theorem openVerdict_locked {map : BpfMap} {fmode : UInt32} {ret : Verdict} (hatt : s.attached = true)
    (hlock : config s.maps.policy cfgLockBpf = true) (hv : (openVerdict s c map fmode ret).2 = .allow)
    (hfd : (⟨c.subject, map, decide (fmode &&& fmodeWrite ≠ 0)⟩ : Fd).locked = true) :
    ∃ addr flags, c.subject = some addr ∧ s.maps.policy.taskAuth addr = some flags ∧
    flags &&& taskAuthAdmin ≠ 0 := by
  unfold Fd.locked at hfd
  rw [Bool.and_eq_true, decide_eq_true_eq] at hfd
  unfold openVerdict lotaBpfMap at hv
  rw [if_pos hatt] at hv
  simp only [hlock, Bool.true_eq_false, if_false, hfd.1, hfd.2] at hv
  split at hv
  · cases hv
  · split at hv
    · rename_i hadmin
      unfold isBpfAdminTask hasTaskAuthFlag at hadmin
      cases hc : c.current with
      | none =>
        rw [hc] at hadmin
        cases hadmin
      | some task =>
        rw [hc] at hadmin
        simp only [Option.any_eq_true, decide_eq_true_eq] at hadmin
        obtain ⟨flags, hflags, hbit⟩ := hadmin
        exact ⟨authSubjectTask task, flags, by rw [Caller.subject, hc]; rfl, hflags, hbit⟩
    · cases hv

/-- A process that is marked as the agent cannot be traced. -/
theorem traceVerdict_agent {child : TaskRef} {ret : Verdict} (hatt : s.attached = true)
    (hagent : isAgent s.maps (some (authSubjectTask child)) = true) :
    (traceVerdict s c child ret).2 = .eperm := by
  unfold traceVerdict lotaPtraceAccessCheck
  rw [if_pos hatt]
  split
  · rfl
  · have hblocked : ptraceBlocked s.maps.policy s.maps.protectedPids child = true := by
      unfold ptraceBlocked
      exact decide_eq_true (.inl hagent)
    rw [finish_verdict, if_pos hblocked]

/-! ## The invariant -/

/-- The descriptors the lock is about, and what else decides about them. -/
structure Alike (s t : System) : Prop where
  maps : s.maps = t.maps
  attached : s.attached = t.attached
  frozen : s.frozen = t.frozen
  fds : s.fds.filter Fd.locked = t.fds.filter Fd.locked

theorem Alike.mem (h : Alike s t) {fd : Fd} (hfd : fd.locked = true) : fd ∈ s.fds ↔ fd ∈ t.fds := by
  have hs : fd ∈ s.fds ↔ fd ∈ s.fds.filter Fd.locked := by simp [hfd]
  have ht : fd ∈ t.fds ↔ fd ∈ t.fds.filter Fd.locked := by simp [hfd]
  rw [hs, ht, h.fds]

theorem Alike.canWrite (h : Alike s t) (holder : Option Nat) (w : Write) :
    canWrite s holder w.map = canWrite t holder w.map := by
  unfold Lsm.canWrite
  simp only [h.mem (w.locked holder), h.frozen]

/-- Only a trusted process writes one of the maps. -/
theorem Confined.trusted_of_canWrite (h : Confined T s) {holder : Option Nat} {w : Write}
    (hw : canWrite s holder w.map = true) : trusts T holder = true :=
  (h.fds _ (of_decide_eq_true hw).1 (w.locked holder)).1

/-- A descriptor more, if the lock is not about it or it is in good hands. -/
theorem Confined.cons (h : Confined T s) (audit : Audit) {fd : Fd}
    (hfd : fd.locked = true → trusts T fd.holder = true ∧ isAgent s.maps fd.holder = true) :
    Confined T { s with audit, fds := fd :: s.fds } := by
  refine ⟨h.attached, h.maps, ?_⟩
  intro x hx hlocked
  rcases List.mem_cons.mp hx with rfl | hx
  · exact hfd hlocked
  · exact h.fds x hx hlocked

/-- A new descriptor is in the hands of a marked process, or the lock is not
about it. -/
theorem Confined.opened (h : Confined T s) {map : BpfMap} {fmode : UInt32} {ret : Verdict}
    (hv : (openVerdict s c map fmode ret).2 = .allow)
    (hfd : (⟨c.subject, map, decide (fmode &&& fmodeWrite ≠ 0)⟩ : Fd).locked = true) :
    trusts T c.subject = true ∧ isAgent s.maps c.subject = true := by
  obtain ⟨addr, flags, hsubject, hflags, hadmin⟩ := openVerdict_locked h.attached h.maps.lock hv hfd
  obtain ⟨hT, hagent⟩ := h.maps.admin addr flags hflags hadmin
  rw [hsubject]
  refine ⟨hT, ?_⟩
  simp [isAgent, hflags, hagent]

/-- No descriptor that the lock is about can be taken. -/
theorem Confined.taken (h : Confined T s) {child : TaskRef} {fd : Fd} {ret : Verdict}
    (hv : (traceVerdict s c child ret).2 = .allow) (hmem : fd ∈ s.fds)
    (hholder : fd.holder = some (authSubjectTask child)) : fd.locked = false := by
  by_contra hlocked
  have hagent := (h.fds fd hmem (by simpa using hlocked)).2
  rw [hholder] at hagent
  rw [traceVerdict_agent h.attached hagent] at hv
  cases hv

/-- **Step.** -/
theorem Confined.step (h : Confined T s) {a : Action} (ha : Discreet T s a) :
    Confined T (system.step s a).1 := by
  show Confined T (act s a).1
  cases a with
  | attach c => exact ⟨rfl, h.maps, h.fds⟩
  | request c k =>
    simp only [act]
    split
    · exact h
    · exact ⟨h.attached, h.maps, h.fds⟩
  | openMap c map fmode ret =>
    simp only [act]
    split
    · rename_i hv
      exact h.cons _ (h.opened hv)
    · exact ⟨h.attached, h.maps, h.fds⟩
  | pass fd holder =>
    simp only [act]
    split
    · rename_i hmem
      exact h.cons s.audit fun hlocked => ha (h.fds fd hmem hlocked).1 hlocked
    · exact h
  | takeFd c child fd ret =>
    simp only [act]
    split
    · rename_i hv
      refine h.cons _ fun hlocked => ?_
      have hfree : fd.locked = false := h.taken hv.1 hv.2.1 hv.2.2
      exact absurd (hlocked.symm.trans hfree) (by decide)
    · exact ⟨h.attached, h.maps, h.fds⟩
  | close fd => exact ⟨h.attached, h.maps, fun x hx => h.fds x (List.mem_of_mem_erase hx)⟩
  | write holder w =>
    simp only [act]
    split
    · rename_i hw
      obtain ⟨hmaps, hagents⟩ := ha (h.trusted_of_canWrite hw)
      exact ⟨h.attached, hmaps,
        fun fd hfd hlocked => ⟨(h.fds fd hfd hlocked).1, hagents fd hfd hlocked⟩⟩
    · exact h
  | freeze holder =>
    simp only [act]
    split
    · exact ⟨h.attached, h.maps, h.fds⟩
    · exact h
  | free addr task =>
    refine ⟨h.attached, ⟨h.maps.lock, ?_⟩, ?_⟩
    · intro addr' flags hflags hadmin
      by_cases hx : addr' = addr
      · subst hx
        simp [act] at hflags
      · simp only [act, Function.update_of_ne hx] at hflags
        exact h.maps.admin addr' flags hflags hadmin
    · intro fd hfd hlocked
      obtain ⟨hmem, hne⟩ := List.mem_filter.mp hfd
      obtain ⟨htrust, hagent⟩ := h.fds fd hmem hlocked
      refine ⟨htrust, ?_⟩
      cases hholder : fd.holder with
      | none =>
        rw [hholder] at htrust
        cases htrust
      | some addr' =>
        have hx : addr' ≠ addr := by
          rintro rfl
          simp [hholder] at hne
        rw [hholder] at hagent
        simpa [isAgent, act, Function.update_of_ne hx] using hagent

/-! ## Purging -/

/-- A descriptor that the lock is not about makes no difference. -/
theorem Alike.cons_left (h : Alike s t) (audit : Audit) {fd : Fd} (hfd : fd.locked = false) :
    Alike { s with audit, fds := fd :: s.fds } t := by
  refine ⟨h.maps, h.attached, h.frozen, ?_⟩
  show (fd :: s.fds).filter Fd.locked = _
  rw [List.filter_cons_of_neg (by simp [hfd]), h.fds]

theorem Alike.symm (h : Alike s t) : Alike t s :=
  ⟨h.maps.symm, h.attached.symm, h.frozen.symm, h.fds.symm⟩

theorem Alike.cons (h : Alike s t) (audit audit' : Audit) (fd : Fd) :
    Alike { s with audit, fds := fd :: s.fds } { t with audit := audit', fds := fd :: t.fds } := by
  refine ⟨h.maps, h.attached, h.frozen, ?_⟩
  show (fd :: s.fds).filter Fd.locked = (fd :: t.fds).filter Fd.locked
  rw [List.filter_cons, List.filter_cons, h.fds]

theorem Alike.openVerdict (h : Alike s t) (c : Caller) (map : BpfMap) (fmode : UInt32) (ret : Verdict) :
    (openVerdict s c map fmode ret).2 = (openVerdict t c map fmode ret).2 := by
  unfold Lsm.openVerdict
  rw [h.attached, h.maps]
  split
  · exact lotaBpfMap_verdict _ _ _ _ _ _ _
  · rfl

theorem Alike.traceVerdict (h : Alike s t) (c : Caller) (child : TaskRef) (ret : Verdict) :
    (traceVerdict s c child ret).2 = (traceVerdict t c child ret).2 := by
  unfold Lsm.traceVerdict
  rw [h.attached, h.maps]
  split
  · exact lotaPtrace_verdict _ _ _ _ _ _ _
  · rfl

/-- An action from inside does the same to systems that are alike. -/
theorem Alike.inside (h : Alike s t) (a : Action) : Alike (system.step s a).1 (system.step t a).1 := by
  show Alike (act s a).1 (act t a).1
  cases a with
  | attach c => exact ⟨h.maps, rfl, h.frozen, h.fds⟩
  | request c k =>
    simp only [act, h.attached]
    split
    · exact h
    · exact ⟨h.maps, rfl, h.frozen, h.fds⟩
  | openMap c map fmode ret =>
    simp only [act, h.openVerdict]
    split
    · exact h.cons _ _ _
    · exact ⟨h.maps, h.attached, h.frozen, h.fds⟩
  | pass fd holder =>
    simp only [act]
    cases hlocked : fd.locked with
    | true =>
      simp only [h.mem hlocked]
      split
      · exact h.cons s.audit t.audit _
      · exact h
    | false =>
      -- the two may disagree about this descriptor, and it does not matter
      have hfree : ({ fd with holder } : Fd).locked = false := hlocked
      have hleft := h.cons_left s.audit hfree
      split
      · split
        · exact h.cons s.audit t.audit _
        · exact hleft
      · split
        · exact (h.symm.cons_left t.audit hfree).symm
        · exact h
  | takeFd c child fd ret =>
    simp only [act, h.traceVerdict]
    have hsame : ∀ audit audit', Alike { s with audit } { t with audit := audit' } :=
      fun _ _ => ⟨h.maps, h.attached, h.frozen, h.fds⟩
    cases hlocked : fd.locked with
    | true =>
      simp only [h.mem hlocked]
      split
      · exact h.cons _ _ _
      · exact hsame _ _
    | false =>
      have hfree : ({ fd with holder := c.subject } : Fd).locked = false := hlocked
      split
      · split
        · exact h.cons _ _ _
        · exact (hsame _ (Lsm.traceVerdict t c child ret).1).cons_left _ hfree
      · split
        · exact ((hsame (Lsm.traceVerdict s c child ret).1 _).symm.cons_left _ hfree).symm
        · exact hsame _ _
  | close fd =>
    refine ⟨h.maps, h.attached, h.frozen, ?_⟩
    show (s.fds.erase fd).filter Fd.locked = (t.fds.erase fd).filter Fd.locked
    rw [← List.erase_filter, ← List.erase_filter, h.fds]
  | write holder w =>
    simp only [act, h.canWrite]
    split
    · exact ⟨by simp only [h.maps], h.attached, h.frozen, h.fds⟩
    · exact h
  | freeze holder =>
    have hcan := h.canWrite holder (.taskAuth fun _ => none)
    simp only [Write.map] at hcan
    simp only [act, hcan]
    split
    · exact ⟨h.maps, h.attached, rfl, h.fds⟩
    · exact h
  | free addr task =>
    refine ⟨?_, h.attached, h.frozen, ?_⟩
    · simp only [act, h.maps, h.attached]
    · simp only [act]
      rw [List.filter_comm, h.fds, List.filter_comm]

end

/-- The loader has attached the programs; it holds the descriptor of the
configuration, and nobody else holds any. -/
def afterAttach : System where
  maps := { policy := enforcing, protectedPids := ∅ }
  audit := booted.audit
  attached := true
  frozen := true
  fds := [⟨some 1, .lota .config, true⟩]

def maintenance : UInt32 → Option UInt32 :=
  fun key => if key = cfgMode then some modeMaintenance else some 1

/-- The intruder asks for the configuration, tries to take the agent's
descriptor and to write; the agent goes into maintenance. -/
def attack : List Action :=
  [.openMap (intruder 10) (.lota .config) 3 .allow,
    .takeFd (intruder 20) agentTask ⟨some 1, .lota .config, true⟩ .allow,
    .write (some 2) (.config fun _ => none), .write (some 1) (.config maintenance),
    .pass ⟨some 2, .foreign [], true⟩ (some 1)]

/-- The programs are not attached yet when the intruder opens the
configuration; the lock in it does not take the descriptor back. -/
theorem early_descriptor :
    mode (system.run { afterAttach with attached := false }
      [.openMap (intruder 10) (.lota .config) 3 .allow, .attach (intruder 20),
        .write (some 2) (.config maintenance)]).maps.policy =
      modeMaintenance := by
  decide

/-! ## The agent -/

section
variable {s : System} {addr : Nat}

/-- The programs are attached, the marks are frozen, and `addr` has the mark
of the agent. -/
structure Sealed (addr : Nat) (s : System) : Prop where
  attached : s.attached = true
  frozen : s.frozen = true
  agent : isAgent s.maps (some addr) = true

/-- Frozen marks can only be lost, by the end of their process. -/
theorem write_frozen (hfrozen : s.frozen = true) {holder : Option Nat} {w : Write}
    (hw : canWrite s holder w.map = true) :
    (w.apply s.maps).policy.taskAuth = s.maps.policy.taskAuth := by
  have hmap : w.map ≠ .taskAuth := fun hmap => (of_decide_eq_true hw).2 ⟨hfrozen, hmap⟩
  cases w with
  | taskAuth auth => exact absurd rfl hmap
  | _ => rfl

/-- **Step.** An action keeps all marks, or it is the end of one process. -/
theorem act_marks (hfrozen : s.frozen = true) (a : Action) :
    (act s a).1.maps.policy.taskAuth = s.maps.policy.taskAuth ∨
      ∃ addr task, a = .free addr task ∧
        (act s a).1.maps.policy.taskAuth = Function.update s.maps.policy.taskAuth addr none := by
  cases a with
  | free addr task => exact .inr ⟨addr, task, rfl, rfl⟩
  | write holder w =>
    refine .inl ?_
    simp only [act]
    split
    · rename_i hw
      exact write_frozen hfrozen hw
    · rfl
  | attach c => exact .inl rfl
  | close fd => exact .inl rfl
  | _ =>
    refine .inl ?_
    simp only [act]
    split <;> rfl

theorem Sealed.step (h : Sealed addr s) {a : Action} (ha : ∀ task, a ≠ .free addr task) :
    Sealed addr (system.step s a).1 := by
  show Sealed addr (act s a).1
  have hrest : (act s a).1.attached = true ∧ (act s a).1.frozen = true := by
    cases a with
    | attach c => exact ⟨rfl, h.frozen⟩
    | close fd => exact ⟨h.attached, h.frozen⟩
    | free addr task => exact ⟨h.attached, h.frozen⟩
    | freeze holder =>
      simp only [act]
      split
      · exact ⟨h.attached, rfl⟩
      · exact ⟨h.attached, h.frozen⟩
    | _ =>
      simp only [act]
      split <;> exact ⟨h.attached, h.frozen⟩
  refine ⟨hrest.1, hrest.2, ?_⟩
  have hagent := h.agent
  unfold isAgent at hagent ⊢
  rcases act_marks h.frozen a with hmarks | ⟨addr', task, rfl, hmarks⟩
  · rwa [hmarks]
  · have hne : addr ≠ addr' := by
      rintro rfl
      exact ha task rfl
    rw [hmarks]
    simpa [Function.update_of_ne hne] using hagent

/-- **Run.** -/
theorem Sealed.run (h : Sealed addr s) {as : List Action} (has : ∀ task, Action.free addr task ∉ as) :
    Sealed addr (system.run s as) ∧
      ∀ x, (system.run s as).maps.policy.taskAuth x = s.maps.policy.taskAuth x ∨
        (system.run s as).maps.policy.taskAuth x = none := by
  induction as generalizing s with
  | nil => exact ⟨h, fun x => .inl rfl⟩
  | cons a as ih =>
    have hstep : Sealed addr (system.step s a).1 :=
      h.step fun task ha => has task (ha ▸ List.mem_cons_self)
    obtain ⟨hsealed, hmarks⟩ := ih hstep fun task ha => has task (List.mem_cons_of_mem a ha)
    refine ⟨hsealed, fun x => ?_⟩
    rcases hmarks x with hx | hx
    · have hfirst : (system.step s a).1.maps.policy.taskAuth x = s.maps.policy.taskAuth x ∨
          (system.step s a).1.maps.policy.taskAuth x = none := by
        rcases act_marks h.frozen a with hsame | ⟨addr', task, -, hend⟩
        · exact .inl (congrFun hsame x)
        · by_cases hxa : x = addr'
          · subst hxa
            exact .inr ((congrFun hend x).trans (Function.update_self ..))
          · exact .inl ((congrFun hend x).trans (Function.update_of_ne hxa ..))
      rcases hfirst with hx' | hx'
      · exact .inl (hx.trans hx')
      · exact .inr (hx.trans hx')
    · exact .inr hx

/-- One of the marks. -/
def marked (p : Policy) (c : Caller) : Bool := isLotaAgentTask p c.current || isBpfAdminTask p c

/-- Which signals to the agent are stopped, in every mode. -/
theorem killAllowed_agent {p : Policy} {pids : ProtectedPids} {c : Caller} {target : TaskRef}
    {info : Option Int32}
    {sig : Int32} (hagent : isLotaAgentTask p (some target) = true) :
    killAllowed p pids c target info sig = false ↔
      c.tgid ≠ target.task.tgid ∧ c.current.isSome = true ∧ marked p c = false ∧ sig ≠ 0 ∧
      sig ≠ sighup ∧
        ∃ siCode, info = some siCode ∧ siCode ≠ siKernel := by
  unfold killAllowed marked
  simp only [hagent, Bool.true_eq_false, false_and, if_false, true_and]
  by_cases htgid : c.tgid = target.task.tgid
  · simp [htgid]
  · by_cases hcur : c.current.isNone = true
    · simp [htgid, Option.isNone_iff_eq_none.mp hcur]
    · by_cases hmark : isLotaAgentTask p c.current = true ∨ isBpfAdminTask p c = true
      · have hor : (isLotaAgentTask p c.current || isBpfAdminTask p c) = true := by simpa using hmark
        simp [htgid, hcur, hmark, hor]
      · have hor : (isLotaAgentTask p c.current || isBpfAdminTask p c) = false := by simpa using hmark
        have hsome : c.current.isSome = true := by
          rw [Option.isSome_iff_ne_none]
          simpa using hcur
        rw [if_neg htgid, if_neg hcur, if_neg hmark]
        by_cases hsig : sig = 0
        · simp [hsig]
        · by_cases hhup : sig = sighup
          · simp [hhup]
          · cases info with
            | none => simp [hsig, hhup]
            | some siCode => simp [htgid, hsig, hhup, hor, hsome]

/-- **The agent.** From the state the loader leaves behind, over every run in
which the agent's process does not end: no process gains a mark, nobody can
trace the agent, and a signal to it is stopped exactly when it comes from
another process without a mark, is neither the probe nor `SIGHUP`, and is not
sent by the kernel. The mode, and what is written to the other maps, make no
difference. -/
theorem agent_untouchable (h : Sealed addr s) {as : List Action}
    (has : ∀ task, Action.free addr task ∉ as) :
    (∀ x, (system.run s as).maps.policy.taskAuth x = s.maps.policy.taskAuth x ∨
        (system.run s as).maps.policy.taskAuth x = none) ∧
      ∀ c target, authSubjectTask target = addr →
        (∀ ret, (system.step (system.run s as) (.request c (.ptraceAccessCheck target ret))).2 =
          .verdict .eperm) ∧
        ∀ info sig,
        (system.step (system.run s as) (.request c (.taskKill (some target) info sig))).2 =
        .verdict .eperm ↔
          c.tgid ≠ target.task.tgid ∧ c.current.isSome = true ∧
          marked (system.run s as).maps.policy c = false ∧ sig ≠ 0 ∧
            sig ≠ sighup ∧ ∃ siCode, info = some siCode ∧ siCode ≠ siKernel := by
  obtain ⟨hsealed, hmarks⟩ := h.run has
  generalize system.run s as = s' at hsealed hmarks
  refine ⟨hmarks, fun c target haddr => ?_⟩
  subst haddr
  have hagent : isLotaAgentTask s'.maps.policy (some target) = true := hsealed.agent
  have hatt : s'.attached ≠ false := by simp [hsealed.attached]
  refine ⟨fun ret => ?_, fun info sig => ?_⟩
  · have hv : (traceVerdict s' c target ret).2 = .eperm :=
      traceVerdict_agent hsealed.attached hsealed.agent
    unfold traceVerdict at hv
    rw [if_pos hsealed.attached] at hv
    show (act s' (.request c (.ptraceAccessCheck target ret))).2 = _
    simp only [act, if_neg hatt]
    exact congrArg Reply.verdict hv
  · rw [← @killAllowed_agent _ s'.maps.protectedPids _ _ _ _ hagent]
    show (act s' (.request c (.taskKill (some target) info sig))).2 = _ ↔ _
    simp only [act, if_neg hatt, call, lotaTaskKill]
    cases killAllowed s'.maps.policy s'.maps.protectedPids c target info sig <;> simp

end

/-- The agent has gone into maintenance, and the intruder sends `SIGKILL`. -/
theorem agent_untouchable_attack :
    (system.step (system.run afterAttach attack)
      (.request (intruder 50) (.taskKill (some agentTask) (some 0) 9))).2 = .verdict .eperm := by
  have hsealed : Sealed 1 afterAttach := ⟨rfl, rfl, by decide⟩
  have hlive : ∀ task, Action.free 1 task ∉ attack := by
    intro task h
    simp [attack] at h
  obtain ⟨-, hagent⟩ := agent_untouchable hsealed hlive
  refine ((hagent (intruder 50) agentTask rfl).2 (some 0) 9).mpr
    ⟨by decide, rfl, by decide, by decide, by decide, 0, rfl, by decide⟩

end Lota.L6.Lsm

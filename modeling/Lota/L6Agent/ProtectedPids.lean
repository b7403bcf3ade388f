import Lota.Core.BoundedMap
import Lota.Core.Bytes
import Lota.Core.Machine

/-!
# Protected processes (`bpf/lota_lsm.bpf.c`, `agent/bpf_loader.c`)

The map `protected_pids` binds a TGID to the start time of the process that
holds it. `bpf_loader_protect_pid` reads the start time from `/proc` and then
writes the entry; the kernel may do anything between the two. The hook
`task_free` runs some time after a task has gone, when its PID may belong to
another process, and deletes the entry of that PID without a look at the
start time in it.

* `stays_protected_iff`: over every interleaving, a process instance stays
  protected from a successful protect call until an unprotect call for its
  PID or its exit exactly when no `task_free` of an earlier leader with the
  same PID comes between.
* `late_task_free`: such a callback takes the protection of a live process.
-/
namespace Lota.L6.Protect
open Lota.Core

inductive Errno where
  | einval | enotsup | eopnotsupp | enoent | e2big
  deriving DecidableEq, Repr

def maxProtectedPids : Nat := 1024

/-- TGID ↦ `start_time_ticks`. mirrors src/bpf/lota_lsm.bpf.c:222-239 -/
abbrev ProtectedPids := BoundedMap UInt32 UInt64

/-- What the programs read of a `task_struct`; `groupLeader` is the start of
the leader's `task_struct`. -/
structure Task where
  pid : UInt32
  tgid : UInt32
  startBoottime : UInt64
  groupLeader : Option UInt64
  deriving DecidableEq

/-! ## The kernel programs -/

def userHz : UInt64 := 100
def nsecPerSec : UInt64 := 1000000000

/-- mirrors src/bpf/lota_lsm.bpf.c:409-422 -/
def getTaskStartTicks (startNs : UInt64) : UInt64 := startNs / (nsecPerSec / userHz)

/-- mirrors src/bpf/lota_lsm.bpf.c:424-444 -/
def isProtectedTask (protectedPids : ProtectedPids) (task : Option Task) : Bool :=
  match task with
  | none => false
  | some task =>
    match protectedPids.get task.tgid with
    | none => false
    | some startTimeTicks =>
      let taskStartTicks := match task.groupLeader with
        | some leader => getTaskStartTicks leader
        | none => getTaskStartTicks task.startBoottime
      taskStartTicks ≠ 0 && startTimeTicks == taskStartTicks

/-- mirrors src/bpf/lota_lsm.bpf.c:1782-1799 -/
def lotaTaskFree (protectedPids : ProtectedPids) (task : Option Task) : ProtectedPids :=
  match task with
  | none => protectedPids
  | some task =>
    if task.pid ≠ task.tgid then protectedPids else (protectedPids.delete task.tgid).getD protectedPids

/-! ## The loader -/

structure LoaderCtx where
  loaded : Bool
  /-- `protected_pids_fd` is open. -/
  protectedPidsFd : Bool
  /-- `running_in_initial_pidns`. -/
  initialPidns : Bool

/-- The kernel and the agent: the tasks by PID, the tasks that have gone but
are not freed, the map, and the call that has read its start time and not yet
written it. The agent has one thread, so there is at most one such call. -/
structure State where
  live : UInt32 → Option Task
  gone : List Task
  protectedPids : ProtectedPids
  call : Option (UInt32 × UInt64)

/-- Field 22 of `/proc/<pid>/stat`. An error of `running_in_initial_pidns`
itself is read as another namespace here, `EOPNOTSUPP`; the source returns it.
mirrors src/agent/bpf_loader.c:132-188 -/
def readPidStartTimeTicks (ctx : LoaderCtx) (s : State) (pid : UInt32) : Except Errno UInt64 :=
  if ctx.initialPidns = false then .error .eopnotsupp
  else match s.live pid with
    | none => .error .enoent
    | some task => .ok (getTaskStartTicks task.startBoottime)

/-- `bpf_loader_protect_pid` up to the map update.
mirrors src/agent/bpf_loader.c:1504-1520 -/
def protectPidRead (ctx : LoaderCtx) (s : State) (pid : UInt32) : Except Errno UInt64 :=
  if ctx.loaded = false then .error .einval
  else if ctx.protectedPidsFd = false then .error .enotsup
  else match readPidStartTimeTicks ctx s pid with
    | .error e => .error e
    | .ok startTimeTicks => if startTimeTicks = 0 then .error .einval else .ok startTimeTicks

/-- The map update of `bpf_loader_protect_pid`.
mirrors src/agent/bpf_loader.c:1522-1526 -/
def protectPidWrite (protectedPids : ProtectedPids) (pid : UInt32) (startTimeTicks : UInt64) :
    Except Errno ProtectedPids :=
  match protectedPids.update maxProtectedPids pid startTimeTicks with
  | none => .error .e2big
  | some protectedPids => .ok protectedPids

/-- mirrors src/agent/bpf_loader.c:1529-1541 -/
def unprotectPid (ctx : LoaderCtx) (protectedPids : ProtectedPids) (pid : UInt32) :
    Except Errno ProtectedPids :=
  if ctx.loaded = false then .error .einval
  else if ctx.protectedPidsFd = false then .error .enotsup
  else match protectedPids.delete pid with
    | none => .error .enoent
    | some protectedPids => .ok protectedPids

/-! ## Interleavings -/

inductive Event where
  /-- A new task takes a free PID. -/
  | fork (task : Task)
  /-- The task of this PID goes and its PID is free again. -/
  | exit (pid : UInt32)
  /-- The callback for a task that has gone. -/
  | taskFree (task : Task)
  /-- `bpf_loader_protect_pid` starts: it reads the start time. -/
  | protectRead (pid : UInt32)
  /-- The call goes on: it writes the entry and returns. -/
  | protectWrite
  /-- `bpf_loader_unprotect_pid`. -/
  | unprotect (pid : UInt32)

inductive Out where
  /-- The event cannot happen here. -/
  | refused
  | done
  /-- A call of the agent returns. -/
  | returned (r : Except Errno Unit)
  deriving DecidableEq

variable (ctx : LoaderCtx)

def step (s : State) : Event → State × Out
  | .fork task =>
    match s.live task.pid with
    | some _ => (s, .refused)
    | none => ({ s with live := Function.update s.live task.pid (some task) }, .done)
  | .exit pid =>
    match s.live pid with
    | none => (s, .refused)
    | some task => ({ s with live := Function.update s.live pid none, gone := task :: s.gone }, .done)
  | .taskFree task =>
    if task ∈ s.gone then
      ({ s with gone := s.gone.erase task, protectedPids := lotaTaskFree s.protectedPids
                  (some task) }, .done)
    else (s, .refused)
  | .protectRead pid =>
    match s.call with
    | some _ => (s, .refused)
    | none =>
      match protectPidRead ctx s pid with
      | .error e => (s, .returned (.error e))
      | .ok startTimeTicks => ({ s with call := some (pid, startTimeTicks) }, .done)
  | .protectWrite =>
    match s.call with
    | none => (s, .refused)
    | some (pid, startTimeTicks) =>
      match protectPidWrite s.protectedPids pid startTimeTicks with
      | .error e => ({ s with call := none }, .returned (.error e))
      | .ok protectedPids => ({ s with call := none, protectedPids }, .returned (.ok ()))
  | .unprotect pid =>
    match s.call with
    | some _ => (s, .refused)
    | none =>
      match unprotectPid ctx s.protectedPids pid with
      | .error e => (s, .returned (.error e))
      | .ok protectedPids => ({ s with protectedPids }, .returned (.ok ()))

def machine : Machine State Event Out := ⟨step ctx⟩

def start : State := { live := fun _ => none, gone := [], protectedPids := ∅, call := none }

/-- A protect call returns success for the live process `leader`: the PID is
still that of `leader` and the start time it writes is that of `leader`. -/
structure Succeeds (s : State) (ev : Event) (leader : Task) : Prop where
  write : ev = .protectWrite
  returns : (step ctx s ev).2 = .returned (.ok ())
  call : s.call = some (leader.tgid, getTaskStartTicks leader.startBoottime)
  live : s.live leader.tgid = some leader
  isLeader : leader.pid = leader.tgid

/-- An unprotect call for the PID, or the exit of the process. -/
def Ends (leader : Task) (ev : Event) : Prop := ev = .unprotect leader.tgid ∨ ev = .exit leader.tgid

/-- A thread of the process. -/
def ThreadOf (leader task : Task) : Prop :=
  task.tgid = leader.tgid ∧ task.groupLeader = some leader.startBoottime

/-- From a protect call that succeeds on, every thread of the process is
protected until an unprotect call for that PID or the exit of the process. -/
def StaysProtected (evs : List Event) : Prop :=
  ∀ before ev after rest leader, evs = before ++ ev :: (after ++ rest) →
    Succeeds ctx ((machine ctx).run start before) ev leader → (∀ e ∈ after, ¬ Ends leader e) →
    ∀ task, ThreadOf leader task →
      isProtectedTask ((machine ctx).run start (before ++ ev :: after)).protectedPids (some task) = true

/-- No `task_free` of another leader with the same PID comes while a process
is protected. -/
def NoStaleFree (evs : List Event) : Prop :=
  ∀ before ev after rest leader task, evs = before ++ ev :: (after ++ .taskFree task :: rest) →
    Succeeds ctx ((machine ctx).run start before) ev leader → (∀ e ∈ after, ¬ Ends leader e) →
    task ∈ ((machine ctx).run start (before ++ ev :: after)).gone →
    ¬ (task.pid = leader.tgid ∧ task.tgid = leader.tgid)

/-! ## One process under protection -/

section
variable {ctx : LoaderCtx} {s : State} {leader : Task}

/-- The process `leader` is alive and its entry holds its own start time; a
call in flight for its PID will write the same. -/
structure Held (leader : Task) (s : State) : Prop where
  live : s.live leader.tgid = some leader
  entry : s.protectedPids.get leader.tgid = some (getTaskStartTicks leader.startBoottime)
  call : ∀ startTimeTicks, s.call = some (leader.tgid, startTimeTicks) →
    startTimeTicks = getTaskStartTicks leader.startBoottime
  ticks : getTaskStartTicks leader.startBoottime ≠ 0

theorem Held.protected (h : Held leader s) {task : Task} (ht : ThreadOf leader task) :
    isProtectedTask s.protectedPids (some task) = true := by
  unfold isProtectedTask
  simp only [ht.1, ht.2, h.entry]
  simp [h.ticks]

/-- What `protectPidRead` returns is the start time of the task that holds the
PID, and it is not zero. -/
theorem protectPidRead_ok {pid : UInt32} {startTimeTicks : UInt64}
    (h : protectPidRead ctx s pid = .ok startTimeTicks) :
    startTimeTicks ≠ 0 ∧ ∃ task, s.live pid = some task ∧
    startTimeTicks = getTaskStartTicks task.startBoottime := by
  unfold protectPidRead at h
  obtain ⟨-, h⟩ := except_guard_ok.mp h
  obtain ⟨-, h⟩ := except_guard_ok.mp h
  cases hr : readPidStartTimeTicks ctx s pid with
  | error e => rw [hr] at h; cases h
  | ok k =>
    simp only [hr] at h
    obtain ⟨hne, h⟩ := except_guard_ok.mp h
    have hk := Except.ok.inj h
    subst hk
    refine ⟨hne, ?_⟩
    unfold readPidStartTimeTicks at hr
    obtain ⟨-, hr⟩ := except_guard_ok.mp hr
    cases hl : s.live pid with
    | none => rw [hl] at hr; cases hr
    | some task =>
      simp only [hl] at hr
      exact ⟨task, rfl, (Except.ok.inj hr).symm⟩

theorem protectPidWrite_ok {m m' : ProtectedPids} {pid : UInt32} {startTimeTicks : UInt64}
    (h : protectPidWrite m pid startTimeTicks = .ok m') (tgid : UInt32) :
    m'.get tgid = if tgid = pid then some startTimeTicks else m.get tgid := by
  unfold protectPidWrite at h
  cases hu : m.update maxProtectedPids pid startTimeTicks with
  | none => rw [hu] at h; cases h
  | some m₁ =>
    simp only [hu] at h
    rw [← Except.ok.inj h]
    exact BoundedMap.get_update hu

theorem unprotectPid_ok {m m' : ProtectedPids} {pid : UInt32} (h : unprotectPid ctx m pid = .ok m')
    (tgid : UInt32) : m'.get tgid = if tgid = pid then none else m.get tgid := by
  unfold unprotectPid at h
  obtain ⟨-, h⟩ := except_guard_ok.mp h
  obtain ⟨-, h⟩ := except_guard_ok.mp h
  cases hd : m.delete pid with
  | none => rw [hd] at h; cases h
  | some m₁ =>
    simp only [hd] at h
    have hget := BoundedMap.get_delete m pid tgid
    rw [hd, Option.getD_some] at hget
    rw [← Except.ok.inj h]
    exact hget

theorem lotaTaskFree_get (m : ProtectedPids) (task : Task) (tgid : UInt32) :
    (lotaTaskFree m (some task)).get tgid =
      if task.pid = task.tgid ∧ tgid = task.tgid then none else m.get tgid := by
  unfold lotaTaskFree
  by_cases hp : task.pid = task.tgid
  · simp only [hp, ne_eq, not_true, if_false, true_and]
    exact BoundedMap.get_delete m task.tgid tgid
  · simp only [hp, ne_eq, not_false_iff, if_true, false_and, if_false]

/-- A callback that would take the entry of `leader`. -/
def Stale (leader : Task) (s : State) (ev : Event) : Prop :=
  ∃ task, ev = .taskFree task ∧ task ∈ s.gone ∧ task.pid = leader.tgid ∧ task.tgid = leader.tgid

/-- What an event does to the state: nothing, or what the event is for. -/
inductive Effect (ctx : LoaderCtx) (s : State) : Event → State → Prop where
  | none {ev : Event} : Effect ctx s ev s
  | fork {task : Task} (free : s.live task.pid = Option.none) :
    Effect ctx s (.fork task) { s with live := Function.update s.live task.pid (some task) }
  | exit {pid : UInt32} {task : Task} (live : s.live pid = some task) :
    Effect ctx s (.exit pid) { s with live := Function.update s.live pid Option.none,
                                      gone := task :: s.gone }
  | taskFree {task : Task} (gone : task ∈ s.gone) :
    Effect ctx s (.taskFree task)
      { s with gone := s.gone.erase task, protectedPids := lotaTaskFree s.protectedPids (some task) }
  | read {pid : UInt32} {startTimeTicks : UInt64}
    (read : protectPidRead ctx s pid = .ok startTimeTicks) :
    Effect ctx s (.protectRead pid) { s with call := some (pid, startTimeTicks) }
  | writeFailed : Effect ctx s .protectWrite { s with call := Option.none }
  | write {pid : UInt32} {startTimeTicks : UInt64} {m : ProtectedPids}
    (call : s.call = some (pid, startTimeTicks))
    (wrote : protectPidWrite s.protectedPids pid startTimeTicks = .ok m) :
    Effect ctx s .protectWrite { s with call := Option.none, protectedPids := m }
  | unprotect {pid : UInt32} {m : ProtectedPids}
    (deleted : unprotectPid ctx s.protectedPids pid = .ok m) :
    Effect ctx s (.unprotect pid) { s with protectedPids := m }

theorem step_effect (ev : Event) : Effect ctx s ev (step ctx s ev).1 := by
  cases ev with
  | fork task =>
    cases hl : s.live task.pid with
    | some t => simp only [step, hl]; exact .none
    | none => simp only [step, hl]; exact .fork hl
  | exit pid =>
    cases hl : s.live pid with
    | none => simp only [step, hl]; exact .none
    | some t => simp only [step, hl]; exact .exit hl
  | taskFree task =>
    by_cases hmem : task ∈ s.gone
    · simp only [step, hmem, if_true]; exact .taskFree hmem
    · simp only [step, hmem, if_false]; exact .none
  | protectRead pid =>
    cases hc : s.call with
    | some c => simp only [step, hc]; exact .none
    | none =>
      cases hr : protectPidRead ctx s pid with
      | error e => simp only [step, hc, hr]; exact .none
      | ok k => simp only [step, hc, hr]; exact .read hr
  | protectWrite =>
    cases hc : s.call with
    | none => simp only [step, hc]; exact .none
    | some c =>
      cases hw : protectPidWrite s.protectedPids c.1 c.2 with
      | error e => simp only [step, hc, hw]; exact .writeFailed
      | ok m => simp only [step, hc, hw]; exact .write hc hw
  | unprotect pid =>
    cases hc : s.call with
    | some c => simp only [step, hc]; exact .none
    | none =>
      cases hu : unprotectPid ctx s.protectedPids pid with
      | error e => simp only [step, hc, hu]; exact .none
      | ok m =>
        have heq : (step ctx s (.unprotect pid)).1 = { s with protectedPids := m } := by
          simp only [step, hc, hu]
        rw [heq]
        exact .unprotect hu

/-- **Step.** A process that is held stays so over every step that does not
end it and is no stale callback. -/
theorem held_step (h : Held leader s) {ev : Event} (hends : ¬ Ends leader ev)
    (hstale : ¬ Stale leader s ev) : Held leader (step ctx s ev).1 := by
  have heffect : Effect ctx s ev (step ctx s ev).1 := step_effect ev
  generalize (step ctx s ev).1 = s' at heffect
  cases heffect with
  | none => exact h
  | @fork task free =>
    -- The PID of the new task was free, so it is not that of `leader`.
    have hne : leader.tgid ≠ task.pid := by
      intro heq
      have hlive := h.live
      rw [heq, free] at hlive
      cases hlive
    exact ⟨(Function.update_of_ne hne _ _).trans h.live, h.entry, h.call, h.ticks⟩
  | @exit pid task live =>
    have hne : leader.tgid ≠ pid := fun heq => hends (.inr (by rw [heq]))
    exact ⟨(Function.update_of_ne hne _ _).trans h.live, h.entry, h.call, h.ticks⟩
  | @taskFree task gone =>
    refine ⟨h.live, ?_, h.call, h.ticks⟩
    simp only
    rw [lotaTaskFree_get, if_neg]
    · exact h.entry
    · rintro ⟨hpid, htgid⟩
      exact hstale ⟨task, rfl, gone, by rw [hpid, htgid], htgid.symm⟩
  | read hread =>
    refine ⟨h.live, h.entry, ?_, h.ticks⟩
    intro startTimeTicks hcall
    obtain ⟨hpid, hk⟩ := Prod.mk.inj (Option.some.inj hcall)
    obtain ⟨-, task, hlive, hticks⟩ := protectPidRead_ok hread
    rw [hpid, h.live] at hlive
    rw [← hk, hticks, Option.some.inj hlive]
  | writeFailed => exact ⟨h.live, h.entry, fun _ hcall => (by cases hcall), h.ticks⟩
  | @write pid k m call wrote =>
    refine ⟨h.live, ?_, fun _ hcall => (by cases hcall), h.ticks⟩
    simp only
    rw [protectPidWrite_ok wrote]
    split
    · rename_i heq
      rw [h.call k (by rw [call, heq])]
    · exact h.entry
  | @unprotect pid m deleted =>
    refine ⟨h.live, ?_, h.call, h.ticks⟩
    have hne : leader.tgid ≠ pid := fun heq => hends (.inl (by rw [heq]))
    simp only
    rw [unprotectPid_ok deleted, if_neg hne]
    exact h.entry

/-- A call in flight was so before the step, or the step has read its start
time. -/
theorem step_call {ev : Event} {c : UInt32 × UInt64} (h : (step ctx s ev).1.call = some c) :
    s.call = some c ∨ ∃ pid, protectPidRead ctx s pid = .ok c.2 := by
  have heffect : Effect ctx s ev (step ctx s ev).1 := step_effect ev
  generalize (step ctx s ev).1 = s' at heffect h
  cases heffect with
  | none => exact .inl h
  | fork => exact .inl h
  | exit => exact .inl h
  | taskFree => exact .inl h
  | @read pid k hread =>
    rw [← Option.some.inj h]
    exact .inr ⟨pid, hread⟩
  | writeFailed => cases h
  | write => cases h
  | unprotect => exact .inl h

/-- No call in flight carries a zero start time. -/
theorem call_ne_zero (evs : List Event) {s : State} (hs : ∀ c, s.call = some c → c.2 ≠ 0) :
    ∀ c, ((machine ctx).run s evs).call = some c → c.2 ≠ 0 := by
  induction evs generalizing s with
  | nil => exact hs
  | cons ev evs ih =>
    apply ih
    intro c hc
    rcases step_call hc with hold | ⟨pid, hread⟩
    · exact hs c hold
    · exact (protectPidRead_ok hread).1

/-- **Run.** A process that is held stays so along events of which none ends
it and none is a stale callback. -/
theorem held_run {evs : List Event} (h : Held leader s) (hends : ∀ e ∈ evs, ¬ Ends leader e)
    (hstale : ∀ before e rest, evs = before ++ e :: rest →
      ¬ Stale leader ((machine ctx).run s before) e) :
    Held leader ((machine ctx).run s evs) := by
  induction evs generalizing s with
  | nil => exact h
  | cons ev evs ih =>
    have hstep : Held leader (step ctx s ev).1 :=
      held_step h (hends ev List.mem_cons_self) (hstale [] ev evs rfl)
    apply ih hstep
    · intro e he
      exact hends e (List.mem_cons_of_mem ev he)
    · intro before e rest heq
      exact hstale (ev :: before) e rest (by rw [heq]; rfl)

/-- A protect call that succeeds holds the process. -/
theorem Succeeds.held {ev : Event} (h : Succeeds ctx s ev leader)
    (hne : ∀ c, s.call = some c → c.2 ≠ 0) : Held leader (step ctx s ev).1 := by
  obtain ⟨rfl, hret, hc, hlive, -⟩ := h
  have hticks := hne _ hc
  cases hw : protectPidWrite s.protectedPids leader.tgid (getTaskStartTicks leader.startBoottime) with
  | error e =>
    simp only [step, hc, hw] at hret
    cases hret
  | ok m =>
    simp only [step, hc, hw]
    refine ⟨hlive, ?_, fun _ hcall => (by cases hcall), hticks⟩
    simp only
    rw [protectPidWrite_ok hw, if_pos rfl]

/-- A stale callback takes the entry. -/
theorem stale_free {ev : Event} (h : Stale leader s ev) :
    (step ctx s ev).1.protectedPids.get leader.tgid = none := by
  obtain ⟨task, rfl, hmem, hpid, htgid⟩ := h
  simp only [step, hmem, if_true]
  rw [lotaTaskFree_get, if_pos]
  exact ⟨by rw [hpid, htgid], htgid.symm⟩

end

/-! ## The whole life of a process -/

/-- **A process stays protected.** Over every interleaving of forks, exits,
callbacks and calls, this holds exactly when no callback of an earlier leader
with the same PID comes while the process is protected. -/
theorem stays_protected_iff (evs : List Event) : StaysProtected ctx evs ↔ NoStaleFree ctx evs := by
  constructor
  · intro hstays before ev after rest leader task heq hsucc hends hgone hsame
    have hstale : Stale leader ((machine ctx).run start (before ++ ev :: after)) (.taskFree task) :=
      ⟨task, rfl, hgone, hsame⟩
    -- Right after the callback no thread of the process is protected.
    have hfree : ∀ e ∈ after ++ [.taskFree task], ¬ Ends leader e := by
      intro e he
      rcases List.mem_append.mp he with he | he
      · exact hends e he
      · rw [List.mem_singleton.mp he]
        rintro (h | h)
        · cases h
        · cases h
    have hprot :=
      hstays before ev (after ++ [.taskFree task]) rest leader (by rw [heq]; simp) hsucc hfree
      { leader with groupLeader := some leader.startBoottime } ⟨rfl, rfl⟩
    have hnone :
        ((machine ctx).run start (before ++ ev :: (after ++ [.taskFree task]))).protectedPids.get
        leader.tgid = none := by
      rw [← List.cons_append, ← List.append_assoc, Machine.run_append]
      exact stale_free hstale
    unfold isProtectedTask at hprot
    simp only [hnone] at hprot
    cases hprot
  · intro hno before ev after rest leader heq hsucc hends task ht
    have hheld := hsucc.held (call_ne_zero before (fun c hc => by cases hc))
    have hrun : Held leader ((machine ctx).run start (before ++ ev :: after)) := by
      rw [Machine.run_append]
      apply held_run hheld hends
      rintro pre e rest' hafter ⟨t, rfl, hmem, hsame⟩
      rw [hafter] at heq
      refine hno before ev pre (rest' ++ rest) leader t (by rw [heq]; simp) hsucc ?_ ?_ hsame
      · intro e he
        exact hends e (by rw [hafter]; exact List.mem_append_left _ he)
      · rw [Machine.run_append]
        exact hmem
    exact hrun.protected ht

def loadedCtx : LoaderCtx := { loaded := true, protectedPidsFd := true, initialPidns := true }

def oldLeader : Task :=
  { pid := 100, tgid := 100, startBoottime := 50000000, groupLeader := some 50000000 }
def newLeader : Task :=
  { pid := 100, tgid := 100, startBoottime := 90000000, groupLeader := some 90000000 }

/-- A process ends, its PID goes to a new one, that is protected, and then
the callback of the old one comes: the new process is alive and not protected
any more. -/
theorem late_task_free :
    ¬ StaysProtected loadedCtx
    [.fork oldLeader, .exit 100, .fork newLeader, .protectRead 100, .protectWrite,
      .taskFree oldLeader] := by
  intro hstays
  have hsucc :
      Succeeds loadedCtx ((machine loadedCtx).run start [.fork oldLeader, .exit 100, .fork newLeader,
      .protectRead 100]) .protectWrite newLeader := by
    refine ⟨rfl, ?_, ?_, ?_, rfl⟩
    · rfl
    · rfl
    · rfl
  have hprot := hstays [.fork oldLeader, .exit 100, .fork newLeader, .protectRead 100] .protectWrite
    [.taskFree oldLeader] [] newLeader rfl hsucc
    (by
      intro e he
      rw [List.mem_singleton.mp he]
      rintro (h | h)
      · cases h
      · cases h)
    newLeader ⟨rfl, rfl⟩
  have hnot :
      isProtectedTask ((machine loadedCtx).run start [.fork oldLeader, .exit 100, .fork newLeader,
      .protectRead 100, .protectWrite,
      .taskFree oldLeader]).protectedPids (some newLeader) = false := by
    decide
  rw [List.cons_append, List.cons_append, List.cons_append, List.cons_append, List.nil_append,
    hnot] at hprot
  cases hprot

end Lota.L6.Protect

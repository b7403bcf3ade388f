import Lota.Core.Machine
import Lota.L6Agent.ProtectedPids
import Mathlib.Data.List.Dedup
import Mathlib.Data.List.Sort
import Mathlib.Data.List.TakeWhile

/-!
# The attested set of protected processes (`agent/ipc.c`, `agent/reload.c`)

The kernel enforces the keys of the map `protected_pids`. The agent keeps a
list of its own, with an epoch, and that is what `GET_TOKEN` binds under the
quote. Three writers change the map: `PROTECT_PID` and `UNPROTECT_PID`
requests, which keep the list and the epoch in step; a reload of the
configuration; and the hook that runs when a process is freed. The last two
change the map only.

Map calls succeed. Reading the start time of a process may fail, and then
`bpf_loader_protect_pid` does.

* `pidSetAdd_spec`, `pidSetRemove_spec`, `canonical_of_sorted`: the list.
* `handle_keeps`: a request keeps the list equal to the keys, and raises the
  epoch when they change.
* `reload_keys`: the keys after a reload.
* `attested_iff`: over every run from a startup, the bound list is the key set
  and the epoch rises with every change exactly when no protected process
  exits and every reload leaves the keys as they are.
* `reload_not_attested`: a reload that does not.
-/
namespace Lota.L6.ProtectedSet
open Lota.Core Lota.L6.Protect

/-- The results of the IPC requests. -/
inductive IpcResult where
  | ok | badRequest | notAttested | tpmFailure | internal | rateLimited | accessDenied | tpmLockout
  deriving DecidableEq, Repr

/-- What `/proc` says of the start times during a call. -/
abbrev Proc := UInt32 → Option UInt64

structure AgentState where
  protectedPids : ProtectedPids
  /-- sorted, unique -/
  policyProtectPids : List UInt32
  policyProtectEpoch : UInt64
  policySnapshotSet : Bool
  policyDigestSet : Bool
  /-- The `protect_pid` entries of the configuration in force. -/
  configPids : List UInt32

/-! ## The list -/

/-- The new entry goes to the end and moves down past the larger ones.
mirrors src/agent/ipc.c:1095-1138 -/
def pidSetAdd (pids : List UInt32) (pid : UInt32) : List UInt32 :=
  if pid ∈ pids then pids else (pids.reverse.orderedInsert (fun a b => b ≤ a) pid).reverse

/-- mirrors src/agent/ipc.c:1140-1185 -/
def pidSetRemove (pids : List UInt32) (pid : UInt32) : List UInt32 := pids.filter (· ≠ pid)

/-- No two neighbours are equal. -/
def noNeighbours : List UInt32 → Bool
  | a :: b :: l => a ≠ b && noNeighbours (b :: l)
  | _ => true

/-- mirrors src/agent/ipc.c:1055-1093 -/
def buildCanonicalRuntimePidList (s : AgentState) : Option (List UInt32) :=
  let canon := s.policyProtectPids.mergeSort (· ≤ ·)
  if noNeighbours canon then some canon else none

/-- Duplicates are dropped. mirrors `canonicalize_u32_set`, src/agent/startup_policy.c -/
def canonicalizeU32Set (pids : List UInt32) : List UInt32 := pids.dedup.mergeSort (· ≤ ·)

/-! ## The map calls -/

/-- `bpf_loader_protect_pid`, with the map update that succeeds. -/
def protectPid (proc : Proc) (m : ProtectedPids) (pid : UInt32) : Option ProtectedPids :=
  match proc pid with
  | none => none
  | some startTimeTicks => if startTimeTicks = 0 then none else some (AList.insert pid startTimeTicks m)

/-- `bpf_loader_unprotect_pid`; callers that ignore its result go on with the
map as it is. -/
def unprotectPid (m : ProtectedPids) (pid : UInt32) : ProtectedPids := (m.delete pid).getD m

/-! ## The requests -/

structure PidRequest where
  add : Bool
  payloadOk : Bool
  pid : UInt32
  peerPid : UInt32
  peerStartTimeTicks : UInt64
  /-- `ipc_client_is_privileged` -/
  privileged : Bool
  /-- `check_protect_pid_rate_limit` -/
  withinRate : Bool
  proc : Proc

/-- The access checks. mirrors src/agent/ipc.c:1204-1264 -/
def checkRequest (s : AgentState) (r : PidRequest) : Except IpcResult Unit :=
  if r.payloadOk = false ∨ r.pid = 0 then .error .badRequest
  else if (r.add && r.pid = r.peerPid) = true ∧
      (r.peerStartTimeTicks = 0 ∨ r.proc r.peerPid ≠ some r.peerStartTimeTicks)
      then .error .accessDenied
  else if (r.add && r.pid = r.peerPid) = false ∧ r.privileged = false then .error .accessDenied
  else if r.add = true ∧ r.withinRate = false then .error .rateLimited
  else if s.policySnapshotSet = false ∨ s.policyDigestSet = false then .error .internal
  else .ok ()

/-- mirrors src/agent/ipc.c:1187-1391 -/
def handleProtectPidUpdate (s : AgentState) (r : PidRequest) : AgentState × IpcResult :=
  match checkRequest s r with
  | .error e => (s, e)
  | .ok () =>
    if r.add = decide (r.pid ∈ s.policyProtectPids) then (s, .ok)
    else if s.policyProtectEpoch = UInt64.ofNat (2 ^ 64 - 1) then (s, .internal)
    else if r.add then
      if s.policyProtectPids.length + 1 > maxProtectedPids then (s, .badRequest)
      else match protectPid r.proc s.protectedPids r.pid with
        | none => (s, .internal)
        | some protectedPids =>
          ({ s with
              protectedPids
              policyProtectPids := pidSetAdd s.policyProtectPids r.pid
              policyProtectEpoch := s.policyProtectEpoch + 1 }, .ok)
    else match s.protectedPids.delete r.pid with
      | none => (s, .internal)
      | some protectedPids =>
        ({ s with
            protectedPids
            policyProtectPids := pidSetRemove s.policyProtectPids r.pid
            policyProtectEpoch := s.policyProtectEpoch + 1 }, .ok)

/-! ## The reload and the exit -/

def unprotectAll (m : ProtectedPids) (pids : List UInt32) : ProtectedPids := pids.foldl unprotectPid m

/-- Protect one after another, up to the first that fails: the map, and the
PIDs that were applied. -/
def protectLoop (proc : Proc) (m : ProtectedPids) : List UInt32 → ProtectedPids × List UInt32 × Bool
  | [] => (m, [], true)
  | pid :: pids =>
    match protectPid proc m pid with
    | none => (m, [], false)
    | some m' =>
      let (m'', applied, all) := protectLoop proc m' pids
      (m'', pid :: applied, all)

/-- The entries that can be protected again are. -/
def restoreAll (proc : Proc) (m : ProtectedPids) (pids : List UInt32) : ProtectedPids :=
  pids.foldl (fun m pid => (protectPid proc m pid).getD m) m

/-- mirrors src/agent/reload.c:314-386 -/
def reloadProtectedPids (s : AgentState) (proc : Proc) (newPids : List UInt32) : AgentState :=
  let cleared := unprotectAll s.protectedPids s.configPids
  match protectLoop proc cleared newPids with
  | (m, _, true) => { s with protectedPids := m, configPids := newPids }
  | (m, applied, false) =>
    { s with protectedPids := restoreAll proc (unprotectAll m applied) s.configPids }

/-! ## Runs -/

inductive Event where
  | request (r : PidRequest)
  | reload (proc : Proc) (newPids : List UInt32)
  /-- A process ends and its leader is freed. -/
  | exit (tgid : UInt32)

/-- The leader of a process, as far as `task_free` reads it. -/
def leader (tgid : UInt32) : Task where
  pid := tgid
  tgid := tgid
  startBoottime := 0
  groupLeader := none

def step (s : AgentState) : Event → AgentState × Option IpcResult
  | .request r => ((handleProtectPidUpdate s r).1, some (handleProtectPidUpdate s r).2)
  | .reload proc newPids => (reloadProtectedPids s proc newPids, none)
  | .exit tgid =>
    ({ s with protectedPids := lotaTaskFree s.protectedPids (some (leader tgid)) }, none)

def machine : Machine AgentState Event (Option IpcResult) := ⟨step⟩

/-- A startup that succeeded with these `protect_pid` entries.
mirrors src/agent/startup_policy.c:688-697 and 734-786 -/
def started (proc : Proc) (pids : List UInt32) : AgentState where
  protectedPids := (protectLoop proc ∅ pids).1
  policyProtectPids := canonicalizeU32Set pids
  policyProtectEpoch := 0
  policySnapshotSet := true
  policyDigestSet := true
  configPids := pids

def Startup (proc : Proc) (pids : List UInt32) : Prop := (protectLoop proc ∅ pids).2.2 = true

/-- The list that `GET_TOKEN` binds is the set of keys of the map. -/
def Attested (s : AgentState) : Prop :=
  ∃ pids, buildCanonicalRuntimePidList s = some pids ∧ ∀ pid, pid ∈ pids ↔ pid ∈ s.protectedPids

/-- The keys differ. -/
def KeysChange (s s' : AgentState) : Prop := ¬ ∀ pid, pid ∈ s'.protectedPids ↔ pid ∈ s.protectedPids

/-- In every state of the run the bound list is the key set, and every step
that changes it raises the epoch. -/
def AttestedRun (s : AgentState) (evs : List Event) : Prop :=
  ∀ before after, evs = before ++ after →
    Attested (machine.run s before) ∧
      ∀ ev rest, after = ev :: rest →
      KeysChange (machine.run s before) (machine.run s (before ++ [ev])) →
        (machine.run s before).policyProtectEpoch < (machine.run s (before ++ [ev])).policyProtectEpoch

/-- A process that can be protected. -/
def alive (proc : Proc) (pid : UInt32) : Bool := (proc pid).any (· ≠ 0)

/-- The keys after a reload: the new entries instead of the old ones, or, when
one of the new ones cannot be protected, the old ones that can, without those
before the failure. -/
def ReloadKey (s : AgentState) (proc : Proc) (newPids : List UInt32) (pid : UInt32) : Prop :=
  if newPids.all (alive proc) then pid ∈ newPids ∨ pid ∈ s.protectedPids ∧ pid ∉ s.configPids
  else (pid ∈ s.configPids ∧ alive proc pid = true) ∨
    pid ∈ s.protectedPids ∧ pid ∉ s.configPids ∧ pid ∉ newPids.takeWhile (alive proc)

/-- The condition on an event: no protected process exits, and a reload leaves
the keys as they are. -/
def KeysKept (s : AgentState) : Event → Prop
  | .request _ => True
  | .reload proc newPids => ∀ pid, ReloadKey s proc newPids pid ↔ pid ∈ s.protectedPids
  | .exit tgid => tgid ∉ s.protectedPids

/-! ## The list keeps its order -/

section list
variable {pids : List UInt32} {pid x : UInt32}

theorem mem_pidSetAdd : x ∈ pidSetAdd pids pid ↔ x = pid ∨ x ∈ pids := by
  unfold pidSetAdd
  split
  · next h =>
    constructor
    · exact .inr
    · rintro (rfl | hx)
      · exact h
      · exact hx
  · rw [List.mem_reverse, List.mem_orderedInsert, List.mem_reverse]

theorem mem_pidSetRemove : x ∈ pidSetRemove pids pid ↔ x ≠ pid ∧ x ∈ pids := by
  simp [pidSetRemove, and_comm]

/-- A list in order without repetition is in strict order. -/
theorem strict_of_sorted {l : List UInt32} (hle : l.Pairwise (· ≤ ·)) (hnd : l.Nodup) :
    l.Pairwise (· < ·) :=
  hle.imp₂ (fun _ _ h hne => UInt32.lt_of_le_of_ne h hne) hnd

theorem pidSetAdd_length : (pidSetAdd pids pid).length ≤ pids.length + 1 := by
  unfold pidSetAdd
  split
  · omega
  · rw [List.length_reverse, List.orderedInsert_length, List.length_reverse]

theorem pidSetAdd_nodup (pid : UInt32) (h : pids.Nodup) : (pidSetAdd pids pid).Nodup := by
  unfold pidSetAdd
  split
  · exact h
  · next hnew =>
    refine List.nodup_reverse.mpr ((List.perm_orderedInsert _ pid pids.reverse).nodup_iff.mpr ?_)
    exact List.nodup_cons.mpr ⟨by rwa [List.mem_reverse], List.nodup_reverse.mpr h⟩

theorem pidSetAdd_spec (h : pids.Pairwise (· < ·)) : (pidSetAdd pids pid).Pairwise (· < ·) := by
  unfold pidSetAdd
  split
  · exact h
  · next hnew =>
    have hdown : pids.reverse.Pairwise (fun a b => b ≤ a) :=
      List.pairwise_reverse.mpr (h.imp fun hab => UInt32.le_of_lt hab)
    have : Std.Total (fun a b : UInt32 => b ≤ a) := ⟨fun a b => UInt32.le_total b a⟩
    have : IsTrans UInt32 (fun a b => b ≤ a) := ⟨fun _ _ _ hab hbc => UInt32.le_trans hbc hab⟩
    have hins := hdown.orderedInsert pid pids.reverse
    have hnd := pidSetAdd_nodup pid (h.imp fun hab => UInt32.ne_of_lt hab)
    rw [pidSetAdd, if_neg hnew] at hnd
    exact strict_of_sorted (List.pairwise_reverse.mpr hins) hnd

theorem pidSetRemove_spec (h : pids.Pairwise (· < ·)) : (pidSetRemove pids pid).Pairwise (· < ·) :=
  h.filter _

theorem noNeighbours_of_sorted (h : pids.Pairwise (· < ·)) : noNeighbours pids = true := by
  induction pids with
  | nil => rfl
  | cons a l ih =>
    cases l with
    | nil => rfl
    | cons b l =>
      obtain ⟨ha, hl⟩ := List.pairwise_cons.mp h
      have hab : a ≠ b := UInt32.ne_of_lt (ha b List.mem_cons_self)
      simp [noNeighbours, hab, ih hl]

/-- A list in strict order is bound as it is. -/
theorem canonical_of_sorted {s : AgentState} (h : s.policyProtectPids.Pairwise (· < ·)) :
    buildCanonicalRuntimePidList s = some s.policyProtectPids := by
  have hsort : s.policyProtectPids.mergeSort (· ≤ ·) = s.policyProtectPids := by
    refine List.mergeSort_of_pairwise (h.imp fun hab => ?_)
    exact decide_eq_true (UInt32.le_of_lt hab)
  unfold buildCanonicalRuntimePidList
  simp only [hsort, noNeighbours_of_sorted h, if_pos]

theorem mergeSort_sorted (l : List UInt32) : (l.mergeSort (· ≤ ·)).Pairwise (· ≤ ·) := by
  have htrans (a b c : UInt32) : decide (a ≤ b) = true → decide (b ≤ c) = true →
      decide (a ≤ c) = true := by
    simpa using UInt32.le_trans
  have htotal (a b : UInt32) : (decide (a ≤ b) || decide (b ≤ a)) = true := by
    simpa using UInt32.le_total a b
  exact (List.pairwise_mergeSort htrans htotal l).imp fun hab => of_decide_eq_true hab

/-- In order, no equal neighbours means no equal entries. -/
theorem nodup_of_noNeighbours {l : List UInt32} (h : l.Pairwise (· ≤ ·))
    (hn : noNeighbours l = true) : l.Nodup := by
  induction l with
  | nil => exact List.nodup_nil
  | cons a l ih =>
    cases l with
    | nil => exact List.nodup_singleton a
    | cons b l =>
      obtain ⟨ha, hl⟩ := List.pairwise_cons.mp h
      simp only [noNeighbours, Bool.and_eq_true, decide_eq_true_eq] at hn
      have hrest := ih hl hn.2
      refine List.nodup_cons.mpr ⟨fun hmem => ?_, hrest⟩
      rcases List.mem_cons.mp hmem with hab | hmem
      · exact hn.1 hab
      · have hab : a ≤ b := ha b List.mem_cons_self
        have hba : b ≤ a := (List.pairwise_cons.mp hl).1 a hmem
        exact hn.1 (UInt32.le_antisymm hab hba)

/-- The bound list is the agent's list in order; it has no repetition. -/
theorem canonical_perm {s : AgentState} (h : buildCanonicalRuntimePidList s = some pids) :
    pids.Perm s.policyProtectPids ∧ s.policyProtectPids.Nodup := by
  have hperm := List.mergeSort_perm s.policyProtectPids (fun a b => decide (a ≤ b))
  unfold buildCanonicalRuntimePidList at h
  simp only at h
  split at h
  · next hn =>
    cases h
    exact ⟨hperm, hperm.nodup_iff.mp (nodup_of_noNeighbours (mergeSort_sorted _) hn)⟩
  · cases h

/-- A list without repetition is bound in strict order. -/
theorem canonical_of_nodup {s : AgentState} (h : s.policyProtectPids.Nodup) :
    ∃ pids, buildCanonicalRuntimePidList s = some pids ∧ pids.Perm s.policyProtectPids ∧
    pids.Pairwise (· < ·) := by
  have hperm := List.mergeSort_perm s.policyProtectPids (fun a b => decide (a ≤ b))
  have hstrict := strict_of_sorted (mergeSort_sorted _) (hperm.nodup_iff.mpr h)
  refine ⟨_, ?_, hperm, hstrict⟩
  unfold buildCanonicalRuntimePidList
  simp only [noNeighbours_of_sorted hstrict, if_true]

theorem canonicalize_spec : (canonicalizeU32Set pids).Pairwise (· < ·) := by
  have hperm := List.mergeSort_perm pids.dedup (fun a b => decide (a ≤ b))
  exact strict_of_sorted (mergeSort_sorted _) (hperm.nodup_iff.mpr pids.nodup_dedup)

theorem mem_canonicalize : x ∈ canonicalizeU32Set pids ↔ x ∈ pids := by
  have hperm := List.mergeSort_perm pids.dedup (fun a b => decide (a ≤ b))
  exact hperm.mem_iff.trans List.mem_dedup

end list

/-! ## The keys of the map -/

section keys
variable {proc : Proc} {m m' : ProtectedPids} {pid x : UInt32} {pids : List UInt32}

theorem protectPid_eq (proc : Proc) (m : ProtectedPids) (pid : UInt32) :
    protectPid proc m pid = none ∧ alive proc pid = false ∨
    ∃ m', protectPid proc m pid = some m' ∧ alive proc pid = true ∧ ∀ x, x ∈ m' ↔ x = pid ∨ x ∈ m := by
  unfold protectPid alive
  cases proc pid with
  | none => exact .inl ⟨rfl, rfl⟩
  | some t =>
    by_cases ht : t = 0
    · exact .inl ⟨if_pos ht, by simp [ht]⟩
    · exact .inr ⟨_, if_neg ht, by simp [ht], fun x => AList.mem_insert m⟩

theorem mem_unprotectAll : x ∈ unprotectAll m pids ↔ x ∈ m ∧ x ∉ pids := by
  induction pids generalizing m with
  | nil => simp [unprotectAll]
  | cons pid pids ih =>
    have hstep : unprotectAll m (pid :: pids) = unprotectAll (unprotectPid m pid) pids := rfl
    rw [hstep, ih, unprotectPid, BoundedMap.mem_delete, List.mem_cons]
    tauto

theorem mem_restoreAll : x ∈ restoreAll proc m pids ↔ x ∈ m ∨ x ∈ pids ∧ alive proc x = true := by
  induction pids generalizing m with
  | nil => simp [restoreAll]
  | cons pid pids ih =>
    have hstep : restoreAll proc m (pid :: pids) =
      restoreAll proc ((protectPid proc m pid).getD m) pids := rfl
    rw [hstep, ih, List.mem_cons]
    rcases protectPid_eq proc m pid with ⟨hp, ha⟩ | ⟨m', hp, ha, hm⟩
    · rw [hp, Option.getD_none]
      constructor
      · tauto
      · rintro (hx | ⟨rfl | hx, hax⟩)
        · exact .inl hx
        · simp [ha] at hax
        · exact .inr ⟨hx, hax⟩
    · rw [hp, Option.getD_some, hm]
      constructor
      · rintro ((rfl | hx) | hx)
        · exact .inr ⟨.inl rfl, ha⟩
        · exact .inl hx
        · exact .inr ⟨.inr hx.1, hx.2⟩
      · tauto

/-- The loop applies the entries before the first that cannot be protected. -/
theorem protectLoop_spec (proc : Proc) (m : ProtectedPids) (pids : List UInt32) :
    (∀ x, x ∈ (protectLoop proc m pids).1 ↔ x ∈ pids.takeWhile (alive proc) ∨ x ∈ m) ∧
    (protectLoop proc m pids).2.1 = pids.takeWhile (alive proc) ∧
    (protectLoop proc m pids).2.2 = pids.all (alive proc) := by
  induction pids generalizing m with
  | nil => simp [protectLoop]
  | cons pid pids ih =>
    rcases protectPid_eq proc m pid with ⟨hp, ha⟩ | ⟨m', hp, ha, hm⟩
    · simp [protectLoop, hp, ha]
    · obtain ⟨hkeys, happlied, hall⟩ := ih m'
      simp only [protectLoop, hp, List.takeWhile_cons, ha, List.all_cons, if_pos, Bool.true_and]
      refine ⟨fun x => ?_, by rw [happlied], hall⟩
      rw [hkeys, hm, List.mem_cons]
      tauto

theorem takeWhile_of_all (h : pids.all (alive proc) = true) : pids.takeWhile (alive proc) = pids := by
  rw [List.takeWhile_eq_self_iff]
  exact List.all_eq_true.mp h

/-- The keys after a reload. -/
theorem reload_keys (s : AgentState) (proc : Proc) (newPids : List UInt32) (x : UInt32) :
    x ∈ (reloadProtectedPids s proc newPids).protectedPids ↔ ReloadKey s proc newPids x := by
  obtain ⟨hkeys, happlied, hall⟩ :=
    protectLoop_spec proc (unprotectAll s.protectedPids s.configPids) newPids
  unfold reloadProtectedPids ReloadKey
  cases hp : protectLoop proc (unprotectAll s.protectedPids s.configPids) newPids with
  | mk m rest =>
    obtain ⟨applied, all⟩ := rest
    simp only [hp] at hkeys happlied hall
    cases all with
    | true =>
      rw [if_pos hall.symm]
      simp only [hp]
      rw [hkeys, takeWhile_of_all hall.symm, mem_unprotectAll]
    | false =>
      rw [if_neg (by simp [← hall])]
      simp only [hp]
      rw [mem_restoreAll, mem_unprotectAll, hkeys, mem_unprotectAll, happlied]
      tauto

/-- A reload leaves the list and the epoch as they are. -/
theorem reload_list (s : AgentState) (proc : Proc) (newPids : List UInt32) :
    (reloadProtectedPids s proc newPids).policyProtectPids = s.policyProtectPids ∧
      (reloadProtectedPids s proc newPids).policyProtectEpoch = s.policyProtectEpoch := by
  unfold reloadProtectedPids
  cases hp : protectLoop proc (unprotectAll s.protectedPids s.configPids) newPids with
  | mk m rest =>
    obtain ⟨applied, all⟩ := rest
    cases all with
    | true => simp only [hp, and_self]
    | false => simp only [hp, and_self]

end keys

/-! ## Steps -/

/-- The list is in strict order and holds the keys of the map. -/
structure Matches (s : AgentState) : Prop where
  sorted : s.policyProtectPids.Pairwise (· < ·)
  keys : ∀ pid, pid ∈ s.policyProtectPids ↔ pid ∈ s.protectedPids

theorem Matches.attested {s : AgentState} (h : Matches s) : Attested s :=
  ⟨s.policyProtectPids, canonical_of_sorted h.sorted, h.keys⟩

theorem matches_started {proc : Proc} {pids : List UInt32} (h : Startup proc pids) :
    Matches (started proc pids) where
  sorted := canonicalize_spec
  keys pid := by
    obtain ⟨hkeys, -, hall⟩ := protectLoop_spec proc ∅ pids
    have hloop : pids.all (alive proc) = true := hall.symm.trans h
    show pid ∈ canonicalizeU32Set pids ↔ pid ∈ (protectLoop proc ∅ pids).1
    rw [mem_canonicalize, hkeys, takeWhile_of_all hloop]
    exact (or_iff_left (AList.notMem_empty pid)).symm

/-- What a request does to the set: nothing, an addition or a removal, the
last two with the next epoch. -/
theorem handle_cases (s : AgentState) (r : PidRequest) :
    (handleProtectPidUpdate s r).1 = s ∨
    (s.policyProtectEpoch ≠ UInt64.ofNat (2 ^ 64 - 1) ∧ ∃ m,
      (s.policyProtectPids.length < maxProtectedPids ∧
        protectPid r.proc s.protectedPids r.pid = some m ∧ (handleProtectPidUpdate s r).1 = { s with
          protectedPids := m
          policyProtectPids := pidSetAdd s.policyProtectPids r.pid
          policyProtectEpoch := s.policyProtectEpoch + 1 }) ∨
      (s.protectedPids.delete r.pid = some m ∧
        (handleProtectPidUpdate s r).1 = { s with
          protectedPids := m
          policyProtectPids := pidSetRemove s.policyProtectPids r.pid
          policyProtectEpoch := s.policyProtectEpoch + 1 })) := by
  unfold handleProtectPidUpdate
  cases checkRequest s r with
  | error e => exact .inl rfl
  | ok u =>
    simp only
    split
    · exact .inl rfl
    · split
      · exact .inl rfl
      · next hepoch =>
        split
        · split
          · exact .inl rfl
          · next hroom =>
            cases hp : protectPid r.proc s.protectedPids r.pid with
            | none => exact .inl rfl
            | some m => exact .inr ⟨hepoch, m, .inl ⟨by omega, rfl, rfl⟩⟩
        · cases hd : s.protectedPids.delete r.pid with
          | none => exact .inl rfl
          | some m => exact .inr ⟨hepoch, m, .inr ⟨rfl, rfl⟩⟩

theorem epoch_lt {epoch : UInt64} (h : epoch ≠ UInt64.ofNat (2 ^ 64 - 1)) : epoch < epoch + 1 := by
  have hlt : epoch.toNat < 2 ^ 64 := epoch.toNat_lt
  have hne : epoch.toNat ≠ 2 ^ 64 - 1 := by
    intro he
    exact h (UInt64.toNat_inj.mp (by rw [he]; rfl))
  rw [UInt64.lt_iff_toNat_lt, UInt64.toNat_add]
  simp only [UInt64.reduceToNat]
  omega

/-- A request keeps the list equal to the keys, and raises the epoch when they
change. -/
theorem handle_keeps {s : AgentState} (r : PidRequest) (h : Matches s) :
    Matches (handleProtectPidUpdate s r).1 ∧ (KeysChange s (handleProtectPidUpdate s r).1 →
      s.policyProtectEpoch < (handleProtectPidUpdate s r).1.policyProtectEpoch) := by
  rcases handle_cases s r with hs | ⟨hepoch, m, ⟨-, hm, hs⟩ | ⟨hm, hs⟩⟩
  · rw [hs]
    exact ⟨h, fun hc => absurd (fun _ => Iff.rfl) hc⟩
  · rw [hs]
    refine ⟨⟨pidSetAdd_spec h.sorted, fun x => ?_⟩, fun _ => epoch_lt hepoch⟩
    rcases protectPid_eq r.proc s.protectedPids r.pid with ⟨hp, -⟩ | ⟨m', hp, -, hkeys⟩
    · rw [hm] at hp
      cases hp
    · rw [hm] at hp
      cases hp
      rw [hkeys]
      exact mem_pidSetAdd.trans (or_congr_right (h.keys x))
  · rw [hs]
    refine ⟨⟨pidSetRemove_spec h.sorted, fun x => ?_⟩, fun _ => epoch_lt hepoch⟩
    have hkeys := BoundedMap.mem_delete s.protectedPids r.pid x
    rw [hm, Option.getD_some] at hkeys
    rw [hkeys]
    exact mem_pidSetRemove.trans (and_congr_right fun _ => h.keys x)

theorem mem_exit {m : ProtectedPids} {tgid x : UInt32} :
    x ∈ lotaTaskFree m (some (leader tgid)) ↔ x ≠ tgid ∧ x ∈ m := by
  have hfree : lotaTaskFree m (some (leader tgid)) = (m.delete tgid).getD m := if_neg (fun h => h rfl)
  rw [hfree, BoundedMap.mem_delete]

/-- An event other than a request leaves the list and the epoch, and leaves the
keys exactly when the condition on it holds. -/
theorem keysKept_iff {s : AgentState} {ev : Event} (hev : ∀ r, ev ≠ .request r) :
    (step s ev).1.policyProtectPids = s.policyProtectPids ∧
    (step s ev).1.policyProtectEpoch = s.policyProtectEpoch ∧
    (KeysKept s ev ↔ ¬ KeysChange s (step s ev).1) := by
  cases ev with
  | request r => exact absurd rfl (hev r)
  | reload proc newPids =>
    obtain ⟨hlist, hepoch⟩ := reload_list s proc newPids
    refine ⟨hlist, hepoch, ?_⟩
    unfold KeysChange
    rw [not_not]
    exact forall_congr' fun x => iff_congr (reload_keys s proc newPids x).symm Iff.rfl
  | exit tgid =>
    refine ⟨rfl, rfl, ?_⟩
    unfold KeysChange
    rw [not_not]
    constructor
    · intro hk x
      refine mem_exit.trans (and_iff_right_of_imp ?_)
      rintro hx rfl
      exact hk hx
    · intro hsame hmem
      exact (mem_exit.mp ((hsame tgid).mpr hmem)).1 rfl

/-- **Step.** A step that meets the condition keeps the list equal to the keys
and raises the epoch when they change. -/
theorem step_keeps {s : AgentState} {ev : Event} (h : Matches s) (hk : KeysKept s ev) :
    Matches (step s ev).1 ∧
    (KeysChange s (step s ev).1 → s.policyProtectEpoch < (step s ev).1.policyProtectEpoch) := by
  by_cases hreq : ∃ r, ev = .request r
  · obtain ⟨r, rfl⟩ := hreq
    exact handle_keeps r h
  · obtain ⟨hlist, hepoch, hiff⟩ := keysKept_iff (s := s) (fun r hr => hreq ⟨r, hr⟩)
    have hsame := hiff.mp hk
    refine ⟨⟨hlist ▸ h.sorted, fun x => ?_⟩, fun hc => absurd hc hsame⟩
    rw [hlist, h.keys]
    exact ((not_not.mp hsame) x).symm

/-! ## Runs -/

theorem attestedRun_cons {s : AgentState} {ev : Event} {evs : List Event} :
    AttestedRun s (ev :: evs) ↔ Attested s ∧
      (KeysChange s (step s ev).1 → s.policyProtectEpoch < (step s ev).1.policyProtectEpoch) ∧
      AttestedRun (step s ev).1 evs := by
  constructor
  · intro h
    obtain ⟨hs, hstep⟩ := h [] (ev :: evs) rfl
    refine ⟨hs, hstep ev evs rfl, fun before after hsplit => ?_⟩
    exact h (ev :: before) after (by rw [hsplit]; rfl)
  · rintro ⟨hs, hstep, hrun⟩ before after hsplit
    cases before with
    | nil =>
      refine ⟨hs, fun ev' rest hafter => ?_⟩
      obtain ⟨rfl, -⟩ := List.cons.inj (hsplit.trans hafter)
      exact hstep
    | cons b before =>
      obtain ⟨rfl, htl⟩ := List.cons.inj hsplit
      exact hrun before after htl

theorem attestedRun_of_matches {s : AgentState} {evs : List Event} (h : Matches s) :
    AttestedRun s evs ↔ machine.AllSteps KeysKept s evs := by
  induction evs generalizing s with
  | nil =>
    refine ⟨fun _ => trivial, fun _ before after hsplit => ?_⟩
    obtain ⟨rfl, rfl⟩ := List.append_eq_nil_iff.mp hsplit.symm
    exact ⟨h.attested, fun ev rest hafter => by cases hafter⟩
  | cons ev evs ih =>
    rw [attestedRun_cons]
    constructor
    · rintro ⟨-, hstep, hrun⟩
      have hk : KeysKept s ev := by
        by_cases hreq : ∃ r, ev = .request r
        · obtain ⟨r, rfl⟩ := hreq
          trivial
        · obtain ⟨-, hepoch, hiff⟩ := keysKept_iff (s := s) (fun r hr => hreq ⟨r, hr⟩)
          refine hiff.mpr fun hc => ?_
          exact UInt64.lt_irrefl _ (hepoch ▸ hstep hc)
      exact ⟨hk, (ih (step_keeps h hk).1).mp hrun⟩
    · rintro ⟨hk, hrun⟩
      obtain ⟨hm, hstep⟩ := step_keeps h hk
      exact ⟨h.attested, hstep, (ih hm).mpr hrun⟩

/-- **The attested set is the enforced one.** From every startup and over every
sequence of requests, reloads and exits, the list that `GET_TOKEN` binds is
the set of keys of the map in every state, and the epoch rises with every
change of it, exactly when no protected process exits and every reload leaves
the keys as they are. -/
theorem attested_iff (proc : Proc) (pids : List UInt32) (h : Startup proc pids) (evs : List Event) :
    AttestedRun (started proc pids) evs ↔ machine.AllSteps KeysKept (started proc pids) evs :=
  attestedRun_of_matches (matches_started h)

/-- Two processes that run since boot. -/
def twoAlive : Proc := fun pid => if pid = 100 ∨ pid = 200 then some 7 else none

/-- The agent starts with PID 100 and process 200 is registered. -/
def register200 : PidRequest where
  add := true
  payloadOk := true
  pid := 200
  peerPid := 200
  peerStartTimeTicks := 7
  privileged := false
  withinRate := true
  proc := twoAlive

theorem attested_after_register :
    AttestedRun (started twoAlive [100]) [.request register200] ∧
      200 ∈ (machine.run (started twoAlive [100]) [.request register200]).policyProtectPids :=
  ⟨(attested_iff twoAlive [100] rfl _).mpr ⟨trivial, trivial⟩, by decide +kernel⟩

/-- A reload with an empty list of PIDs takes PID 100 out of the map, and the
token still says that it is protected. -/
theorem reload_not_attested :
    Startup twoAlive [100] ∧ ¬ AttestedRun (started twoAlive [100]) [.reload twoAlive []] ∧
      (machine.run (started twoAlive [100]) [.reload twoAlive []]).policyProtectPids = [100] ∧
      100 ∉ (machine.run (started twoAlive [100]) [.reload twoAlive []]).protectedPids := by
  have hlist : (machine.run (started twoAlive [100]) [.reload twoAlive []]).policyProtectPids =
      [100] := by
    decide +kernel
  have hgone : 100 ∉ (machine.run (started twoAlive [100]) [.reload twoAlive []]).protectedPids := by
    decide +kernel
  refine ⟨rfl, fun hrun => ?_, hlist, hgone⟩
  obtain ⟨⟨pids, hpids, hkeys⟩, -⟩ := hrun [.reload twoAlive []] [] rfl
  have hsorted :
      (machine.run (started twoAlive [100]) [.reload twoAlive []]).policyProtectPids.Pairwise
      (· < ·) := by
    rw [hlist]
    exact List.pairwise_singleton _ _
  rw [canonical_of_sorted hsorted, hlist] at hpids
  cases hpids
  exact hgone ((hkeys 100).mp List.mem_cons_self)

end Lota.L6.ProtectedSet

import Lota.L6Agent.ProtectedSet

/-!
# Removing a PID from the measured list (`agent/ipc.c`, `agent/bpf_loader.c`)

`UNPROTECT_PID` deletes the key from the kernel map first and gives up when
the delete fails. The delete fails for a missing key, and the exit hook and a
reload take keys out of the map without the list. Such a PID stays in the list
that `GET_TOKEN` measures, and no request gets it out. The reload itself
ignores the result of the same call.

* `Listed`: what holds of the list in every reachable state.
* `unprotect_spec`: what an `UNPROTECT_PID` of a privileged client does to a
  listed PID.
* `removed_iff`: over every run, the request removes the PID exactly when the
  map has the key and the epoch is not used up.
* `dead_pid_stays`: a process that has exited.
-/
namespace Lota.L6.ProtectedSet
open Lota.Core Lota.L6.Protect

/-- The PIDs that `GET_TOKEN` measures. -/
def measured (s : AgentState) : List UInt32 := (buildCanonicalRuntimePidList s).getD []

/-- An `UNPROTECT_PID` for `pid` by a privileged client. -/
structure Unprotects (r : PidRequest) (pid : UInt32) : Prop where
  remove : r.add = false
  payload : r.payloadOk = true
  pid : r.pid = pid
  privileged : r.privileged = true

/-- The request is answered with success, and the list is without its PID. -/
def Removed (s : AgentState) (r : PidRequest) : Prop :=
  (handleProtectPidUpdate s r).2 = .ok ∧ r.pid ∉ measured (handleProtectPidUpdate s r).1

def maxEpoch : UInt64 := UInt64.ofNat (2 ^ 64 - 1)

/-! ## Reachable states -/

/-- The list is in order and without 0, the policy is set. -/
structure Listed (s : AgentState) : Prop where
  sorted : s.policyProtectPids.Pairwise (· < ·)
  nonzero : 0 ∉ s.policyProtectPids
  snapshot : s.policySnapshotSet = true
  digest : s.policyDigestSet = true

theorem measured_of_listed {s : AgentState} (h : Listed s) : measured s = s.policyProtectPids := by
  unfold measured
  rw [canonical_of_sorted h.sorted, Option.getD_some]

theorem listed_started (proc : Proc) {pids : List UInt32} (h : 0 ∉ pids) :
    Listed (started proc pids) where
  sorted := canonicalize_spec
  nonzero := fun h0 => h (mem_canonicalize.mp h0)
  snapshot := rfl
  digest := rfl

/-- A request for PID 0 is refused. -/
theorem handle_zero {s : AgentState} {r : PidRequest} (h : r.pid = 0) :
    (handleProtectPidUpdate s r).1 = s := by
  unfold handleProtectPidUpdate checkRequest
  rw [if_pos (Or.inr h)]

theorem handle_listed {s : AgentState} (r : PidRequest) (h : Listed s) :
    Listed (handleProtectPidUpdate s r).1 := by
  by_cases h0 : r.pid = 0
  · rw [handle_zero h0]
    exact h
  · rcases handle_cases s r with hs | ⟨-, m, ⟨-, -, hs⟩ | ⟨-, hs⟩⟩
    · rw [hs]
      exact h
    · rw [hs]
      refine ⟨pidSetAdd_spec h.sorted, fun hz => ?_, h.snapshot, h.digest⟩
      rcases mem_pidSetAdd.mp hz with hz | hz
      · exact h0 hz.symm
      · exact h.nonzero hz
    · rw [hs]
      refine ⟨pidSetRemove_spec h.sorted, fun hz => ?_, h.snapshot, h.digest⟩
      exact h.nonzero (mem_pidSetRemove.mp hz).2

theorem reload_flags (s : AgentState) (proc : Proc) (newPids : List UInt32) :
    (reloadProtectedPids s proc newPids).policySnapshotSet = s.policySnapshotSet ∧
      (reloadProtectedPids s proc newPids).policyDigestSet = s.policyDigestSet := by
  unfold reloadProtectedPids
  rcases hp : protectLoop proc (unprotectAll s.protectedPids s.configPids)
    newPids with ⟨m, applied, all⟩
  cases all with
  | true => simp only [hp, and_self]
  | false => simp only [hp, and_self]

/-- **Step.** Every event keeps the list in shape, and raises the epoch by one
at most. -/
theorem step_listed {s : AgentState} (ev : Event) (h : Listed s) :
    Listed (step s ev).1 ∧ (step s ev).1.policyProtectEpoch.toNat ≤ s.policyProtectEpoch.toNat + 1 := by
  cases ev with
  | request r =>
    refine ⟨handle_listed r h, ?_⟩
    change (handleProtectPidUpdate s r).1.policyProtectEpoch.toNat ≤ _
    have hsucc : (s.policyProtectEpoch + 1).toNat ≤ s.policyProtectEpoch.toNat + 1 := by
      rw [UInt64.toNat_add]
      exact Nat.mod_le _ _
    rcases handle_cases s r with hs | ⟨-, m, ⟨-, -, hs⟩ | ⟨-, hs⟩⟩
    · rw [hs]
      omega
    · rw [hs]
      exact hsucc
    · rw [hs]
      exact hsucc
  | reload proc newPids =>
    obtain ⟨hlist, hepoch⟩ := reload_list s proc newPids
    obtain ⟨hsnap, hdigest⟩ := reload_flags s proc newPids
    change Listed (reloadProtectedPids s proc newPids) ∧
      (reloadProtectedPids s proc newPids).policyProtectEpoch.toNat ≤ _
    refine ⟨⟨hlist ▸ h.sorted, hlist ▸ h.nonzero, hsnap.trans h.snapshot, hdigest.trans h.digest⟩, ?_⟩
    rw [hepoch]
    omega
  | exit tgid => exact ⟨⟨h.sorted, h.nonzero, h.snapshot, h.digest⟩, Nat.le_succ _⟩

/-- **Run.** -/
theorem run_listed {s : AgentState} (evs : List Event) (h : Listed s) :
    Listed (machine.run s evs) ∧
      (machine.run s evs).policyProtectEpoch.toNat ≤ s.policyProtectEpoch.toNat + evs.length := by
  induction evs generalizing s with
  | nil => exact ⟨h, Nat.le_refl _⟩
  | cons ev evs ih =>
    obtain ⟨hl, he⟩ := step_listed ev h
    obtain ⟨hrun, hepoch⟩ := ih hl
    refine ⟨hrun, hepoch.trans ?_⟩
    change (step s ev).1.policyProtectEpoch.toNat + evs.length ≤ _
    rw [List.length_cons]
    omega

/-! ## The request -/

theorem checkRequest_unprotects {s : AgentState} {r : PidRequest} {pid : UInt32} (h : Listed s)
    (hr : Unprotects r pid) (hpid : pid ∈ s.policyProtectPids) : checkRequest s r = .ok () := by
  have hne : r.pid ≠ 0 := by
    intro h0
    exact h.nonzero (h0 ▸ hr.pid.symm ▸ hpid)
  unfold checkRequest
  rw [if_neg (by simp [hr.payload, hne]), if_neg (by simp [hr.remove]),
    if_neg (by simp [hr.privileged]),
    if_neg (by simp [hr.remove]), if_neg (by simp [h.snapshot, h.digest])]

/-- The request on a listed PID: it fails and changes nothing, or takes the
PID out of map and list. -/
theorem unprotect_spec {s : AgentState} {r : PidRequest} {pid : UInt32} (h : Listed s)
    (hr : Unprotects r pid)
    (hpid : pid ∈ s.policyProtectPids) :
    (pid ∈ s.protectedPids ∧ s.policyProtectEpoch ≠ maxEpoch ∧ ∃ m,
      handleProtectPidUpdate s r = ({ s with
        protectedPids := m
        policyProtectPids := pidSetRemove s.policyProtectPids pid
        policyProtectEpoch := s.policyProtectEpoch + 1 }, .ok)) ∨
    (¬ (pid ∈ s.protectedPids ∧ s.policyProtectEpoch ≠ maxEpoch) ∧ handleProtectPidUpdate s r =
      (s, .internal)) := by
  have hlisted : r.add ≠ decide (r.pid ∈ s.policyProtectPids) := by
    rw [hr.pid]
    simp [hr.remove, hpid]
  unfold handleProtectPidUpdate maxEpoch
  simp only [checkRequest_unprotects h hr hpid, if_neg hlisted]
  by_cases hepoch : s.policyProtectEpoch = UInt64.ofNat (2 ^ 64 - 1)
  · rw [if_pos hepoch]
    exact .inr ⟨fun hc => hc.2 hepoch, rfl⟩
  · rw [if_neg hepoch, if_neg (by simp [hr.remove]), hr.pid]
    by_cases hkey : pid ∈ s.protectedPids
    · have hdel : s.protectedPids.delete pid = some (AList.erase pid s.protectedPids) := if_pos hkey
      rw [hdel]
      exact .inl ⟨hkey, hepoch, _, rfl⟩
    · have hdel : s.protectedPids.delete pid = none := if_neg hkey
      rw [hdel]
      exact .inr ⟨fun hc => hkey hc.1, rfl⟩

theorem removed_of_listed {s : AgentState} {r : PidRequest} {pid : UInt32} (h : Listed s)
    (hr : Unprotects r pid)
    (hpid : pid ∈ s.policyProtectPids) :
    Removed s r ↔ pid ∈ s.protectedPids ∧ s.policyProtectEpoch ≠ maxEpoch := by
  have hafter := measured_of_listed (handle_listed r h)
  unfold Removed
  rw [hafter]
  rcases unprotect_spec h hr hpid with ⟨hkey, hepoch, m, hres⟩ | ⟨hno, hres⟩
  · refine iff_of_true ?_ ⟨hkey, hepoch⟩
    rw [hres]
    refine ⟨rfl, fun hmem => ?_⟩
    exact (mem_pidSetRemove.mp hmem).1 hr.pid
  · refine iff_of_false (fun hrem => ?_) hno
    rw [hres] at hrem
    cases hrem.1

/-- **Removal.** In every state reached from a startup by requests, reloads and
exits, a privileged `UNPROTECT_PID` for a measured PID succeeds and takes it
out of the list exactly when the map has the key and the epoch is not used up.
In a run in which no protected process exits and every reload leaves the keys
as they are, that is so for every measured PID, for the first `2^64 - 1`
events. -/
theorem removed_iff (proc : Proc) (pids : List UInt32) (hstart : Startup proc pids) (hpids : 0 ∉ pids)
    (evs : List Event) :
    (∀ pid ∈ measured (machine.run (started proc pids) evs), ∀ r, Unprotects r pid →
      (Removed (machine.run (started proc pids) evs) r ↔
        pid ∈ (machine.run (started proc pids) evs).protectedPids ∧
          (machine.run (started proc pids) evs).policyProtectEpoch ≠ maxEpoch)) ∧
    (machine.AllSteps KeysKept (started proc pids) evs → evs.length < 2 ^ 64 - 1 →
      ∀ pid ∈ measured (machine.run (started proc pids) evs), ∀ r, Unprotects r pid →
        Removed (machine.run (started proc pids) evs) r) := by
  obtain ⟨hlisted, hepoch⟩ := run_listed evs (listed_started proc hpids)
  rw [measured_of_listed hlisted]
  refine ⟨fun pid hpid r hr => removed_of_listed hlisted hr hpid, fun hkept hlen pid hpid r hr => ?_⟩
  have hmatch : Matches (machine.run (started proc pids) evs) :=
    Machine.run_inv (J := Matches) (fun s ev hm hk => (step_keeps hm hk).1)
      (matches_started hstart) hkept
  refine (removed_of_listed hlisted hr hpid).mpr ⟨(hmatch.keys pid).mp hpid, fun hmax => ?_⟩
  have hzero : (started proc pids).policyProtectEpoch.toNat = 0 := rfl
  have hfull : maxEpoch.toNat = 2 ^ 64 - 1 := rfl
  rw [hmax] at hepoch
  omega

/-- An administrator takes PID 100 back. -/
def unprotect100 : PidRequest where
  add := false
  payloadOk := true
  pid := 100
  peerPid := 1
  peerStartTimeTicks := 7
  privileged := true
  withinRate := true
  proc := twoAlive

theorem unprotects100 : Unprotects unprotect100 100 := ⟨rfl, rfl, rfl, rfl⟩

theorem alive_pid_removed : Removed (machine.run (started twoAlive [100]) []) unprotect100 :=
  ((removed_iff twoAlive [100] rfl (by decide) []).1 100 (by decide +kernel) unprotect100
    unprotects100).mpr
    ⟨by decide +kernel, by decide +kernel⟩

/-- After the exit of process 100 the request fails, and the token goes on to
name the dead PID. -/
theorem dead_pid_stays :
    Startup twoAlive [100] ∧ 100 ∈ measured (machine.run (started twoAlive [100]) [.exit 100]) ∧
      Unprotects unprotect100 100 ∧
      ¬ Removed (machine.run (started twoAlive [100]) [.exit 100]) unprotect100 ∧
      handleProtectPidUpdate (machine.run (started twoAlive [100]) [.exit 100]) unprotect100 =
        (machine.run (started twoAlive [100]) [.exit 100], .internal) := by
  have hstart : Listed (started twoAlive [100]) := listed_started twoAlive (by decide)
  have hlisted : Listed (machine.run (started twoAlive [100]) [.exit 100]) :=
    (run_listed [.exit 100] hstart).1
  have hmem : 100 ∈ (machine.run (started twoAlive [100]) [.exit 100]).policyProtectPids := by
    decide +kernel
  have hgone : 100 ∉ (machine.run (started twoAlive [100]) [.exit 100]).protectedPids := by
    decide +kernel
  have hkeep : ¬ Removed (machine.run (started twoAlive [100]) [.exit 100]) unprotect100 := fun hrem =>
    hgone ((removed_of_listed hlisted unprotects100 hmem).mp hrem).1
  refine ⟨rfl, measured_of_listed hlisted ▸ hmem, unprotects100, hkeep, ?_⟩
  rcases unprotect_spec hlisted unprotects100 hmem with ⟨hkey, -⟩ | ⟨-, hres⟩
  · exact absurd hkey hgone
  · exact hres

end Lota.L6.ProtectedSet

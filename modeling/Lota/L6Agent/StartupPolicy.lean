import Lota.L6Agent.TrustedDirs

/-!
# Applying the startup policy (`agent/startup_policy.c`)

Before its programs are attached, the agent writes the policy into the maps:
the lock of the maps, the enforcement flags, the allowlist of fs-verity digests,
the mode, the protected processes and the trusted libraries. It counts what it
has done, and when a step fails one block undoes it.

The steps are a list of actions, so what holds between them is said once
(`Applied`) and kept by each of them, whether it succeeds or not.

* `run_applied`: at every point the maps hold what the counters say.
* `rollback_eq`: what the undo block leaves.
* `startup_policy_restored_iff`: when a failed call leaves everything as it was.
* `policy_digest_faithful`: what two policies with one digest share.
-/
namespace Lota.L6.StartupPolicy
open Lota.Core Lota.L6.Policy Lota.L6.TrustedDirs

/-! ## The maps -/

/-- mirrors include/lota.h:85-91 -/
inductive CfgKey where
  | mode | strictMmap | blockPtrace | blockAnonExec | strictExec | strictModules | lockBpf
  deriving DecidableEq

/-- mirrors include/lota.h:81 -/
def modeMaintenance : UInt32 := 2

/-- The maps that the policy goes to; `loader` has those of the libraries. -/
structure BpfCtx where
  config : CfgKey → UInt32
  /-- The start time that a process is bound to. -/
  protectedPids : Option (UInt32 → Option UInt64)
  allowVerityDigest : Option (Finset VerityDigestKey)
  loader : Loader

/-- mirrors src/agent/agent.h:59-109 -/
structure Agent where
  mode : Int32
  bpfCtx : BpfCtx
  policySnapshot : Option PolicySnapshot
  policyDigest : Option (Blob 32)

/-- mirrors src/agent/bpf_loader.c:1456-1463 -/
def bpfLoaderSetConfig (fault : Option Errno) (ctx : BpfCtx) (key : CfgKey) (value : UInt32) :
    Except Errno BpfCtx :=
  if ctx.loader.loaded = false then .error .einval
  else match fault with
    | some e => .error e
    | none => .ok { ctx with config := Function.update ctx.config key value }

/-- mirrors src/agent/bpf_loader.c:1426-1437 -/
def bpfLoaderSetMode (fault : Option Errno) (ctx : BpfCtx) (mode : UInt32) : Except Errno BpfCtx :=
  if ctx.loader.loaded = false then .error .einval
  else if mode > modeMaintenance then .error .einval
  else bpfLoaderSetConfig fault ctx .mode mode

/-- mirrors src/agent/bpf_loader.c:1439-1454 -/
def bpfLoaderGetMode (fault : Option Errno) (ctx : BpfCtx) : Except Errno UInt32 :=
  if ctx.loader.loaded = false then .error .einval
  else match fault with
    | some e => .error e
    | none => .ok (ctx.config .mode)

/-- What the file system reports, if it is of the accepted length.
mirrors src/agent/bpf_loader.c:1335-1395 -/
def measureVerityDigest (reported : Except Errno VerityDigestKey) : Except Errno VerityDigestKey :=
  match reported with
  | .error e => .error e
  | .ok k => if k.Sha512 then .ok k else .error .einval

/-- mirrors src/agent/bpf_loader.c:1226-1245 -/
def bpfLoaderAllowVerityDigest (fault : Option Errno) (ctx : BpfCtx) (k : VerityDigestKey) :
    Except Errno BpfCtx :=
  if ctx.loader.loaded = false then .error .einval
  else if ¬ k.Sha512 then .error .einval
  else match ctx.allowVerityDigest, fault with
    | none, _ => .error .enotsup
    | some _, some e => .error e
    | some ks, none => .ok { ctx with allowVerityDigest := some (insert k ks) }

/-- mirrors src/agent/bpf_loader.c:1407-1424 -/
def bpfLoaderDisallowVerityDigest (fault : Option Errno) (ctx : BpfCtx) (k : VerityDigestKey) :
    Except Errno BpfCtx :=
  if ctx.loader.loaded = false then .error .einval
  else if ¬ k.Sha512 then .error .einval
  else match ctx.allowVerityDigest, fault with
    | none, _ => .error .enotsup
    | some _, some e => .error e
    | some ks, none =>
      if k ∈ ks then .ok { ctx with allowVerityDigest := some (ks.erase k) } else .error .enoent

/-- `startTime` is what `/proc` says of the process.
mirrors src/agent/bpf_loader.c:1502-1526 -/
def bpfLoaderProtectPid (startTime : Except Errno UInt64) (fault : Option Errno) (ctx : BpfCtx)
    (pid : UInt32) : Except Errno BpfCtx :=
  if ctx.loader.loaded = false then .error .einval
  else match ctx.protectedPids, startTime with
    | none, _ => .error .enotsup
    | some _, .error e => .error e
    | some m, .ok ticks =>
      if ticks = 0 then .error .einval
      else match fault with
        | some e => .error e
        | none => .ok { ctx with protectedPids := some (Function.update m pid (some ticks)) }

/-- mirrors src/agent/bpf_loader.c:1528-1544 -/
def bpfLoaderUnprotectPid (fault : Option Errno) (ctx : BpfCtx) (pid : UInt32) : Except Errno BpfCtx :=
  if ctx.loader.loaded = false then .error .einval
  else match ctx.protectedPids, fault with
    | none, _ => .error .enotsup
    | some _, some e => .error e
    | some m, none =>
      if m pid = none then .error .enoent
      else .ok { ctx with protectedPids := some (Function.update m pid none) }

/-! ## The steps -/

/-- What the kernel, the file system and the allocator answer, first to the
steps, then to the undo block. Loops are counted from zero. -/
structure Env where
  canonicalize : Option Errno
  hardening : Option Errno
  getMode : Option Errno
  setConfig : CfgKey → Option Errno
  integrity : Option Errno
  alloc : Option Errno
  measure : Nat → CPath → Except Errno VerityDigestKey
  allow : Nat → Option Errno
  digest : Option Errno
  startTime : Nat → UInt32 → Except Errno UInt64
  protect : Nat → Option Errno
  trust : Nat → Faults
  snapshot : Option Errno
  untrust : Nat → Faults
  unprotect : Nat → Option Errno
  disallow : Nat → Option Errno
  resetConfig : CfgKey → Option Errno

/-- The local variables. mirrors src/agent/startup_policy.c:477-494 -/
structure Locals where
  /-- `prev_mode`, if the kernel told it. -/
  prevMode : Option UInt32
  /-- The `allowlist_applied` first entries of `digests`. -/
  digests : List VerityDigestKey
  computedPolicyDigest : Option (Blob 32)
  /-- The `cfg_…_applied`. -/
  cfgApplied : CfgKey → Bool
  modeApplied : Bool
  appliedPids : Nat
  appliedLibs : Nat

structure Run where
  agent : Agent
  locals : Locals

inductive Action where
  | setFlag (key : CfgKey)
  | verifyIntegrity
  | allocDigests
  /-- The next path of `allow_verity`. -/
  | allowVerity
  | noAllowlist
  | sortDigests
  | computeDigest
  | setMode
  /-- The next process. -/
  | protectPid
  /-- The next library. -/
  | trustLib
  | canonicalizeSnapshot

def Run.setCtx (r : Run) (ctx : BpfCtx) : Run := { r with agent := { r.agent with bpfCtx := ctx } }

/-- One step. mirrors src/agent/startup_policy.c:515-768 -/
def step (t : FileTree) (env : Env) (policy : AgentStartupPolicy) (r : Run) :
    Action → Run × Except Errno Unit
  | .setFlag key =>
    match bpfLoaderSetConfig (env.setConfig key) r.agent.bpfCtx key 1 with
    | .error e => (r, .error e)
    | .ok ctx => ({ r.setCtx ctx with
        locals :=
          { r.locals with cfgApplied := Function.update r.locals.cfgApplied key true } }, .ok ())
  | .verifyIntegrity =>
    match env.integrity with
    | some e => (r, .error e)
    | none => (r, .ok ())
  | .allocDigests =>
    match env.alloc with
    | some e => (r, .error e)
    | none => (r, .ok ())
  | .allowVerity =>
    match policy.allowVerity[r.locals.digests.length]? with
    | none => (r, .ok ())
    | some path =>
      match measureVerityDigest (env.measure r.locals.digests.length path) with
      | .error e => (r, .error e)
      | .ok k =>
        match bpfLoaderAllowVerityDigest (env.allow r.locals.digests.length) r.agent.bpfCtx k with
        | .error e => (r, .error e)
        | .ok ctx =>
          ({ r.setCtx ctx with locals := { r.locals with digests := r.locals.digests ++ [k] } }, .ok ())
  | .noAllowlist => (r, .error .einval)
  | .sortDigests =>
    ({ r with locals := { r.locals with digests := qsort verityDigestKeyCmp r.locals.digests } },
      .ok ())
  | .computeDigest =>
    match computePolicyDigest env.digest policy r.locals.digests with
    | .error e => (r, .error e)
    | .ok d => ({ r with locals := { r.locals with computedPolicyDigest := some d } }, .ok ())
  | .setMode =>
    match bpfLoaderSetMode (env.setConfig .mode) r.agent.bpfCtx policy.mode.toUInt32 with
    | .error e => (r, .error e)
    | .ok ctx =>
      (⟨{ r.agent with mode := policy.mode, bpfCtx := ctx }, { r.locals with modeApplied := true }⟩,
        .ok ())
  | .protectPid =>
    match policy.protectPids[r.locals.appliedPids]? with
    | none => (r, .ok ())
    | some pid =>
      match bpfLoaderProtectPid (env.startTime r.locals.appliedPids pid)
        (env.protect r.locals.appliedPids) r.agent.bpfCtx pid with
      | .error e => (r, .error e)
      | .ok ctx =>
        ({ r.setCtx ctx with locals := { r.locals with appliedPids := r.locals.appliedPids + 1 } },
          .ok ())
  | .trustLib =>
    match policy.trustLibs[r.locals.appliedLibs]? with
    | none => (r, .ok ())
    | some path =>
      match bpfLoaderTrustLib t (env.trust r.locals.appliedLibs) r.agent.bpfCtx.loader path.bytes with
      | (loader, .error e) => (r.setCtx { r.agent.bpfCtx with loader := loader }, .error e)
      | (loader, .ok ()) =>
        let r' := r.setCtx { r.agent.bpfCtx with loader := loader }
        ({ r' with locals := { r.locals with appliedLibs := r.locals.appliedLibs + 1 } }, .ok ())
  | .canonicalizeSnapshot =>
    match env.snapshot with
    | some e => (r, .error e)
    | none => (r, .ok ())

/-- Up to the first that fails. -/
def runActions (t : FileTree) (env : Env) (policy : AgentStartupPolicy) (r : Run) :
    List Action → Run × Except Errno Unit
  | [] => (r, .ok ())
  | a :: as =>
    match step t env policy r a with
    | (r', .ok ()) => runActions t env policy r' as
    | (r', .error e) => (r', .error e)

def flagAction (on : Bool) (key : CfgKey) : List Action := if on then [.setFlag key] else []

/-- mirrors src/agent/startup_policy.c:546-623 -/
def allowlistActions (policy : AgentStartupPolicy) : List Action :=
  if policy.allowVerity.length > 0 then
    .allocDigests :: (List.replicate policy.allowVerity.length .allowVerity ++
      [.sortDigests, .computeDigest])
  else if policy.strictExec || policy.strictModules then [.noAllowlist]
  else [.computeDigest]

/-- Up to the mode. mirrors src/agent/startup_policy.c:515-682 -/
def earlyActions (policy : AgentStartupPolicy) : List Action :=
  [.setFlag .lockBpf, .verifyIntegrity] ++
    (flagAction policy.strictMmap .strictMmap ++ (allowlistActions policy ++
  (flagAction policy.strictExec .strictExec ++ (flagAction policy.blockPtrace .blockPtrace ++
  (flagAction policy.strictModules .strictModules ++
    (flagAction policy.blockAnonExec .blockAnonExec ++ [.setMode]))))))

/-- mirrors src/agent/startup_policy.c:684-762 -/
def lateActions (policy : AgentStartupPolicy) : List Action :=
  List.replicate policy.protectPids.length .protectPid ++
    (List.replicate policy.trustLibs.length .trustLib ++ [.canonicalizeSnapshot])

/-! ## The undo block -/

/-- A failed undo is only logged. -/
def orKeep (ctx : BpfCtx) : Except Errno BpfCtx → BpfCtx
  | .ok ctx' => ctx'
  | .error _ => ctx

/-- From the last library back. mirrors src/agent/startup_policy.c:804-812 -/
def rollbackLibs (t : FileTree) (env : Env) (ctx : BpfCtx) (libs : List CPath) : BpfCtx :=
  libs.zipIdx.reverse.foldl
    (fun ctx p =>
      { ctx with loader := (bpfLoaderUntrustLib t (env.untrust p.2) ctx.loader p.1.bytes).1 }) ctx

/-- mirrors src/agent/startup_policy.c:814-822 -/
def rollbackPids (env : Env) (ctx : BpfCtx) (pids : List UInt32) : BpfCtx :=
  pids.zipIdx.reverse.foldl
    (fun ctx p => orKeep ctx (bpfLoaderUnprotectPid (env.unprotect p.2) ctx p.1)) ctx

/-- mirrors src/agent/startup_policy.c:824-834 -/
def rollbackDigests (env : Env) (ctx : BpfCtx) (digests : List VerityDigestKey) : BpfCtx :=
  digests.zipIdx.foldl
    (fun ctx p => orKeep ctx (bpfLoaderDisallowVerityDigest (env.disallow p.2) ctx p.1)) ctx

/-- mirrors src/agent/startup_policy.c:836-850 -/
def rollbackMode (env : Env) (l : Locals) (a : Agent) : Agent :=
  if l.modeApplied then
    let mode := l.prevMode.getD a.mode.toUInt32
    match bpfLoaderSetMode (env.resetConfig .mode) a.bpfCtx mode with
    | .error _ => a
    | .ok ctx => { a with mode := mode.toInt32, bpfCtx := ctx }
  else a

/-- mirrors src/agent/startup_policy.c:852-869 -/
def rollbackFlags (env : Env) (l : Locals) (ctx : BpfCtx) : BpfCtx :=
  [CfgKey.lockBpf, .blockAnonExec, .strictModules, .blockPtrace, .strictExec, .strictMmap].foldl
    (fun ctx key => if l.cfgApplied key
      then orKeep ctx (bpfLoaderSetConfig (env.resetConfig key) ctx key 0) else ctx) ctx

/-- mirrors src/agent/startup_policy.c:803-871 -/
def rollback (t : FileTree) (env : Env) (policy : AgentStartupPolicy) (r : Run) : Agent :=
  let ctx := rollbackLibs t env r.agent.bpfCtx (policy.trustLibs.take r.locals.appliedLibs)
  let ctx := rollbackPids env ctx (policy.protectPids.take r.locals.appliedPids)
  let ctx := rollbackDigests env ctx r.locals.digests
  let a := rollbackMode env r.locals { r.agent with bpfCtx := ctx }
  { a with bpfCtx := rollbackFlags env r.locals a.bpfCtx }

/-! ## The call -/

/-- mirrors src/agent/startup_policy.c:874-907 -/
def validateProtectedPidCapacity (env : Env) (policy : AgentStartupPolicy) : Except Errno Unit :=
  match env.canonicalize with
  | some e => .error e
  | none =>
    if (canonicalizeU32Set policy.protectPids).length > maxProtectedPids then .error .enospc else .ok ()

def Locals.init (prevMode : Option UInt32) : Locals where
  prevMode := prevMode
  digests := []
  computedPolicyDigest := none
  cfgApplied := fun _ => false
  modeApplied := false
  appliedPids := 0
  appliedLibs := 0

/-- mirrors src/agent/startup_policy.c:764-792 -/
def persist (policy : AgentStartupPolicy) (r : Run) : Agent :=
  { r.agent with
    policySnapshot := some (persistSnapshot policy r.locals.digests)
    policyDigest := r.locals.computedPolicyDigest }

/-- mirrors src/agent/startup_policy.c:475-872 -/
def agentApplyStartupPolicy (t : FileTree) (env : Env) (policy : AgentStartupPolicy) (a : Agent) :
    Agent × Except Errno Unit :=
  match validateProtectedPidCapacity env policy with
  | .error e => (a, .error e)
  | .ok () =>
    match env.hardening with
    | some e => (a, .error e)
    | none =>
      let start : Run := ⟨a, .init (bpfLoaderGetMode env.getMode a.bpfCtx).toOption⟩
      match runActions t env policy start (earlyActions policy ++ lateActions policy) with
      | (r, .ok ()) => (persist policy r, .ok ())
      | (r, .error e) => (rollback t env policy r, .error e)

/-! ## What has been applied -/

/-- The directories that the libraries are counted in, with repeats. -/
def libDirs (t : FileTree) (libs : List CPath) : List TrustedLibKey :=
  libs.flatMap fun p => dirKeys t [] (dirComponents p.bytes)

/-- The libraries in the map are among those applied, and the directories are
counted once for each application. -/
def LibsApplied (t : FileTree) (paths : List CPath) (loader : Loader) : Prop :=
  ∃ libs m, loader = ⟨true, some libs, some m⟩ ∧
    (∀ p ∈ paths, ∃ lib, statRegularFileNofollow t p.bytes = .ok lib ∧ lib.isZero = false ∧
      Resolves t [] (dirComponents p.bytes)) ∧
    (∀ lib ∈ libs, ∃ p ∈ paths, statRegularFileNofollow t p.bytes = .ok lib) ∧
    RefCount.Counts m fun k => (libDirs t paths).count k

section
variable {t : FileTree} {f : Faults} {paths : List CPath} {path : CPath} {loader : Loader}

theorem fresh_libsApplied : LibsApplied t [] Loader.fresh :=
  ⟨∅, fun _ => none, rfl, by simp, by simp, .empty⟩

theorem libDirs_concat :
    libDirs t (paths ++ [path]) = libDirs t paths ++ dirKeys t [] (dirComponents path.bytes) := by
  simp [libDirs]

/-- Trusting one more library, or failing to. -/
theorem trust_libsApplied (h : LibsApplied t paths loader) (hundo : ∀ n, f.undo n = .none)
    (hlib : f.undoLib = none) :
    (∃ l, bpfLoaderTrustLib t f loader path.bytes = (l, .ok ()) ∧ LibsApplied t (paths ++ [path]) l) ∨
      ∃ l e, bpfLoaderTrustLib t f loader path.bytes = (l, .error e) ∧ LibsApplied t paths l := by
  cases hreach : reaches t f path.bytes with
  | none =>
    obtain ⟨e, hstop⟩ := @bpfLoaderTrustLib_stops t f path.bytes loader hreach
    exact .inr ⟨loader, e, hstop, h⟩
  | some lib =>
    obtain ⟨libs, m, rfl, hpaths, hlibs, hcounts⟩ := h
    obtain ⟨-, -, hstat, hz⟩ := reaches_some hreach
    have hundo' : f.undo = fun _ => .none := funext hundo
    rw [bpfLoaderTrustLib_reaches rfl rfl hreach]
    simp only [hundo', hlib]
    rcases parents_add hcounts hstat f.dir with ⟨m', hup, -, hr, hcounts'⟩ | ⟨e, hup⟩
    · rw [hup]
      refine .inl ⟨_, rfl, insert lib libs, m', rfl, ?_, ?_, ?_⟩
      · intro p hp
        rcases List.mem_append.mp hp with hp | hp
        · exact hpaths p hp
        · rw [List.mem_singleton.mp hp]
          exact ⟨lib, hstat, hz, hr⟩
      · intro l hl
        rcases Finset.mem_insert.mp hl with rfl | hl
        · exact ⟨path, by simp, hstat⟩
        · obtain ⟨p, hp, hs⟩ := hlibs l hl
          exact ⟨p, List.mem_append_left _ hp, hs⟩
      · rw [libDirs_concat]
        simpa only [List.count_append] using hcounts'
    · rw [hup]
      refine .inr ⟨_, e, rfl, (insert lib libs).erase lib, m, rfl, hpaths, ?_, hcounts⟩
      intro l hl
      obtain ⟨hne, hl⟩ := Finset.mem_erase.mp hl
      exact hlibs l ((Finset.mem_insert.mp hl).resolve_left hne)

/-- Untrusting the last one takes it back. -/
theorem untrust_libsApplied (h : LibsApplied t (paths ++ [path]) loader) :
    LibsApplied t paths (bpfLoaderUntrustLib t .none loader path.bytes).1 := by
  obtain ⟨libs, m, rfl, hpaths, hlibs, hcounts⟩ := h
  obtain ⟨lib, hstat, hz, hr⟩ := hpaths path (by simp)
  have hreach : reaches t .none path.bytes = some lib := by simp [reaches, Faults.none, hstat, hz]
  rw [bpfLoaderUntrustLib_reaches rfl rfl hreach]
  show LibsApplied t paths ⟨true, some (libs.erase lib),
    (updateTrustedParentMountpoints t (some m) path.bytes false (fun _ => .none) (fun _ => .none)).1⟩
  rw [parents_sub hstat path.fits hr]
  refine ⟨libs.erase lib, _, rfl, fun p hp => hpaths p (List.mem_append_left _ hp), ?_, ?_⟩
  · intro l hl
    obtain ⟨hne, hl⟩ := Finset.mem_erase.mp hl
    obtain ⟨p, hp, hs⟩ := hlibs l hl
    rcases List.mem_append.mp hp with hp | hp
    · exact ⟨p, hp, hs⟩
    · rw [List.mem_singleton.mp hp, hstat] at hs
      exact absurd (Except.ok.inj hs).symm hne
  · have hdown := hcounts.foldl_decr (dirKeys t [] (dirComponents path.bytes))
    rw [libDirs_concat] at hdown
    simpa only [List.count_append, Nat.add_sub_cancel] using hdown

theorem LibsApplied.fresh (h : LibsApplied t [] loader) : loader = Loader.fresh := by
  obtain ⟨libs, m, rfl, -, hlibs, hcounts⟩ := h
  have hempty : libs = ∅ := by
    rw [Finset.eq_empty_iff_forall_notMem]
    intro l hl
    obtain ⟨p, hp, -⟩ := hlibs l hl
    cases hp
  have hm : m = fun _ => none := hcounts.unique .empty
  rw [hempty, hm]
  rfl

end

/-- Freshly loaded maps, with any of the three modes. -/
structure Fresh (a : Agent) : Prop where
  flags : ∀ k, k ≠ .mode → a.bpfCtx.config k = 0
  mode : a.bpfCtx.config .mode ≤ modeMaintenance
  pids : a.bpfCtx.protectedPids = some fun _ => none
  verity : a.bpfCtx.allowVerityDigest = some ∅
  loader : a.bpfCtx.loader = Loader.fresh

/-- The undo operations succeed: those of the undo block, and those with which a
failed `bpf_loader_trust_lib` takes its own work back. -/
structure RollbackSucceeds (env : Env) : Prop where
  trust : ∀ i, (∀ n, (env.trust i).undo n = .none) ∧ (env.trust i).undoLib = none
  untrust : ∀ i, env.untrust i = .none
  unprotect : ∀ i, env.unprotect i = none
  disallow : ∀ i, env.disallow i = none
  resetConfig : ∀ k, env.resetConfig k = none

/-- The maps hold what the counters say. -/
structure Applied (t : FileTree) (env : Env) (policy : AgentStartupPolicy) (a : Agent) (r : Run) :
    Prop where
  flags : ∀ k, k ≠ .mode → r.agent.bpfCtx.config k = if r.locals.cfgApplied k then 1 else 0
  modeSet : r.locals.modeApplied = true → r.agent.bpfCtx.config .mode = policy.mode.toUInt32 ∧
    r.agent.mode = policy.mode ∧ policy.mode.toUInt32 ≤ modeMaintenance
  modeUnset : r.locals.modeApplied = false →
    r.agent.bpfCtx.config .mode = a.bpfCtx.config .mode ∧ r.agent.mode = a.mode
  prev : r.locals.prevMode = (bpfLoaderGetMode env.getMode a.bpfCtx).toOption
  pids : ∃ m, r.agent.bpfCtx.protectedPids = some m ∧
    ∀ pid, m pid ≠ none → pid ∈ policy.protectPids.take r.locals.appliedPids
  verity : ∃ ks, r.agent.bpfCtx.allowVerityDigest = some ks ∧ ∀ k ∈ ks, k ∈ r.locals.digests
  sha512 : ∀ k ∈ r.locals.digests, k.Sha512
  libs : LibsApplied t (policy.trustLibs.take r.locals.appliedLibs) r.agent.bpfCtx.loader
  kept : r.agent.policySnapshot = a.policySnapshot ∧ r.agent.policyDigest = a.policyDigest

section
variable {t : FileTree} {env : Env} {policy : AgentStartupPolicy} {a : Agent} {r : Run} {ctx : BpfCtx}

theorem Applied.loaded (h : Applied t env policy a r) : r.agent.bpfCtx.loader.loaded = true := by
  obtain ⟨libs, m, hl, -⟩ := h.libs
  rw [hl]

theorem setConfig_cases (hl : ctx.loader.loaded = true) (fault : Option Errno) (key : CfgKey)
    (value : UInt32) :
    (fault = none ∧ bpfLoaderSetConfig fault ctx key value =
      .ok { ctx with config := Function.update ctx.config key value }) ∨
      ∃ e, fault = some e ∧ bpfLoaderSetConfig fault ctx key value = .error e := by
  unfold bpfLoaderSetConfig
  rw [if_neg (by simp [hl])]
  cases fault with
  | none => exact .inl ⟨rfl, rfl⟩
  | some e => exact .inr ⟨e, rfl, rfl⟩

theorem setFlag_applied (h : Applied t env policy a r) {key : CfgKey} (hkey : key ≠ .mode) :
    Applied t env policy a (step t env policy r (.setFlag key)).1 := by
  rcases setConfig_cases h.loaded (env.setConfig key) key 1 with ⟨-, hset⟩ | ⟨e, -, hset⟩
  · simp only [step, hset]
    refine { h with flags := fun k hk => ?_, modeSet := fun hm => ?_, modeUnset := fun hm => ?_ }
    · by_cases he : k = key
      · simp [Run.setCtx, he]
      · simpa [Run.setCtx, he] using h.flags k hk
    · simpa [Run.setCtx, Ne.symm hkey] using h.modeSet hm
    · simpa [Run.setCtx, Ne.symm hkey] using h.modeUnset hm
  · simp only [step, hset]
    exact h

theorem allowVerity_applied (h : Applied t env policy a r) :
    Applied t env policy a (step t env policy r .allowVerity).1 := by
  simp only [step]
  cases hpath : policy.allowVerity[r.locals.digests.length]? with
  | none => exact h
  | some path =>
    simp only
    cases hmeasure : measureVerityDigest (env.measure r.locals.digests.length path) with
    | error e => exact h
    | ok k =>
      have hk : k.Sha512 := by
        unfold measureVerityDigest at hmeasure
        split at hmeasure
        · cases hmeasure
        · split at hmeasure
          · rename_i hs
            cases hmeasure
            exact hs
          · cases hmeasure
      obtain ⟨ks, hks, hsub⟩ := h.verity
      simp only [bpfLoaderAllowVerityDigest, h.loaded, hk, hks, not_true_eq_false, if_false,
        Bool.true_eq_false]
      cases env.allow r.locals.digests.length with
      | some e => exact h
      | none =>
        refine { h with verity := ⟨insert k ks, rfl, fun k' hk' => ?_⟩, sha512 := fun k' hk' => ?_ }
        · rcases Finset.mem_insert.mp hk' with rfl | hk'
          · exact List.mem_append_right _ (List.mem_singleton.mpr rfl)
          · exact List.mem_append_left _ (hsub k' hk')
        · rcases List.mem_append.mp hk' with hk' | hk'
          · exact h.sha512 k' hk'
          · rw [List.mem_singleton.mp hk']
            exact hk

theorem setMode_applied (h : Applied t env policy a r) :
    Applied t env policy a (step t env policy r .setMode).1 := by
  simp only [step, bpfLoaderSetMode, h.loaded, Bool.true_eq_false, if_false]
  by_cases hmode : policy.mode.toUInt32 > modeMaintenance
  · rw [if_pos hmode]
    exact h
  rw [if_neg hmode]
  rcases setConfig_cases h.loaded (env.setConfig .mode) .mode policy.mode.toUInt32 with ⟨-,
    hset⟩ | ⟨e, -, hset⟩
  · rw [hset]
    refine { h with flags := fun k hk => ?_, modeSet := fun _ => ?_, modeUnset := fun hm => ?_ }
    · simpa [hk] using h.flags k hk
    · exact ⟨by simp, rfl, UInt32.not_lt.mp hmode⟩
    · cases hm
  · rw [hset]
    exact h

theorem take_next {α : Type} {l : List α} {n : Nat} {x : α} (h : l[n]? = some x) :
    l.take (n + 1) = l.take n ++ [x] := by
  rw [List.take_add_one, h]
  rfl

theorem protectPid_applied (h : Applied t env policy a r) :
    Applied t env policy a (step t env policy r .protectPid).1 := by
  simp only [step]
  cases hpid : policy.protectPids[r.locals.appliedPids]? with
  | none => exact h
  | some pid =>
    obtain ⟨m, hm, hsub⟩ := h.pids
    simp only [bpfLoaderProtectPid, h.loaded, hm, Bool.true_eq_false, if_false]
    cases env.startTime r.locals.appliedPids pid with
    | error e => exact h
    | ok ticks =>
      by_cases hticks : ticks = 0
      · simp only [hticks, if_true]
        exact h
      · simp only [hticks, if_false]
        cases env.protect r.locals.appliedPids with
        | some e => exact h
        | none =>
          refine { h with pids := ⟨Function.update m pid (some ticks), rfl, fun p hp => ?_⟩ }
          show p ∈ policy.protectPids.take (r.locals.appliedPids + 1)
          rw [take_next hpid]
          by_cases hpp : p = pid
          · rw [hpp]
            exact List.mem_append_right _ (List.mem_singleton.mpr rfl)
          · rw [Function.update_of_ne hpp] at hp
            exact List.mem_append_left _ (hsub p hp)

theorem trustLib_applied (hroll : RollbackSucceeds env) (h : Applied t env policy a r) :
    Applied t env policy a (step t env policy r .trustLib).1 := by
  simp only [step]
  cases hpath : policy.trustLibs[r.locals.appliedLibs]? with
  | none => exact h
  | some path =>
    obtain ⟨hundo, hlib⟩ := hroll.trust r.locals.appliedLibs
    simp only
    rcases @trust_libsApplied t _ _ path _ h.libs hundo hlib with ⟨l, hcall, hl⟩ | ⟨l, e, hcall, hl⟩
    · rw [hcall]
      refine { h with libs := ?_ }
      show LibsApplied t (policy.trustLibs.take (r.locals.appliedLibs + 1)) l
      rw [take_next hpath]
      exact hl
    · rw [hcall]
      exact { h with libs := hl }

/-- The flags that are set are not the mode. -/
def Action.proper : Action → Prop
  | .setFlag key => key ≠ .mode
  | _ => True

/-- **Step.** Every action keeps the account, also one that fails. -/
theorem step_applied (hroll : RollbackSucceeds env) (h : Applied t env policy a r) {act : Action}
    (hact : act.proper) : Applied t env policy a (step t env policy r act).1 := by
  cases act with
  | setFlag key => exact setFlag_applied h hact
  | verifyIntegrity =>
    simp only [step]
    cases env.integrity <;> exact h
  | allocDigests =>
    simp only [step]
    cases env.alloc <;> exact h
  | allowVerity => exact allowVerity_applied h
  | noAllowlist => exact h
  | sortDigests =>
    have hmem : ∀ k, k ∈ qsort verityDigestKeyCmp r.locals.digests ↔ k ∈ r.locals.digests :=
      fun k => (qsort_perm _ r.locals.digests).mem_iff
    obtain ⟨ks, hks, hsub⟩ := h.verity
    exact { h with
      verity := ⟨ks, hks, fun k hk => (hmem k).mpr (hsub k hk)⟩
      sha512 := fun k hk => h.sha512 k ((hmem k).mp hk) }
  | computeDigest =>
    simp only [step]
    cases computePolicyDigest env.digest policy r.locals.digests with
    | error e => exact h
    | ok d => exact { h with }
  | setMode => exact setMode_applied h
  | protectPid => exact protectPid_applied h
  | trustLib => exact trustLib_applied hroll h
  | canonicalizeSnapshot =>
    simp only [step]
    cases env.snapshot <;> exact h

/-- What every action keeps, also when it fails, a run keeps. -/
theorem run_keeps {p : Run → Prop} {acts : List Action}
    (hstep : ∀ act ∈ acts, ∀ r, p r → p (step t env policy r act).1)
    (h : p r) : p (runActions t env policy r acts).1 := by
  induction acts generalizing r with
  | nil => exact h
  | cons act acts ih =>
    have hnext := hstep act (List.mem_cons_self ..) r h
    rw [runActions]
    cases hs : step t env policy r act with
    | mk r' res =>
      rw [hs] at hnext
      cases res with
      | error e => exact hnext
      | ok u => exact ih (fun x hx => hstep x (List.mem_cons_of_mem _ hx)) hnext

/-- **Run.** -/
theorem run_applied (hroll : RollbackSucceeds env) {acts : List Action}
    (hacts : ∀ act ∈ acts, act.proper)
    (h : Applied t env policy a r) : Applied t env policy a (runActions t env policy r acts).1 :=
  run_keeps (fun act hact _ hr => step_applied hroll hr (hacts act hact)) h

/-! ## What the undo block leaves -/

theorem rollbackLibs_eq (hroll : RollbackSucceeds env) {paths : List CPath}
    (h : LibsApplied t paths ctx.loader) :
    rollbackLibs t env ctx paths = { ctx with loader := Loader.fresh } := by
  induction paths using List.reverseRecOn generalizing ctx with
  | nil => rw [← h.fresh, rollbackLibs, List.zipIdx_nil, List.reverse_nil, List.foldl_nil]
  | append_singleton paths path ih =>
    have hstep :
        LibsApplied t paths
        (bpfLoaderUntrustLib t (env.untrust paths.length) ctx.loader path.bytes).1 := by
      rw [hroll.untrust]
      exact untrust_libsApplied h
    have hrest :=
      @ih { ctx with loader := (bpfLoaderUntrustLib t (env.untrust paths.length) ctx.loader
        path.bytes).1 } hstep
    unfold rollbackLibs at hrest ⊢
    rw [List.zipIdx_append, List.reverse_append]
    simpa using hrest

theorem rollbackPids_eq (hroll : RollbackSucceeds env) (hl : ctx.loader.loaded = true)
    {pids : List UInt32}
    {m : UInt32 → Option UInt64} (hm : ctx.protectedPids = some m)
    (h : ∀ pid, m pid ≠ none → pid ∈ pids) :
    rollbackPids env ctx pids = { ctx with protectedPids := some fun _ => none } := by
  induction pids using List.reverseRecOn generalizing ctx m with
  | nil =>
    have hnone : m = fun _ => none := by
      funext pid
      by_contra hne
      exact absurd (h pid hne) List.not_mem_nil
    rw [← hnone, ← hm]
    rfl
  | append_singleton pids pid ih =>
    -- the process is gone afterwards, whether it was there or not
    have hstep : orKeep ctx (bpfLoaderUnprotectPid (env.unprotect pids.length) ctx pid) =
        { ctx with protectedPids := some (Function.update m pid none) } := by
      simp only [bpfLoaderUnprotectPid, hl, hm, hroll.unprotect, Bool.true_eq_false, if_false]
      by_cases hpid : m pid = none
      · rw [if_pos hpid, ← hpid, Function.update_eq_self, ← hm]
        rfl
      · rw [if_neg hpid]
        rfl
    have hsub : ∀ p, Function.update m pid none p ≠ none → p ∈ pids := by
      intro p hp
      by_cases hpp : p = pid
      · rw [hpp, Function.update_self] at hp
        exact absurd rfl hp
      · rw [Function.update_of_ne hpp] at hp
        exact (List.mem_append.mp (h p hp)).resolve_right fun hs => hpp (List.mem_singleton.mp hs)
    have hrest := @ih { ctx with protectedPids := some (Function.update m pid none) } hl _ rfl hsub
    unfold rollbackPids at hrest ⊢
    rw [List.zipIdx_append, List.reverse_append]
    simpa [hstep] using hrest

theorem disallowAll_eq (hroll : RollbackSucceeds env) (hl : ctx.loader.loaded = true)
    {digests : List VerityDigestKey}
    (hs : ∀ k ∈ digests, k.Sha512) {ks : Finset VerityDigestKey} (hks : ctx.allowVerityDigest = some ks)
    (h : ∀ k ∈ ks, k ∈ digests) (n : Nat) :
    (digests.zipIdx n).foldl
    (fun ctx p => orKeep ctx (bpfLoaderDisallowVerityDigest (env.disallow p.2) ctx p.1)) ctx =
      { ctx with allowVerityDigest := some ∅ } := by
  induction digests generalizing ctx ks n with
  | nil =>
    have hempty : ks = ∅ :=
      Finset.eq_empty_iff_forall_notMem.mpr fun k hk => absurd (h k hk) List.not_mem_nil
    rw [← hempty, ← hks]
    rfl
  | cons k digests ih =>
    have hk : k.Sha512 := hs k (List.mem_cons_self ..)
    have hstep : orKeep ctx (bpfLoaderDisallowVerityDigest (env.disallow n) ctx k) =
        { ctx with allowVerityDigest := some (ks.erase k) } := by
      simp only [bpfLoaderDisallowVerityDigest, hl, hk, hks, hroll.disallow, not_true_eq_false,
        Bool.true_eq_false, if_false]
      by_cases hmem : k ∈ ks
      · rw [if_pos hmem]
        rfl
      · rw [if_neg hmem, Finset.erase_eq_of_notMem hmem, ← hks]
        rfl
    have hsub : ∀ k' ∈ ks.erase k, k' ∈ digests := by
      intro k' hk'
      obtain ⟨hne, hk'⟩ := Finset.mem_erase.mp hk'
      exact (List.mem_cons.mp (h k' hk')).resolve_left hne
    rw [List.zipIdx_cons, List.foldl_cons, hstep]
    exact @ih { ctx with allowVerityDigest := some (ks.erase k) } hl
      (fun x hx => hs x (List.mem_cons_of_mem _ hx)) _ rfl
      hsub (n + 1)

/-- Switching off what was switched on. -/
theorem resetAll_eq (hroll : RollbackSucceeds env) (hl : ctx.loader.loaded = true) (l : Locals)
    (keys : List CfgKey) :
    keys.foldl
    (fun ctx key => if l.cfgApplied key
      then orKeep ctx (bpfLoaderSetConfig (env.resetConfig key) ctx key 0)
      else ctx) ctx =
      { ctx with config := fun k => if k ∈ keys ∧ l.cfgApplied k = true then 0 else ctx.config k } := by
  induction keys generalizing ctx with
  | nil => simp
  | cons key keys ih =>
    rw [List.foldl_cons]
    by_cases hkey : l.cfgApplied key = true
    · have hstep : orKeep ctx (bpfLoaderSetConfig (env.resetConfig key) ctx key 0) =
          { ctx with config := Function.update ctx.config key 0 } := by
        rcases setConfig_cases hl (env.resetConfig key) key 0 with ⟨-, hset⟩ | ⟨e, hf, -⟩
        · rw [hset]
          rfl
        · rw [hroll.resetConfig] at hf
          cases hf
      rw [if_pos hkey, hstep, @ih { ctx with config := Function.update ctx.config key 0 } hl]
      congr 1
      funext k
      by_cases hk : k = key
      · simp [hk, hkey]
      · simp [hk]
    · rw [if_neg hkey, ih hl]
      congr 1
      funext k
      by_cases hk : k = key
      · simp [hk, hkey]
      · simp [hk]

/-- The mode that the undo block ends with. -/
def restoredMode (env : Env) (policy : AgentStartupPolicy) (a : Agent) : UInt32 :=
  match env.getMode with
  | none => a.bpfCtx.config .mode
  | some _ => policy.mode.toUInt32

theorem getMode_eq (ha : Fresh a) : (bpfLoaderGetMode env.getMode a.bpfCtx).toOption =
    match env.getMode with
    | none => some (a.bpfCtx.config .mode)
    | some _ => none := by
  have hl : a.bpfCtx.loader.loaded = true := by
    rw [ha.loader]
    rfl
  unfold bpfLoaderGetMode
  rw [if_neg (by simp [hl])]
  cases env.getMode <;> rfl

def BpfCtx.withMode (ctx : BpfCtx) (mode : UInt32) : BpfCtx :=
  { ctx with config := Function.update ctx.config .mode mode }

/-- Maps with nothing in them but the configuration. -/
def cleared (config : CfgKey → UInt32) : BpfCtx := ⟨config, some fun _ => none, some ∅, Loader.fresh⟩

theorem Fresh.cleared (ha : Fresh a) {config : CfgKey → UInt32} (h : ∀ k, k ≠ .mode → config k = 0) :
    cleared config = a.bpfCtx.withMode (config .mode) := by
  have hconfig : config = Function.update a.bpfCtx.config .mode (config .mode) := by
    funext k
    by_cases hk : k = .mode
    · rw [hk, Function.update_self]
    · rw [Function.update_of_ne hk, h k hk, ha.flags k hk]
  simp only [StartupPolicy.cleared, BpfCtx.withMode, ha.pids, ha.verity, ha.loader, ← hconfig]

theorem rollbackMaps_eq (hroll : RollbackSucceeds env) (h : Applied t env policy a r) :
    rollbackDigests env
    (rollbackPids env (rollbackLibs t env r.agent.bpfCtx (policy.trustLibs.take r.locals.appliedLibs))
      (policy.protectPids.take r.locals.appliedPids)) r.locals.digests =
      cleared r.agent.bpfCtx.config := by
  obtain ⟨m, hm, hpids⟩ := h.pids
  obtain ⟨ks, hks, hverity⟩ := h.verity
  have hlibsEq : rollbackLibs t env r.agent.bpfCtx (policy.trustLibs.take r.locals.appliedLibs) =
      ⟨r.agent.bpfCtx.config, some m, some ks, Loader.fresh⟩ := by
    rw [rollbackLibs_eq hroll h.libs, hm, hks]
  have hpidsEq : rollbackPids env ⟨r.agent.bpfCtx.config, some m, some ks, Loader.fresh⟩
      (policy.protectPids.take r.locals.appliedPids) = ⟨r.agent.bpfCtx.config, some fun _ => none,
        some ks, Loader.fresh⟩ :=
    rollbackPids_eq hroll rfl rfl hpids
  rw [hlibsEq, hpidsEq]
  exact disallowAll_eq hroll rfl h.sha512 rfl hverity 0

/-- The mode and the record of it, after the undo block. -/
theorem rollbackMode_eq (hroll : RollbackSucceeds env) (ha : Fresh a) (h : Applied t env policy a r)
    {b : Agent}
    (hl : b.bpfCtx.loader.loaded = true) (hb : b.mode = r.agent.mode) :
    rollbackMode env r.locals b =
      if r.locals.modeApplied then { b with
        mode := (restoredMode env policy a).toInt32
        bpfCtx := b.bpfCtx.withMode (restoredMode env policy a) }
      else b := by
  unfold rollbackMode
  by_cases hm : r.locals.modeApplied = true
  · obtain ⟨-, hmode, hle⟩ := h.modeSet hm
    have hprev : r.locals.prevMode.getD b.mode.toUInt32 = restoredMode env policy a := by
      rw [h.prev, getMode_eq ha, hb, hmode, restoredMode]
      cases env.getMode <;> rfl
    have hrestored : restoredMode env policy a ≤ modeMaintenance := by
      unfold restoredMode
      cases env.getMode with
      | none => exact ha.mode
      | some e => exact hle
    rw [if_pos hm, if_pos hm]
    simp only [hprev, bpfLoaderSetMode, hl, Bool.true_eq_false, if_false]
    rw [if_neg (UInt32.not_lt.mpr hrestored)]
    rcases setConfig_cases hl (env.resetConfig .mode) .mode (restoredMode env policy a) with ⟨-,
      hset⟩ | ⟨e, hf, -⟩
    · rw [hset]
      rfl
    · rw [hroll.resetConfig] at hf
      cases hf
  · rw [if_neg hm, if_neg hm]

theorem rollbackFlags_eq (hroll : RollbackSucceeds env) (ha : Fresh a) (l : Locals)
    {config : CfgKey → UInt32}
    (h : ∀ k, k ≠ .mode → config k = if l.cfgApplied k then 1 else 0) :
    rollbackFlags env l (cleared config) = a.bpfCtx.withMode (config .mode) := by
  have hreset := @resetAll_eq env (cleared config) hroll rfl l
    [.lockBpf, .blockAnonExec, .strictModules, .blockPtrace, .strictExec, .strictMmap]
  unfold rollbackFlags
  rw [hreset]
  refine (ha.cleared fun k hk => ?_).trans ?_
  · have hmem :
        k ∈ [CfgKey.lockBpf, .blockAnonExec, .strictModules, .blockPtrace, .strictExec,
          .strictMmap] := by
      cases k with
      | mode => exact absurd rfl hk
      | _ => decide
    by_cases happ : l.cfgApplied k = true
    · rw [if_pos ⟨hmem, happ⟩]
    · rw [if_neg fun hc => happ hc.2]
      exact (h k hk).trans (if_neg happ)
  · rw [if_neg (by simp)]
    rfl

/-- **What the undo block leaves.** Everything is as before, but for the mode
and the record of it if the mode had been set. -/
theorem rollback_eq (hroll : RollbackSucceeds env) (ha : Fresh a) (h : Applied t env policy a r) :
    rollback t env policy r =
      if r.locals.modeApplied then { a with
        mode := (restoredMode env policy a).toInt32
        bpfCtx := a.bpfCtx.withMode (restoredMode env policy a) }
      else a := by
  obtain ⟨hsnap, hdigest⟩ := h.kept
  have hback :=
    rollbackMode_eq hroll ha h
      (b := ⟨r.agent.mode, cleared r.agent.bpfCtx.config, r.agent.policySnapshot,
    r.agent.policyDigest⟩) rfl rfl
  simp only [rollback, rollbackMaps_eq hroll h, hback]
  by_cases hm : r.locals.modeApplied = true
  · rw [if_pos hm, if_pos hm]
    have hflags : ∀ k, k ≠ .mode →
        Function.update r.agent.bpfCtx.config .mode (restoredMode env policy a) k =
        if r.locals.cfgApplied k then 1 else 0 := by
      intro k hk
      rw [Function.update_of_ne hk]
      exact h.flags k hk
    have hctx := rollbackFlags_eq hroll ha r.locals hflags
    rw [Function.update_self] at hctx
    rw [← hsnap, ← hdigest, ← hctx]
    rfl
  · rw [if_neg hm, if_neg hm]
    obtain ⟨hmode, hrec⟩ := h.modeUnset (by simpa using hm)
    have hctx := rollbackFlags_eq hroll ha r.locals h.flags
    have hsame : a.bpfCtx.withMode (a.bpfCtx.config .mode) = a.bpfCtx := by
      rw [BpfCtx.withMode, Function.update_eq_self]
    rw [hmode, hsame] at hctx
    rw [hctx, hrec, hsnap, hdigest]

/-! ## When the mode is set -/

theorem runActions_append (xs ys : List Action) : runActions t env policy r (xs ++ ys) =
    match runActions t env policy r xs with
    | (r', .ok ()) => runActions t env policy r' ys
    | (r', .error e) => (r', .error e) := by
  induction xs generalizing r with
  | nil => rfl
  | cons x xs ih =>
    rw [List.cons_append, runActions, runActions]
    cases step t env policy r x with
    | mk r' res =>
      cases res with
      | error e => rfl
      | ok u => exact ih

theorem append_ok (xs ys : List Action) : (runActions t env policy r (xs ++ ys)).2 = .ok () ↔
    (runActions t env policy r xs).2 = .ok () ∧
      (runActions t env policy (runActions t env policy r xs).1 ys).2 = .ok () := by
  rw [runActions_append]
  cases runActions t env policy r xs with
  | mk r' res => cases res <;> simp

theorem cons_ok (x : Action) (xs : List Action) : (runActions t env policy r (x :: xs)).2 = .ok () ↔
    (step t env policy r x).2 = .ok () ∧
    (runActions t env policy (step t env policy r x).1 xs).2 = .ok () := by
  rw [runActions]
  cases step t env policy r x with
  | mk r' res => cases res <;> simp

/-- Actions that have to do with the digest. -/
def Action.digesting : Action → Bool
  | .allowVerity | .sortDigests | .computeDigest => true
  | _ => false

/-- Which local variables an action writes. -/
theorem step_locals (act : Action) :
    (act ≠ .setMode → (step t env policy r act).1.locals.modeApplied = r.locals.modeApplied) ∧
      (act.digesting = false → (step t env policy r act).1.locals.digests = r.locals.digests ∧
        (step t env policy r act).1.locals.computedPolicyDigest = r.locals.computedPolicyDigest) := by
  cases act with
  | setFlag key =>
    simp only [step]
    split <;> exact ⟨fun _ => rfl, fun _ => ⟨rfl, rfl⟩⟩
  | verifyIntegrity =>
    simp only [step]
    split <;> exact ⟨fun _ => rfl, fun _ => ⟨rfl, rfl⟩⟩
  | allocDigests =>
    simp only [step]
    split <;> exact ⟨fun _ => rfl, fun _ => ⟨rfl, rfl⟩⟩
  | allowVerity =>
    refine ⟨fun _ => ?_, nofun⟩
    simp only [step]
    split
    · rfl
    · split
      · rfl
      · split <;> rfl
  | noAllowlist => exact ⟨fun _ => rfl, fun _ => ⟨rfl, rfl⟩⟩
  | sortDigests => exact ⟨fun _ => rfl, nofun⟩
  | computeDigest =>
    refine ⟨fun _ => ?_, nofun⟩
    simp only [step]
    split <;> rfl
  | setMode =>
    refine ⟨fun h => absurd rfl h, fun _ => ?_⟩
    simp only [step]
    split <;> exact ⟨rfl, rfl⟩
  | protectPid =>
    simp only [step]
    split
    · exact ⟨fun _ => rfl, fun _ => ⟨rfl, rfl⟩⟩
    · split <;> exact ⟨fun _ => rfl, fun _ => ⟨rfl, rfl⟩⟩
  | trustLib =>
    simp only [step]
    split
    · exact ⟨fun _ => rfl, fun _ => ⟨rfl, rfl⟩⟩
    · split <;> exact ⟨fun _ => rfl, fun _ => ⟨rfl, rfl⟩⟩
  | canonicalizeSnapshot =>
    simp only [step]
    split <;> exact ⟨fun _ => rfl, fun _ => ⟨rfl, rfl⟩⟩

theorem run_modeApplied {acts : List Action} (h : ∀ act ∈ acts, act ≠ .setMode) :
    (runActions t env policy r acts).1.locals.modeApplied = r.locals.modeApplied :=
  @run_keeps t env policy r (fun r' => r'.locals.modeApplied = r.locals.modeApplied) acts
    (fun act hact _ hr => ((step_locals act).1 (h act hact)).trans hr) rfl

theorem run_digest {acts : List Action} (h : ∀ act ∈ acts, act.digesting = false) :
    (runActions t env policy r acts).1.locals.digests = r.locals.digests ∧
      (runActions t env policy r acts).1.locals.computedPolicyDigest =
      r.locals.computedPolicyDigest := by
  refine @run_keeps t env policy r (fun r' => r'.locals.digests = r.locals.digests ∧
    r'.locals.computedPolicyDigest = r.locals.computedPolicyDigest) acts
    (fun act hact _ hr => ?_) ⟨rfl, rfl⟩
  obtain ⟨hdigests, hcomputed⟩ := (step_locals act).2 (h act hact)
  exact ⟨hdigests.trans hr.1, hcomputed.trans hr.2⟩

/-- After the actions before the mode, the mode and the rest: the mode is set
exactly if the first part succeeds. -/
theorem modeApplied_iff {pre post : List Action} (hpre : ∀ act ∈ pre, act ≠ .setMode)
    (hpost : ∀ act ∈ post, act ≠ .setMode)
    (h0 : r.locals.modeApplied = false) :
    (runActions t env policy r ((pre ++ [.setMode]) ++ post)).1.locals.modeApplied = true ↔
      (runActions t env policy r (pre ++ [.setMode])).2 = .ok () := by
  have hkept := @run_modeApplied t env policy r pre hpre
  have hone : (runActions t env policy r (pre ++ [.setMode])).1.locals.modeApplied = true ↔
      (runActions t env policy r (pre ++ [.setMode])).2 = .ok () := by
    rw [runActions_append]
    cases hrun : runActions t env policy r pre with
    | mk r' res =>
      have hoff : r'.locals.modeApplied = false := by
        rw [hrun, h0] at hkept
        exact hkept
      cases res with
      | error e => simp [hoff]
      | ok u =>
        simp only [runActions, step]
        cases bpfLoaderSetMode (env.setConfig .mode) r'.agent.bpfCtx policy.mode.toUInt32 with
        | error e => simp [hoff]
        | ok ctx => simp
  rw [runActions_append, ← hone]
  cases runActions t env policy r (pre ++ [.setMode]) with
  | mk r' res =>
    cases res with
    | error e => rfl
    | ok u =>
      simp only
      rw [run_modeApplied hpost]

/-- The digest of a path of the allowlist is measured and taken into the map. -/
def Allowed (env : Env) (policy : AgentStartupPolicy) (i : Nat) : Prop :=
  ∀ path, policy.allowVerity[i]? = some path → (∃ k, env.measure i path = .ok k ∧ k.Sha512) ∧
    env.allow i = none

/-- No operation fails up to the one that sets the mode, and none of the checks
before it refuses the policy. -/
structure SetsMode (env : Env) (policy : AgentStartupPolicy) : Prop where
  lockBpf : env.setConfig .lockBpf = none
  integrity : env.integrity = none
  strictMmap : policy.strictMmap = true → env.setConfig .strictMmap = none
  alloc : policy.allowVerity ≠ [] → env.alloc = none
  allowed : ∀ i, Allowed env policy i
  allowlist : policy.allowVerity = [] → policy.strictExec = false ∧ policy.strictModules = false
  digest : policy.protectPids.length ≤ maxProtectedPids ∧ policy.trustLibs.length ≤ maxTrustedLibs ∧
    env.digest = none
  strictExec : policy.strictExec = true → env.setConfig .strictExec = none
  blockPtrace : policy.blockPtrace = true → env.setConfig .blockPtrace = none
  strictModules : policy.strictModules = true → env.setConfig .strictModules = none
  blockAnonExec : policy.blockAnonExec = true → env.setConfig .blockAnonExec = none
  mode : env.setConfig .mode = none ∧ policy.mode.toUInt32 ≤ modeMaintenance

theorem setFlag_ok (h : Applied t env policy a r) (key : CfgKey) :
    (step t env policy r (.setFlag key)).2 = .ok () ↔ env.setConfig key = none := by
  simp only [step]
  rcases setConfig_cases h.loaded (env.setConfig key) key 1 with ⟨hf, hset⟩ | ⟨e, hf, hset⟩
  · rw [hset]
    simp [hf]
  · rw [hset]
    simp [hf]

theorem flagAction_ok (h : Applied t env policy a r) (on : Bool) (key : CfgKey) :
    (runActions t env policy r (flagAction on key)).2 = .ok () ↔
    (on = true → env.setConfig key = none) := by
  cases on with
  | false => simp [flagAction, runActions]
  | true =>
    rw [flagAction, if_pos rfl, cons_ok, setFlag_ok h]
    simp [runActions]

theorem computeDigest_ok (h : Applied t env policy a r) :
    (step t env policy r .computeDigest).2 = .ok () ↔
    policy.protectPids.length ≤ maxProtectedPids ∧ policy.trustLibs.length ≤ maxTrustedLibs ∧
    env.digest = none := by
  simp only [step]
  cases hd : computePolicyDigest env.digest policy r.locals.digests with
  | ok d =>
    obtain ⟨hp, hl, he, -, -⟩ := computePolicyDigest_ok.mp hd
    simp [hp, hl, he]
  | error e =>
    simp only [reduceCtorEq, false_iff]
    rintro ⟨hp, hl, he⟩
    rw [computePolicyDigest_ok.mpr ⟨hp, hl, he, h.sha512, rfl⟩] at hd
    cases hd

theorem setMode_ok (h : Applied t env policy a r) : (step t env policy r .setMode).2 = .ok () ↔
    env.setConfig .mode = none ∧ policy.mode.toUInt32 ≤ modeMaintenance := by
  simp only [step, bpfLoaderSetMode, h.loaded, Bool.true_eq_false, if_false]
  by_cases hmode : policy.mode.toUInt32 > modeMaintenance
  · rw [if_pos hmode]
    simp [UInt32.not_le.mpr hmode]
  · rw [if_neg hmode]
    rcases setConfig_cases h.loaded (env.setConfig .mode) .mode policy.mode.toUInt32 with ⟨hf,
      hset⟩ | ⟨e, hf, hset⟩
    · rw [hset]
      simp [hf, UInt32.not_lt.mp hmode]
    · rw [hset]
      simp [hf]

theorem allowVerity_ok (h : Applied t env policy a r) :
    ((step t env policy r .allowVerity).2 = .ok () ↔ Allowed env policy r.locals.digests.length) ∧
      ((step t env policy r .allowVerity).2 = .ok () →
        r.locals.digests.length < policy.allowVerity.length →
        (step t env policy r .allowVerity).1.locals.digests.length = r.locals.digests.length + 1) := by
  obtain ⟨ks, hks, -⟩ := h.verity
  simp only [step]
  cases hpath : policy.allowVerity[r.locals.digests.length]? with
  | none =>
    rw [List.getElem?_eq_none_iff] at hpath
    refine ⟨by simp [Allowed, hpath], fun _ hlt => ?_⟩
    omega
  | some path =>
    simp only [Allowed, hpath, Option.some.injEq, forall_eq', measureVerityDigest]
    cases hm : env.measure r.locals.digests.length path with
    | error e => simp
    | ok k =>
      by_cases hk : k.Sha512
      · simp only [hk, if_true, bpfLoaderAllowVerityDigest, h.loaded, hks, not_true_eq_false,
          Bool.true_eq_false, if_false]
        cases env.allow r.locals.digests.length with
        | some e => simp
        | none => simp [hk]
      · simp [hk]

/-- The loop over the allowlist, from the digests that are there on. -/
theorem allowLoop_ok (hroll : RollbackSucceeds env) (h : Applied t env policy a r) {n : Nat}
    (hn : r.locals.digests.length + n = policy.allowVerity.length) :
    (runActions t env policy r (List.replicate n .allowVerity)).2 = .ok () ↔
      ∀ i, r.locals.digests.length ≤ i → Allowed env policy i := by
  have hbeyond : ∀ i, policy.allowVerity.length ≤ i → Allowed env policy i := by
    intro i hi path hp
    rw [List.getElem?_eq_none hi] at hp
    cases hp
  induction n generalizing r with
  | zero =>
    simp only [List.replicate_zero, runActions, true_iff]
    exact fun i hi => hbeyond i (by omega)
  | succ n ih =>
    obtain ⟨hok, hlen⟩ := allowVerity_ok h
    have hrun := @ih (step t env policy r .allowVerity).1 (step_applied hroll h trivial)
    rw [List.replicate_succ, cons_ok]
    constructor
    · rintro ⟨hstep, hrest⟩ i hi
      have hnext := hlen hstep (by omega)
      have hrest := (hrun (by omega)).mp hrest
      rw [hnext] at hrest
      rcases Nat.lt_or_eq_of_le hi with hlt | rfl
      · exact hrest i hlt
      · exact hok.mp hstep
    · intro hall
      have hstep := hok.mpr (hall _ (Nat.le_refl _))
      have hnext := hlen hstep (by omega)
      refine ⟨hstep, (hrun (by omega)).mpr fun i hi => hall i ?_⟩
      omega

theorem allowlist_ok (hroll : RollbackSucceeds env) (h : Applied t env policy a r)
    (h0 : r.locals.digests = []) :
    (runActions t env policy r (allowlistActions policy)).2 = .ok () ↔
      (policy.allowVerity ≠ [] → env.alloc = none) ∧ (∀ i, Allowed env policy i) ∧
        (policy.allowVerity = [] → policy.strictExec = false ∧ policy.strictModules = false) ∧
        policy.protectPids.length ≤ maxProtectedPids ∧ policy.trustLibs.length ≤ maxTrustedLibs ∧
        env.digest = none := by
  unfold allowlistActions
  by_cases hnil : policy.allowVerity = []
  · have hall : ∀ i, Allowed env policy i := by
      intro i path hp
      rw [hnil] at hp
      simp at hp
    rw [if_neg (by simp [hnil])]
    by_cases hstrict : (policy.strictExec || policy.strictModules) = true
    · rw [if_pos hstrict]
      have hno : ¬ (policy.strictExec = false ∧ policy.strictModules = false) := by
        rintro ⟨he, hm⟩
        rw [he, hm] at hstrict
        cases hstrict
      simp [runActions, step, hnil, hno]
    · rw [if_neg hstrict, cons_ok, computeDigest_ok h]
      simp only [Bool.or_eq_true, not_or, Bool.not_eq_true] at hstrict
      simp [runActions, hnil, hall, hstrict]
  · have hpos : policy.allowVerity.length > 0 := List.length_pos_iff.mpr hnil
    rw [if_pos hpos, cons_ok, append_ok]
    have halloc : (step t env policy r .allocDigests).2 = .ok () ↔ env.alloc = none := by
      simp only [step]
      cases env.alloc <;> simp
    have hsame : (step t env policy r .allocDigests).1 = r := by
      simp only [step]
      cases env.alloc <;> rfl
    have hloop :
        (runActions t env policy r (List.replicate policy.allowVerity.length .allowVerity)).2 = .ok () ↔
        ∀ i, Allowed env policy i := by
      rw [allowLoop_ok hroll h (by simp [h0]), h0]
      simp
    have hproper : ∀ act ∈ List.replicate policy.allowVerity.length Action.allowVerity, act.proper := by
      intro act hact
      rw [List.eq_of_mem_replicate hact]
      trivial
    have hsorted :=
      @step_applied t env policy a _ hroll (run_applied hroll hproper h) .sortDigests trivial
    have hdigest := computeDigest_ok hsorted
    rw [hsame, halloc, hloop, cons_ok, cons_ok, hdigest]
    simp [runActions, step, hnil]

theorem verifyIntegrity_fst : (step t env policy r .verifyIntegrity).1 = r := by
  simp only [step]
  split <;> rfl

theorem mem_flagAction {on : Bool} {key : CfgKey} {act : Action} (h : act ∈ flagAction on key) :
    act = .setFlag key := by
  cases on with
  | false => cases h
  | true => exact List.mem_singleton.mp h

theorem flagAction_proper {on : Bool} {key : CfgKey} (hkey : key ≠ .mode) :
    ∀ act ∈ flagAction on key, act.proper := by
  intro act hact
  rw [mem_flagAction hact]
  exact hkey

theorem flagAction_digesting (on : Bool) (key : CfgKey) :
    ∀ act ∈ flagAction on key, act.digesting = false := by
  intro act hact
  rw [mem_flagAction hact]
  rfl

theorem allowlist_other : ∀ act ∈ allowlistActions policy, act.proper ∧ act ≠ .setMode := by
  intro act hact
  unfold allowlistActions at hact
  split at hact
  · simp only [List.mem_cons, List.mem_append, List.mem_replicate, List.not_mem_nil, or_false] at hact
    rcases hact with rfl | ⟨-, rfl⟩ | rfl | rfl <;> exact ⟨trivial, fun he => by cases he⟩
  · split at hact
    · rw [List.mem_singleton.mp hact]
      exact ⟨trivial, fun he => by cases he⟩
    · rw [List.mem_singleton.mp hact]
      exact ⟨trivial, fun he => by cases he⟩

/-- **Up to the mode.** -/
theorem early_ok (hroll : RollbackSucceeds env) (h : Applied t env policy a r)
    (h0 : r.locals.digests = []) :
    (runActions t env policy r (earlyActions policy)).2 = .ok () ↔ SetsMode env policy := by
  have hlock :=
    @step_applied t env policy a r hroll h (.setFlag .lockBpf) (show CfgKey.lockBpf ≠ .mode by decide)
  have hintegrity :
      (step t env policy (step t env policy r (.setFlag .lockBpf)).1 .verifyIntegrity).2 = .ok () ↔
      env.integrity = none := by
    simp only [step]
    cases env.integrity <;> simp
  -- the states between the parts
  have hmmap := run_applied hroll (@flagAction_proper policy.strictMmap .strictMmap (by decide)) hlock
  have hdigests : (runActions t env policy (step t env policy r (.setFlag .lockBpf)).1
      (flagAction policy.strictMmap .strictMmap)).1.locals.digests = [] := by
    rw [(run_digest (flagAction_digesting _ _)).1, ((step_locals (.setFlag .lockBpf)).2 rfl).1, h0]
  have hlist := run_applied hroll (fun act hact => (@allowlist_other policy act hact).1) hmmap
  have hexec := run_applied hroll (@flagAction_proper policy.strictExec .strictExec (by decide)) hlist
  have hptrace :=
    run_applied hroll (@flagAction_proper policy.blockPtrace .blockPtrace (by decide)) hexec
  have hmodules :=
    run_applied hroll (@flagAction_proper policy.strictModules .strictModules (by decide)) hptrace
  have hanon :=
    run_applied hroll (@flagAction_proper policy.blockAnonExec .blockAnonExec (by decide)) hmodules
  rw [earlyActions, List.cons_append, cons_ok, setFlag_ok h, List.cons_append, cons_ok, hintegrity,
    verifyIntegrity_fst,
    List.nil_append, append_ok, flagAction_ok hlock, append_ok, allowlist_ok hroll hmmap hdigests,
    append_ok,
    flagAction_ok hlist, append_ok, flagAction_ok hexec, append_ok, flagAction_ok hptrace, append_ok,
    flagAction_ok hmodules, cons_ok, setMode_ok hanon]
  constructor
  · rintro ⟨h1, h2, h3, ⟨h4, h5, h6, h7⟩, h8, h9, h10, h11, h12, -⟩
    exact ⟨h1, h2, h3, h4, h5, h6, h7, h8, h9, h10, h11, h12⟩
  · intro hs
    exact ⟨hs.lockBpf, hs.integrity, hs.strictMmap, ⟨hs.alloc, hs.allowed, hs.allowlist, hs.digest⟩,
      hs.strictExec, hs.blockPtrace, hs.strictModules, hs.blockAnonExec, hs.mode, rfl⟩

/-! ## All or nothing -/

/-- The call gets to the mode and sets it. -/
def ReachesMode (env : Env) (policy : AgentStartupPolicy) : Prop :=
  validateProtectedPidCapacity env policy = .ok () ∧ env.hardening = none ∧ SetsMode env policy

/-- If the call sets the mode: the kernel told its mode and the record agreed
with it, or the kernel did not, and the new mode was the old one for both. -/
def ModeKept (env : Env) (policy : AgentStartupPolicy) (a : Agent) : Prop :=
  ReachesMode env policy →
    (env.getMode = none ∧ a.mode = (a.bpfCtx.config .mode).toInt32) ∨
      (env.getMode ≠ none ∧ policy.mode = a.mode ∧ a.mode = (a.bpfCtx.config .mode).toInt32)

theorem start_applied (ha : Fresh a) :
    Applied t env policy a ⟨a, .init (bpfLoaderGetMode env.getMode a.bpfCtx).toOption⟩ where
  flags := ha.flags
  modeSet h := by cases h
  modeUnset _ := ⟨rfl, rfl⟩
  prev := rfl
  pids := ⟨_, ha.pids, fun pid hp => absurd rfl hp⟩
  verity := ⟨∅, ha.verity, fun k hk => absurd hk (Finset.notMem_empty k)⟩
  sha512 k hk := absurd hk List.not_mem_nil
  libs := by
    show LibsApplied t (policy.trustLibs.take 0) a.bpfCtx.loader
    rw [ha.loader]
    exact fresh_libsApplied
  kept := ⟨rfl, rfl⟩

theorem early_split : ∃ pre, earlyActions policy = pre ++ [.setMode] ∧ ∀ act ∈ pre, act ≠ .setMode := by
  refine ⟨[.setFlag .lockBpf, .verifyIntegrity] ++
    (flagAction policy.strictMmap .strictMmap ++ (allowlistActions policy ++
    (flagAction policy.strictExec .strictExec ++ (flagAction policy.blockPtrace .blockPtrace ++
    (flagAction policy.strictModules .strictModules ++
      flagAction policy.blockAnonExec .blockAnonExec))))), ?_, ?_⟩
  · simp [earlyActions]
  · have hflag : ∀ (on : Bool) (key : CfgKey), ∀ act ∈ flagAction on key, act ≠ .setMode := by
      intro on key act hact
      rw [mem_flagAction hact]
      exact fun he => by cases he
    simp only [List.forall_mem_append]
    exact ⟨by simp, hflag _ _, fun act hact => (allowlist_other act hact).2, hflag _ _,
      hflag _ _, hflag _ _, hflag _ _⟩

theorem early_proper : ∀ act ∈ earlyActions policy, act.proper := by
  simp only [earlyActions, List.forall_mem_append]
  refine ⟨?_, flagAction_proper (by decide), fun act hact => (allowlist_other act hact).1,
    flagAction_proper (by decide),
    flagAction_proper (by decide), flagAction_proper (by decide), flagAction_proper (by decide), ?_⟩
  · simp [Action.proper]
  · simp [Action.proper]

theorem late_other : ∀ act ∈ lateActions policy, act.proper ∧ act ≠ .setMode := by
  intro act hact
  simp only [lateActions, List.mem_append, List.mem_replicate, List.mem_singleton] at hact
  rcases hact with ⟨-, rfl⟩ | ⟨-, rfl⟩ | rfl <;> exact ⟨trivial, fun he => by cases he⟩

theorem withMode_eq_self {mode : UInt32} :
    { a with mode := mode.toInt32, bpfCtx := a.bpfCtx.withMode mode } = a ↔
    a.bpfCtx.config .mode = mode ∧ a.mode = mode.toInt32 := by
  constructor
  · intro h
    have hctx := congrArg (fun b : Agent => b.bpfCtx.config .mode) h
    have hrec := congrArg Agent.mode h
    simp only [BpfCtx.withMode, Function.update_self] at hctx
    exact ⟨hctx.symm, hrec.symm⟩
  · rintro ⟨rfl, hrec⟩
    rw [← hrec, BpfCtx.withMode, Function.update_eq_self]

/-- A call that fails either ends at a check, or undoes what was applied. -/
theorem apply_fails {e : Errno} (ha : Fresh a) (hroll : RollbackSucceeds env)
    (herr : (agentApplyStartupPolicy t env policy a).2 = .error e) :
    ((agentApplyStartupPolicy t env policy a).1 = a ∧ ¬ ReachesMode env policy) ∨
      ∃ r, Applied t env policy a r ∧
      (agentApplyStartupPolicy t env policy a).1 = rollback t env policy r ∧
        (r.locals.modeApplied = true ↔ ReachesMode env policy) := by
  unfold agentApplyStartupPolicy at herr ⊢
  cases hval : validateProtectedPidCapacity env policy with
  | error e' => exact .inl ⟨rfl, fun hreach => by cases hval.symm.trans hreach.1⟩
  | ok u =>
    cases hhard : env.hardening with
    | some e' => exact .inl ⟨rfl, fun hreach => by cases hhard.symm.trans hreach.2.1⟩
    | none =>
      simp only [hval, hhard] at herr ⊢
      have hstart :
          Applied t env policy a ⟨a, .init (bpfLoaderGetMode env.getMode a.bpfCtx).toOption⟩ :=
            start_applied ha
      have hproper : ∀ act ∈ earlyActions policy ++ lateActions policy, act.proper :=
        fun act hact => (List.mem_append.mp hact).elim (early_proper act) fun hl =>
          (late_other act hl).1
      have happlied := run_applied hroll hproper hstart
      obtain ⟨pre, hearly, hpre⟩ := @early_split policy
      have hmode :=
        @modeApplied_iff t env policy ⟨a, .init (bpfLoaderGetMode env.getMode a.bpfCtx).toOption⟩ pre
        (lateActions policy) hpre (fun act hact => (late_other act hact).2) rfl
      rw [← hearly, early_ok hroll hstart rfl] at hmode
      cases hrun : runActions t env policy ⟨a, .init (bpfLoaderGetMode env.getMode a.bpfCtx).toOption⟩
          (earlyActions policy ++ lateActions policy) with
      | mk r res =>
        rw [hrun] at herr hmode happlied
        cases res with
        | ok u => cases herr
        | error e' =>
          refine .inr ⟨r, happlied, rfl, hmode.trans ?_⟩
          exact ⟨fun hs => ⟨hval, hhard, hs⟩, fun hreach => hreach.2.2⟩

/-- **All or nothing.** From freshly loaded maps, a call that fails and can undo
what it did leaves everything as it was, if and only if it did not get to set
the mode, or the mode it goes back to is the one that was there. -/
theorem startup_policy_restored_iff (t : FileTree) (env : Env) (policy : AgentStartupPolicy)
    (a : Agent) (e : Errno)
    (ha : Fresh a) (hroll : RollbackSucceeds env)
    (herr : (agentApplyStartupPolicy t env policy a).2 = .error e) :
    (agentApplyStartupPolicy t env policy a).1 = a ↔ ModeKept env policy a := by
  rcases apply_fails ha hroll herr with ⟨hsame, hno⟩ | ⟨r, happlied, hback, hmode⟩
  · exact ⟨fun _ hreach => absurd hreach hno, fun _ => hsame⟩
  rw [hback, rollback_eq hroll ha happlied]
  by_cases hreach : ReachesMode env policy
  · rw [if_pos (hmode.mpr hreach), withMode_eq_self]
    unfold ModeKept restoredMode
    cases hget : env.getMode with
    | none => simp [hreach]
    | some e' =>
      simp only [hreach, Int32.toInt32_toUInt32, reduceCtorEq, false_and, false_or, ne_eq,
        not_false_eq_true, true_and, forall_const]
      constructor
      · rintro ⟨hkernel, hrec⟩
        exact ⟨hrec.symm, by rw [hkernel, hrec, Int32.toInt32_toUInt32]⟩
      · rintro ⟨hpol, hrec⟩
        refine ⟨?_, hpol.symm⟩
        rw [hpol, hrec, UInt32.toUInt32_toInt32]
  · rw [if_neg (fun h => hreach (hmode.mp h))]
    exact ⟨fun _ h => absurd h hreach, fun _ => rfl⟩

end

/-- Nothing fails but the first process. -/
def deadPidEnv (getMode : Option Errno) : Env where
  canonicalize := none
  hardening := none
  getMode := getMode
  setConfig _ := none
  integrity := none
  alloc := none
  measure _ _ := .error .enoent
  allow _ := none
  digest := none
  startTime _ _ := .error .enoent
  protect _ := none
  trust _ := .none
  snapshot := none
  untrust _ := .none
  unprotect _ := none
  disallow _ := none
  resetConfig _ := none

theorem no_allowVerity : ([] : List CPath).length < 2 ^ 31 := by decide

/-- One process, in enforcing mode. -/
def onePidPolicy : AgentStartupPolicy where
  mode := 1
  strictMmap := true
  strictExec := false
  blockPtrace := true
  strictModules := false
  blockAnonExec := true
  protectPids := [7]
  trustLibs := []
  allowVerity := []
  allowMutableRootfs := false
  allowVerityCount := no_allowVerity

/-- Freshly loaded maps in monitoring mode. -/
def freshAgent (mode : Int32) : Agent := ⟨mode, cleared fun _ => 0, none, none⟩

theorem freshAgent_fresh (mode : Int32) : Fresh (freshAgent mode) :=
  ⟨fun _ _ => rfl, show (0 : UInt32) ≤ 2 by decide, rfl, rfl, rfl⟩

theorem deadPidEnv_rollback (getMode : Option Errno) : RollbackSucceeds (deadPidEnv getMode) :=
  ⟨fun _ => ⟨fun _ => rfl, rfl⟩, fun _ => rfl, fun _ => rfl, fun _ => rfl, fun _ => rfl⟩

theorem onePidPolicy_validated (getMode : Option Errno) :
    validateProtectedPidCapacity (deadPidEnv getMode) onePidPolicy = .ok () := by
  have hlen : (canonicalizeU32Set onePidPolicy.protectPids).length ≤ 1 := sortUnique_length_le _
  exact if_neg fun h => absurd (Nat.lt_of_lt_of_le h hlen) (by decide)

/-- The call undoes its work after the first process. -/
theorem apply_dead_pid (getMode : Option Errno) (mode : Int32) :
    agentApplyStartupPolicy smallTree (deadPidEnv getMode) onePidPolicy (freshAgent mode) =
      (rollback smallTree (deadPidEnv getMode) onePidPolicy
        (runActions smallTree (deadPidEnv getMode) onePidPolicy
        ⟨freshAgent mode, .init (bpfLoaderGetMode getMode (freshAgent mode).bpfCtx).toOption⟩
        (earlyActions onePidPolicy ++ lateActions onePidPolicy)).1, .error .enoent) := by
  unfold agentApplyStartupPolicy
  rw [onePidPolicy_validated]
  rfl

theorem startup_policy_restored_dead_pid :
    (agentApplyStartupPolicy smallTree (deadPidEnv none) onePidPolicy (freshAgent 0)).2 =
    .error .enoent ∧
      (agentApplyStartupPolicy smallTree (deadPidEnv none) onePidPolicy (freshAgent 0)).1 =
      freshAgent 0 := by
  have herr : (agentApplyStartupPolicy smallTree (deadPidEnv none) onePidPolicy (freshAgent 0)).2 =
      .error .enoent :=
    congrArg Prod.snd (apply_dead_pid none 0)
  exact ⟨herr,
    (startup_policy_restored_iff smallTree (deadPidEnv none) onePidPolicy (freshAgent 0) .enoent
    (freshAgent_fresh 0) (deadPidEnv_rollback none) herr).mpr fun _ => .inl ⟨rfl, rfl⟩⟩

/-- When the kernel does not tell its mode, the undo block writes the new mode
again. -/
theorem unknown_mode_is_not_restored :
    Fresh (freshAgent 1) ∧ RollbackSucceeds (deadPidEnv (some (.os 5))) ∧
      (agentApplyStartupPolicy smallTree (deadPidEnv (some (.os 5))) onePidPolicy
        (freshAgent 1)).2 = .error .enoent ∧
      (agentApplyStartupPolicy smallTree (deadPidEnv (some (.os 5))) onePidPolicy
        (freshAgent 1)).1.bpfCtx.config .mode = 1 ∧
      (freshAgent 1).bpfCtx.config .mode = 0 := by
  rw [apply_dead_pid]
  exact ⟨freshAgent_fresh 1, deadPidEnv_rollback _, rfl, rfl, rfl⟩

/-! ## The digest of the policy -/

section
variable {t : FileTree} {env : Env} {policy : AgentStartupPolicy} {r : Run}

/-- What the paths of the allowlist measure to, in their order. -/
def measuredFrom (env : Env) (policy : AgentStartupPolicy) (i : Nat) : List VerityDigestKey :=
  ((policy.allowVerity.drop i).zipIdx i).filterMap fun p => (env.measure p.2 p.1).toOption

def measured (env : Env) (policy : AgentStartupPolicy) : List VerityDigestKey :=
  measuredFrom env policy 0

theorem append_fst {xs ys : List Action} (h : (runActions t env policy r xs).2 = .ok ()) :
    (runActions t env policy r (xs ++ ys)).1 =
    (runActions t env policy (runActions t env policy r xs).1 ys).1 := by
  rw [runActions_append]
  cases hx : runActions t env policy r xs with
  | mk r' res =>
    rw [hx] at h
    cases h
    rfl

theorem cons_fst {x : Action} {xs : List Action} (h : (step t env policy r x).2 = .ok ()) :
    (runActions t env policy r (x :: xs)).1 =
    (runActions t env policy (step t env policy r x).1 xs).1 := by
  rw [runActions]
  cases hx : step t env policy r x with
  | mk r' res =>
    rw [hx] at h
    cases h
    rfl

theorem measuredFrom_step {i : Nat} {path : CPath} (hpath : policy.allowVerity[i]? = some path)
    {k : VerityDigestKey}
    (hk : env.measure i path = .ok k) :
    measuredFrom env policy i = k :: measuredFrom env policy (i + 1) := by
  obtain ⟨hlt, hget⟩ := List.getElem?_eq_some_iff.mp hpath
  have hdrop : policy.allowVerity.drop i = path :: policy.allowVerity.drop (i + 1) := by
    rw [List.drop_eq_getElem_cons hlt, hget]
  have hopt : (env.measure i path).toOption = some k := by
    rw [hk]
    rfl
  rw [measuredFrom, hdrop, List.zipIdx_cons, List.filterMap_cons]
  simp only [hopt]
  rfl

theorem allowVerity_digests (h : (step t env policy r .allowVerity).2 = .ok ()) {path : CPath}
    (hpath : policy.allowVerity[r.locals.digests.length]? = some path) :
    ∃ k, env.measure r.locals.digests.length path = .ok k ∧ k.Sha512 ∧
      (step t env policy r .allowVerity).1.locals.digests = r.locals.digests ++ [k] := by
  simp only [step, hpath, measureVerityDigest] at h ⊢
  cases hm : env.measure r.locals.digests.length path with
  | error e => simp [hm] at h
  | ok k =>
    by_cases hk : k.Sha512
    · simp only [hm, hk, if_true] at h ⊢
      cases hallow : bpfLoaderAllowVerityDigest (env.allow r.locals.digests.length)
        r.agent.bpfCtx k with
      | error e => simp [hallow] at h
      | ok ctx => exact ⟨k, rfl, hk, rfl⟩
    · simp [hm, hk] at h

theorem allowLoop_digests {n : Nat} (hn : r.locals.digests.length + n = policy.allowVerity.length)
    (h : (runActions t env policy r (List.replicate n .allowVerity)).2 = .ok ())
    (hs : ∀ k ∈ r.locals.digests, k.Sha512) :
    (runActions t env policy r (List.replicate n .allowVerity)).1.locals.digests =
        r.locals.digests ++ measuredFrom env policy r.locals.digests.length ∧
      ∀ k ∈ measuredFrom env policy r.locals.digests.length, k.Sha512 := by
  induction n generalizing r with
  | zero =>
    have hnil : policy.allowVerity.drop r.locals.digests.length = [] :=
      List.drop_eq_nil_of_le (by omega)
    simp [runActions, measuredFrom, hnil]
  | succ n ih =>
    rw [List.replicate_succ, cons_ok] at h
    obtain ⟨hstep, hrest⟩ := h
    obtain ⟨path, hpath⟩ : ∃ path, policy.allowVerity[r.locals.digests.length]? = some path :=
      ⟨_, List.getElem?_eq_getElem (by omega)⟩
    obtain ⟨k, hk, hsha, hdigests⟩ := allowVerity_digests hstep hpath
    have hlen : (step t env policy r .allowVerity).1.locals.digests.length =
        r.locals.digests.length + 1 := by
      rw [hdigests, List.length_append, List.length_singleton]
    have hs' : ∀ k' ∈ (step t env policy r .allowVerity).1.locals.digests, k'.Sha512 := by
      intro k' hk'
      rw [hdigests] at hk'
      rcases List.mem_append.mp hk' with hk' | hk'
      · exact hs k' hk'
      · rw [List.mem_singleton.mp hk']
        exact hsha
    obtain ⟨hend, hall⟩ := ih (by omega) hrest hs'
    rw [hlen] at hend hall
    rw [List.replicate_succ, cons_fst hstep, hend, hdigests, measuredFrom_step hpath hk]
    refine ⟨by simp, fun k' hk' => ?_⟩
    rcases List.mem_cons.mp hk' with rfl | hk'
    · exact hsha
    · exact hall k' hk'

theorem computeDigest_run (h : (step t env policy r .computeDigest).2 = .ok ()) :
    ∃ d, computePolicyDigest env.digest policy r.locals.digests = .ok d ∧
      (step t env policy r .computeDigest).1.locals.digests = r.locals.digests ∧
      (step t env policy r .computeDigest).1.locals.computedPolicyDigest = some d := by
  simp only [step] at h ⊢
  cases hd : computePolicyDigest env.digest policy r.locals.digests with
  | error e => simp [hd] at h
  | ok d => exact ⟨d, rfl, rfl, rfl⟩

/-- The digest is that of the sorted allowlist. -/
theorem allowlist_digest (h : (runActions t env policy r (allowlistActions policy)).2 = .ok ())
    (h0 : r.locals.digests = []) :
    (∀ k ∈ measured env policy, k.Sha512) ∧
      (runActions t env policy r (allowlistActions policy)).1.locals.digests =
      qsort verityDigestKeyCmp (measured env policy) ∧
      ∃ d, computePolicyDigest env.digest policy (qsort verityDigestKeyCmp (measured env policy)) =
      .ok d ∧
        (runActions t env policy r (allowlistActions policy)).1.locals.computedPolicyDigest =
        some d := by
  unfold allowlistActions at h ⊢
  by_cases hnil : policy.allowVerity = []
  · have hempty : measured env policy = [] := by simp [measured, measuredFrom, hnil]
    have hsorted : qsort verityDigestKeyCmp (measured env policy) = [] := by
      rw [hempty]
      exact (qsort_perm verityDigestKeyCmp []).eq_nil
    rw [if_neg (by simp [hnil])] at h ⊢
    by_cases hstrict : (policy.strictExec || policy.strictModules) = true
    · rw [if_pos hstrict] at h
      cases h
    · rw [if_neg hstrict, cons_ok] at h
      rw [if_neg hstrict]
      obtain ⟨d, hd, hdigests, hcomputed⟩ := computeDigest_run h.1
      rw [cons_fst h.1, hsorted, hempty]
      rw [h0] at hd hdigests
      exact ⟨by simp, hdigests, d, hd, hcomputed⟩
  · have hpos : policy.allowVerity.length > 0 := List.length_pos_iff.mpr hnil
    rw [if_pos hpos, cons_ok, append_ok] at h
    obtain ⟨halloc, hloop, htail⟩ := h
    have hsame : (step t env policy r .allocDigests).1 = r := by
      simp only [step]
      split <;> rfl
    rw [hsame] at hloop htail
    obtain ⟨hdigests, hsha⟩ := allowLoop_digests (by simp [h0]) hloop (by simp [h0])
    rw [h0, List.nil_append] at hdigests
    rw [h0] at hsha
    rw [cons_ok, cons_ok] at htail
    obtain ⟨hsort, hcompute, -⟩ := htail
    obtain ⟨d, hd, hkept, hcomputed⟩ := computeDigest_run hcompute
    have hsorted :
        (step t env policy
          (runActions t env policy r (List.replicate policy.allowVerity.length .allowVerity)).1
        .sortDigests).1.locals.digests = qsort verityDigestKeyCmp (measured env policy) :=
      congrArg (qsort verityDigestKeyCmp) hdigests
    rw [hsorted] at hd hkept
    rw [if_pos hpos, cons_fst halloc, hsame, append_fst hloop, cons_fst hsort, cons_fst hcompute]
    exact ⟨hsha, hkept, d, hd, hcomputed⟩

theorem late_digesting : ∀ act ∈ lateActions policy, act.digesting = false := by
  intro act hact
  simp only [lateActions, List.mem_append, List.mem_replicate, List.mem_singleton] at hact
  rcases hact with ⟨-, rfl⟩ | ⟨-, rfl⟩ | rfl <;> rfl

/-- The allowlist is where the digest comes from; the actions before and after
it leave it alone. -/
theorem actions_split :
    ∃ pre post, earlyActions policy ++ lateActions policy = pre ++ (allowlistActions policy ++ post) ∧
    (∀ act ∈ pre, act.digesting = false) ∧ ∀ act ∈ post, act.digesting = false := by
  refine ⟨[.setFlag .lockBpf, .verifyIntegrity] ++ flagAction policy.strictMmap .strictMmap,
    flagAction policy.strictExec .strictExec ++ (flagAction policy.blockPtrace .blockPtrace ++
      (flagAction policy.strictModules .strictModules ++
        (flagAction policy.blockAnonExec .blockAnonExec ++
      ([.setMode] ++ lateActions policy)))), ?_, ?_, ?_⟩
  · simp [earlyActions]
  · simp only [List.forall_mem_append]
    exact ⟨by simp [Action.digesting], flagAction_digesting _ _⟩
  · simp only [List.forall_mem_append]
    exact ⟨flagAction_digesting _ _, flagAction_digesting _ _, flagAction_digesting _ _,
      flagAction_digesting _ _, by simp [Action.digesting], late_digesting⟩

/-- **Applied.** What a successful call stores. -/
theorem apply_stores {a : Agent} (h : (agentApplyStartupPolicy t env policy a).2 = .ok ()) :
    (∀ k ∈ measured env policy, k.Sha512) ∧
      (agentApplyStartupPolicy t env policy a).1.policySnapshot =
        some (persistSnapshot policy (qsort verityDigestKeyCmp (measured env policy))) ∧
      ∃ d, computePolicyDigest env.digest policy (qsort verityDigestKeyCmp (measured env policy)) =
      .ok d ∧
        (agentApplyStartupPolicy t env policy a).1.policyDigest = some d := by
  unfold agentApplyStartupPolicy at h ⊢
  cases hval : validateProtectedPidCapacity env policy with
  | error e => simp [hval] at h
  | ok u =>
    cases hhard : env.hardening with
    | some e => simp [hval, hhard] at h
    | none =>
      simp only [hval, hhard] at h ⊢
      obtain ⟨pre, post, hsplit, hpre, hpost⟩ := @actions_split policy
      cases hrun : runActions t env policy ⟨a, .init (bpfLoaderGetMode env.getMode a.bpfCtx).toOption⟩
          (earlyActions policy ++ lateActions policy) with
      | mk r res =>
        cases res with
        | error e => simp [hrun] at h
        | ok u =>
          have hok := congrArg Prod.snd hrun
          have hfst := congrArg Prod.fst hrun
          rw [hsplit, append_ok, append_ok] at hok
          obtain ⟨hok₁, hok₂, -⟩ := hok
          rw [hsplit, append_fst hok₁, append_fst hok₂] at hfst
          obtain ⟨hd₁, -⟩ := @run_digest t env policy
            ⟨a, .init (bpfLoaderGetMode env.getMode a.bpfCtx).toOption⟩ pre hpre
          obtain ⟨hsha, hdigests, d, hd, hcomputed⟩ := allowlist_digest hok₂ hd₁
          obtain ⟨hkept, hkept'⟩ := run_digest (r := (runActions t env policy (runActions t env policy
            ⟨a, .init (bpfLoaderGetMode env.getMode a.bpfCtx).toOption⟩ pre).1
            (allowlistActions policy)).1) hpost
          rw [hfst] at hkept hkept'
          refine ⟨hsha, ?_, d, hd, hkept'.trans hcomputed⟩
          show some (persistSnapshot policy r.locals.digests) = _
          rw [hkept, hdigests]

theorem measured_length : (measured env policy).length < 2 ^ 31 := by
  have hle : (measured env policy).length ≤ policy.allowVerity.length := by
    refine (List.length_filterMap_le _ _).trans ?_
    simp
  have := policy.allowVerityCount
  omega

theorem withinCaps_of_digest {lib : Option Errno} {d : Blob 32}
    (hsha : ∀ k ∈ measured env policy, k.Sha512)
    (h : computePolicyDigest lib policy (qsort verityDigestKeyCmp (measured env policy)) = .ok d) :
    WithinCaps policy (measured env policy) := by
  obtain ⟨hp, hl, -⟩ := computePolicyDigest_ok.mp h
  exact ⟨hp, hl, hsha, measured_length⟩

end

/-- **Faithful digest.** Two policies that were applied have one digest exactly
if they agree in mode, flags, the multiset of allowed digests, the set of
processes and the set of libraries; and the digest computed again from what is
stored, for the processes that are stored, is the one that is stored. -/
theorem policy_digest_faithful (t t' : FileTree) (env env' : Env)
    (p q : AgentStartupPolicy) (a b : Agent)
    (hp : (agentApplyStartupPolicy t env p a).2 = .ok ())
    (hq : (agentApplyStartupPolicy t' env' q b).2 = .ok ())
    (hcol : NoCollision (policyMessage p (qsort verityDigestKeyCmp (measured env p)))
      (policyMessage q (qsort verityDigestKeyCmp (measured env' q)))) :
    ((agentApplyStartupPolicy t env p a).1.policyDigest =
      (agentApplyStartupPolicy t' env' q b).1.policyDigest ↔
      SamePolicy p q (measured env p) (measured env' q)) ∧
    ∃ d snap, (agentApplyStartupPolicy t env p a).1.policyDigest = some d ∧
      (agentApplyStartupPolicy t env p a).1.policySnapshot = some snap ∧
      agentComputePolicyDigestForProtectPids none (some snap) snap.protectPids = .ok d := by
  obtain ⟨hsha, hsnap, d, hd, hstored⟩ := apply_stores hp
  obtain ⟨hsha', -, d', hd', hstored'⟩ := apply_stores hq
  have hcaps := withinCaps_of_digest hsha hd
  have hcaps' := withinCaps_of_digest hsha' hd'
  obtain ⟨-, -, -, -, rfl⟩ := computePolicyDigest_ok.mp hd
  obtain ⟨-, -, -, -, rfl⟩ := computePolicyDigest_ok.mp hd'
  refine ⟨?_, _, _, hstored, hsnap, recompute_snapshot hd⟩
  rw [hstored, hstored', Option.some.injEq, ← policyMessage_eq_iff hcaps hcaps']
  exact ⟨hcol, congrArg sha256⟩

/-- Nothing fails. -/
def quietEnv : Env := { deadPidEnv none with startTime := fun _ _ => .ok 1 }

/-- The same process, named twice. -/
def repeatedPidPolicy : AgentStartupPolicy := { onePidPolicy with protectPids := [7, 7] }

theorem onePid_repeatedPid_same (ps : List VerityDigestKey) :
    SamePolicy onePidPolicy repeatedPidPolicy ps ps :=
  ⟨rfl, rfl, rfl, rfl, rfl, rfl, List.Perm.refl _,
    by simp [onePidPolicy, repeatedPidPolicy], fun _ => Iff.rfl⟩

theorem quietEnv_applies {pids : List UInt32} (h : pids = [7] ∨ pids = [7, 7]) :
    (agentApplyStartupPolicy smallTree quietEnv { onePidPolicy with protectPids := pids }
      (freshAgent 0)).2 = .ok () := by
  have hval : validateProtectedPidCapacity quietEnv { onePidPolicy with protectPids := pids } =
    .ok () := by
    have hlen : (canonicalizeU32Set pids).length ≤ pids.length := sortUnique_length_le _
    refine if_neg fun hcap => ?_
    have hcap : maxProtectedPids < (canonicalizeU32Set pids).length := hcap
    have hpids : pids.length ≤ 2 := by
      obtain rfl | rfl := h
      · decide
      · decide
    exact absurd (hcap.trans_le (hlen.trans hpids)) (by decide)
  unfold agentApplyStartupPolicy
  rw [hval]
  obtain rfl | rfl := h
  · rfl
  · rfl

theorem policy_digest_faithful_repeated_pid :
    (agentApplyStartupPolicy smallTree quietEnv onePidPolicy (freshAgent 0)).2 = .ok () ∧
      (agentApplyStartupPolicy smallTree quietEnv repeatedPidPolicy (freshAgent 0)).2 = .ok () ∧
      (agentApplyStartupPolicy smallTree quietEnv onePidPolicy (freshAgent 0)).1.policyDigest =
        (agentApplyStartupPolicy smallTree quietEnv repeatedPidPolicy
          (freshAgent 0)).1.policyDigest := by
  have hp := quietEnv_applies (.inl rfl)
  have hq := quietEnv_applies (.inr rfl)
  have hmessage := policyMessage_congr (onePid_repeatedPid_same (qsort verityDigestKeyCmp []))
  exact ⟨hp, hq,
    (policy_digest_faithful smallTree smallTree quietEnv quietEnv onePidPolicy repeatedPidPolicy
    (freshAgent 0) (freshAgent 0) hp hq fun _ => hmessage).1.mpr (onePid_repeatedPid_same [])⟩

end Lota.L6.StartupPolicy

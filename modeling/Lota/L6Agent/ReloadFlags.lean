import Lota.L6Agent.Reload
import Lota.L6Agent.StartupPolicy

/-!
# The mode and the enforcement flags of a reload (`agent/reload.c`)

`agent_reload_config` writes the mode and five flags to the kernel and keeps a
copy of each. A copy is assigned only after its write succeeded, and a write
that fails has no effect. The flags are written in a fixed order up to the
first failure, and then those that changed are written back.

Which writes fail is an input of every call, one answer for each write that it
can make.

* `reload_projection`: mode and key are those of `Reload.agentReloadConfig`.
* `applyRuntimeFlags_inStep`, `reload_inStep`: the copies stay in step.
* `applyRuntimeFlags_all_or_none`: when no write back fails, all flags have
  their requested values or all have their old ones.
* `reload_in_step`: both, over every sequence of reloads.
-/
namespace Lota.L6.ReloadFlags
open Lota.Core Lota.L6.ConfigFile Lota.L6.StartupPolicy

inductive Flag where
  | strictMmap | strictExec | blockPtrace | strictModules | blockAnonExec
  deriving DecidableEq, Repr

/-- mirrors include/lota.h:86-90 -/
def Flag.key : Flag → CfgKey
  | .strictMmap => .strictMmap
  | .strictExec => .strictExec
  | .blockPtrace => .blockPtrace
  | .strictModules => .strictModules
  | .blockAnonExec => .blockAnonExec

/-- The order of the writes. mirrors src/agent/reload.c:187-241 -/
def Flag.order : List Flag := [.strictMmap, .blockPtrace, .strictExec, .strictModules, .blockAnonExec]

def flagsOf (cfg : Config) : Flag → Bool
  | .strictMmap => cfg.strictMmap
  | .strictExec => cfg.strictExec
  | .blockPtrace => cfg.blockPtrace
  | .strictModules => cfg.strictModules
  | .blockAnonExec => cfg.blockAnonExec

/-- mirrors include/lota.h:78-82 -/
def modeValue : Reload.Mode → UInt32
  | .monitor => 0
  | .enforce => 1
  | .maintenance => 2

def flagValue (on : Bool) : UInt32 := if on then 1 else 0

/-- The copies in user space, the `policy_pubkey` of the configuration in
force, and the maps. -/
structure Agent where
  mode : Reload.Mode
  flags : Flag → Bool
  policyPubkey : Text
  bpfCtx : BpfCtx

/-- A reload, with the answers to the writes of the mode and of the flags, and
to the writes that take a flag back. -/
structure FlagCall where
  call : Reload.Call
  setMode : Option Policy.Errno
  apply : Flag → Option Policy.Errno
  rollback : Flag → Option Policy.Errno

/-- One write, and the assignment after it. -/
def writeFlag (fault : Option Policy.Errno) (agent : Agent) (f : Flag) (on : Bool) : Option Agent :=
  match bpfLoaderSetConfig fault agent.bpfCtx f.key (flagValue on) with
  | .error _ => none
  | .ok ctx => some { agent with flags := Function.update agent.flags f on, bpfCtx := ctx }

/-- The flags that differ, up to the first write that fails
(`runtime_flags_failed`). mirrors src/agent/reload.c:187-241 -/
def applyFlags (faults : Flag → Option Policy.Errno) (new : Flag → Bool) (agent : Agent) :
    List Flag → Agent × Bool
  | [] => (agent, false)
  | f :: fs =>
    if new f ≠ agent.flags f then
      match writeFlag (faults f) agent f (new f) with
      | none => (agent, true)
      | some agent => applyFlags faults new agent fs
    else applyFlags faults new agent fs

/-- The flags that changed; a write back that fails is only logged.
mirrors src/agent/reload.c:244-295 -/
def rollbackFlags (faults : Flag → Option Policy.Errno) (old : Flag → Bool) (agent : Agent) :
    List Flag → Agent
  | [] => agent
  | f :: fs =>
    rollbackFlags faults old
      (if agent.flags f ≠ old f then (writeFlag (faults f) agent f (old f)).getD agent else agent) fs

/-- mirrors src/agent/reload.c:176-312 -/
def applyRuntimeFlagsTransactional (c : FlagCall) (newCfg : Config) (agent : Agent) : Agent :=
  match applyFlags c.apply (flagsOf newCfg) agent Flag.order with
  | (agent', false) => agent'
  | (agent', true) => rollbackFlags c.rollback agent.flags agent' Flag.order

/-- mirrors src/agent/reload.c:568-577 -/
def applyMode (c : FlagCall) (newMode : Option Reload.Mode) (agent : Agent) : Agent :=
  match newMode with
  | none => agent
  | some m =>
    if m ≠ agent.mode then
      match bpfLoaderSetMode c.setMode agent.bpfCtx (modeValue m) with
      | .ok ctx => { agent with mode := m, bpfCtx := ctx }
      | .error _ => agent
    else agent

def Agent.toReload (agent : Agent) : Reload.Agent := ⟨agent.mode, agent.policyPubkey⟩

section
variable {Key : Type} (C : Reload.Crypto Key)

/-- Processes and libraries go to other maps, after the flags.
mirrors src/agent/reload.c:506-627, mode, flags and key -/
def agentReloadConfig (agent : Agent) (c : FlagCall) : Agent × Except Reload.Errno Unit :=
  match c.call.opened with
  | .error e => if e = .enoent then (agent, .ok ()) else (agent, .error e)
  | .ok () =>
    match Reload.configLoadFromFd c.call with
    | .error e => (agent, .error e)
    | .ok newCfg =>
      let newMode := Reload.parseMode newCfg.mode
      let authorized :=
        if Reload.downgrade agent.toReload newMode then
          Reload.verifyReloadDowngradeAuthorizationFd C agent.toReload c.call
        else .ok ()
      match authorized with
      | .error e => (agent, .error e)
      | .ok () =>
        let agent := applyMode c newMode agent
        let agent := applyRuntimeFlagsTransactional c newCfg agent
        ({ agent with policyPubkey := newCfg.policyPubkey }, .ok ())

def reloads : Machine Agent FlagCall (Except Reload.Errno Unit) := ⟨agentReloadConfig C⟩

end

/-- The copies are what the kernel has. -/
structure InStep (agent : Agent) : Prop where
  mode : agent.bpfCtx.config .mode = modeValue agent.mode
  flags : ∀ f, agent.bpfCtx.config f.key = flagValue (agent.flags f)

/-! ## Writes -/

section
variable {agent agent' : Agent} {f : Flag} {on : Bool}

theorem Flag.key_injective {f g : Flag} (h : f.key = g.key) : f = g := by
  cases f <;> cases g <;> first | rfl | cases h

theorem Flag.key_ne_mode (f : Flag) : f.key ≠ .mode := by
  cases f <;> decide

theorem mem_order (f : Flag) : f ∈ Flag.order := by
  cases f <;> decide

theorem setConfig_ok {fault : Option Policy.Errno} {ctx ctx' : BpfCtx} {key : CfgKey} {value : UInt32}
    (h : bpfLoaderSetConfig fault ctx key value = .ok ctx') :
    ctx' = { ctx with config := Function.update ctx.config key value } ∧ ctx.loader.loaded = true ∧
    fault = none := by
  unfold bpfLoaderSetConfig at h
  split at h
  · cases h
  next hloaded =>
    cases fault with
    | some e => cases h
    | none => exact ⟨(Except.ok.inj h).symm, by simpa using hloaded, rfl⟩

/-- A write that succeeds assigns the flag, here and in the kernel. -/
theorem writeFlag_some {fault : Option Policy.Errno} (h : writeFlag fault agent f on = some agent') :
    agent'.mode = agent.mode ∧ agent'.flags = Function.update agent.flags f on ∧
      agent'.bpfCtx.config = Function.update agent.bpfCtx.config f.key (flagValue on) ∧
      agent'.bpfCtx.loader = agent.bpfCtx.loader ∧ agent'.policyPubkey = agent.policyPubkey := by
  unfold writeFlag at h
  split at h
  · cases h
  next ctx hctx =>
    obtain ⟨hctx, -, -⟩ := setConfig_ok hctx
    cases h
    subst hctx
    exact ⟨rfl, rfl, rfl, rfl, rfl⟩

/-- Only an unloaded program or the kernel makes a write fail. -/
theorem writeFlag_loaded (f : Flag) (on : Bool) (h : agent.bpfCtx.loader.loaded = true) :
    ∃ agent', writeFlag none agent f on = some agent' := by
  unfold writeFlag bpfLoaderSetConfig
  simp only [h, Bool.true_eq_false, if_false]
  exact ⟨_, rfl⟩

theorem writeFlag_inStep {fault : Option Policy.Errno} (hin : InStep agent)
    (h : writeFlag fault agent f on = some agent') : InStep agent' := by
  obtain ⟨hmode, hflags, hconfig, -, -⟩ := writeFlag_some h
  refine ⟨?_, fun g => ?_⟩
  · rw [hconfig, Function.update_of_ne (Flag.key_ne_mode f).symm, hin.mode, hmode]
  · rw [hconfig, hflags]
    by_cases hg : g = f
    · rw [hg, Function.update_self, Function.update_self]
    · rw [Function.update_of_ne hg, Function.update_of_ne fun hk => hg (Flag.key_injective hk)]
      exact hin.flags g

/-! ## The transaction -/

theorem applyFlags_inStep {faults : Flag → Option Policy.Errno} {new : Flag → Bool} {fs : List Flag}
    (hin : InStep agent) : InStep (applyFlags faults new agent fs).1 := by
  induction fs generalizing agent with
  | nil => exact hin
  | cons f fs ih =>
    rw [applyFlags]
    split
    next =>
      split
      next => exact hin
      next agent' hw => exact ih (writeFlag_inStep hin hw)
    next => exact ih hin

theorem rollbackFlags_inStep {faults : Flag → Option Policy.Errno} {old : Flag → Bool} {fs : List Flag}
    (hin : InStep agent) : InStep (rollbackFlags faults old agent fs) := by
  induction fs generalizing agent with
  | nil => exact hin
  | cons f fs ih =>
    rw [rollbackFlags]
    apply ih
    split
    next =>
      cases hw : writeFlag (faults f) agent f (old f) with
      | none => exact hin
      | some agent' => exact writeFlag_inStep hin hw
    next => exact hin

/-- Without a failure every flag of the list has its new value. -/
theorem applyFlags_done {faults : Flag → Option Policy.Errno} {new : Flag → Bool} {fs : List Flag}
    (h : (applyFlags faults new agent fs).2 = false) (hf : f ∈ fs ∨ agent.flags f = new f) :
    (applyFlags faults new agent fs).1.flags f = new f := by
  induction fs generalizing agent with
  | nil => exact hf.resolve_left (List.not_mem_nil)
  | cons g fs ih =>
    rw [applyFlags] at h ⊢
    split at h
    next hne =>
      rw [if_pos hne]
      split at h
      next => cases h
      next agent' hw =>
        refine ih h ?_
        rw [(writeFlag_some hw).2.1]
        by_cases hg : f = g
        · exact .inr (by rw [hg, Function.update_self])
        · rw [Function.update_of_ne hg]
          exact hf.imp_left fun hmem => (List.mem_cons.mp hmem).resolve_left hg
    next heq =>
      rw [if_neg heq]
      refine ih h ?_
      rcases hf with hmem | hdone
      · rcases List.mem_cons.mp hmem with rfl | hmem
        · exact .inr (Decidable.not_not.mp heq).symm
        · exact .inl hmem
      · exact .inr hdone

/-- The loop writes no other map, and a program that is not loaded changes no
flag. -/
theorem applyFlags_loader (faults : Flag → Option Policy.Errno) (new : Flag → Bool) (agent : Agent)
    (fs : List Flag) : (applyFlags faults new agent fs).1.bpfCtx.loader = agent.bpfCtx.loader ∧
      (agent.bpfCtx.loader.loaded = false → (applyFlags faults new agent fs).1 = agent) := by
  induction fs generalizing agent with
  | nil => exact ⟨rfl, fun _ => rfl⟩
  | cons g fs ih =>
    rw [applyFlags]
    split
    next =>
      cases hw : writeFlag (faults g) agent g (new g) with
      | none => exact ⟨rfl, fun _ => rfl⟩
      | some agent' =>
        refine ⟨(ih agent').1.trans (writeFlag_some hw).2.2.2.1, fun hloaded => ?_⟩
        simp [writeFlag, bpfLoaderSetConfig, hloaded] at hw
    next => exact ih agent

/-- When no write back fails every flag of the list has its old value. -/
theorem rollbackFlags_done {faults : Flag → Option Policy.Errno} {old : Flag → Bool} {fs : List Flag}
    (hok : ∀ f, faults f = none) (hloaded : agent.bpfCtx.loader.loaded = true)
    (hf : f ∈ fs ∨ agent.flags f = old f) :
    (rollbackFlags faults old agent fs).flags f = old f := by
  induction fs generalizing agent with
  | nil => exact hf.resolve_left (List.not_mem_nil)
  | cons g fs ih =>
    rw [rollbackFlags]
    by_cases hne : agent.flags g ≠ old g
    · obtain ⟨agent', hw⟩ := writeFlag_loaded g (old g) hloaded
      rw [if_pos hne, hok g, hw, Option.getD_some]
      obtain ⟨-, hflags, -, hloader, -⟩ := writeFlag_some hw
      refine ih (by rw [hloader, hloaded]) ?_
      rw [hflags]
      by_cases hg : f = g
      · exact .inr (by rw [hg, Function.update_self])
      · rw [Function.update_of_ne hg]
        exact hf.imp_left fun hmem => (List.mem_cons.mp hmem).resolve_left hg
    · rw [if_neg hne]
      refine ih hloaded ?_
      rcases hf with hmem | hdone
      · rcases List.mem_cons.mp hmem with rfl | hmem
        · exact .inr (Decidable.not_not.mp hne)
        · exact .inl hmem
      · exact .inr hdone

/-- A program that is not loaded has no flag to take back. -/
theorem rollbackFlags_same (faults : Flag → Option Policy.Errno) (agent : Agent) (fs : List Flag) :
    rollbackFlags faults agent.flags agent fs = agent := by
  induction fs with
  | nil => rfl
  | cons g fs ih => rw [rollbackFlags, if_neg (not_not.mpr rfl), ih]

theorem applyRuntimeFlags_inStep {c : FlagCall} {newCfg : Config} (hin : InStep agent) :
    InStep (applyRuntimeFlagsTransactional c newCfg agent) := by
  have happly : InStep (applyFlags c.apply (flagsOf newCfg) agent Flag.order).1 := applyFlags_inStep hin
  unfold applyRuntimeFlagsTransactional
  split
  next agent' hr =>
    rw [hr] at happly
    exact happly
  next agent' hr =>
    rw [hr] at happly
    exact rollbackFlags_inStep happly

/-- **All or none.** -/
theorem applyRuntimeFlags_all_or_none {c : FlagCall} (newCfg : Config) (agent : Agent)
    (hok : ∀ f, c.rollback f = none) :
    (applyRuntimeFlagsTransactional c newCfg agent).flags = flagsOf newCfg ∨
      (applyRuntimeFlagsTransactional c newCfg agent).flags = agent.flags := by
  obtain ⟨hloader, hunloaded⟩ := applyFlags_loader c.apply (flagsOf newCfg) agent Flag.order
  unfold applyRuntimeFlagsTransactional
  split
  next agent' hr =>
    have hdone : (applyFlags c.apply (flagsOf newCfg) agent Flag.order).2 = false := by rw [hr]
    refine .inl (funext fun f => ?_)
    have := applyFlags_done hdone (.inl (mem_order f))
    rwa [hr] at this
  next agent' hr =>
    rw [hr] at hloader hunloaded
    refine .inr ?_
    cases hl : agent.bpfCtx.loader.loaded with
    | false =>
      have hsame : agent' = agent := hunloaded hl
      rw [hsame, rollbackFlags_same]
    | true =>
      have hl' : agent'.bpfCtx.loader.loaded = true := by rw [← hl, ← hloader]
      exact funext fun f => rollbackFlags_done hok hl' (.inl (mem_order f))

end

/-! ## A reload -/

section
variable {Key : Type} {C : Reload.Crypto Key} {agent : Agent} {c : FlagCall}

/-- The mode is written whenever the program is loaded and the kernel takes it. -/
theorem applyMode_eq (c : FlagCall) (newMode : Option Reload.Mode) (agent : Agent) :
    applyMode c newMode agent = agent ∨
      ∃ m, newMode = some m ∧ applyMode c newMode agent =
        { agent with mode := m, bpfCtx := { agent.bpfCtx with
            config := Function.update agent.bpfCtx.config .mode (modeValue m) } } := by
  cases newMode with
  | none => exact .inl rfl
  | some m =>
    unfold applyMode
    simp only
    split
    next =>
      split
      next ctx hctx =>
        refine .inr ⟨m, rfl, ?_⟩
        unfold bpfLoaderSetMode at hctx
        obtain ⟨-, hctx⟩ := except_guard_ok.mp hctx
        obtain ⟨-, hctx⟩ := except_guard_ok.mp hctx
        rw [(setConfig_ok hctx).1]
      next => exact .inl rfl
    next => exact .inl rfl

theorem applyMode_inStep {newMode : Option Reload.Mode} (hin : InStep agent) :
    InStep (applyMode c newMode agent) := by
  rcases applyMode_eq c newMode agent with heq | ⟨m, -, heq⟩
  · rw [heq]
    exact hin
  · rw [heq]
    refine ⟨by simp, fun f => ?_⟩
    exact (Function.update_of_ne (Flag.key_ne_mode f) ..).trans (hin.flags f)

theorem applyMode_flags (c : FlagCall) (newMode : Option Reload.Mode) (agent : Agent) :
    (applyMode c newMode agent).flags = agent.flags := by
  rcases applyMode_eq c newMode agent with heq | ⟨m, -, heq⟩ <;> rw [heq]

/-- **A reload.** It changes nothing, or it applies a configuration. -/
theorem reload_cases (C : Reload.Crypto Key) (agent : Agent) (c : FlagCall) :
    (agentReloadConfig C agent c).1 = agent ∨
      ∃ newCfg, Reload.configLoadFromFd c.call = .ok newCfg ∧ (agentReloadConfig C agent c).1 =
        { applyRuntimeFlagsTransactional c newCfg
            (applyMode c (Reload.parseMode newCfg.mode) agent) with
          policyPubkey := newCfg.policyPubkey } := by
  unfold agentReloadConfig
  cases hopen : c.call.opened with
  | error e =>
    refine .inl ?_
    simp only
    split <;> rfl
  | ok u =>
    cases hload : Reload.configLoadFromFd c.call with
    | error e => exact .inl rfl
    | ok newCfg =>
      simp only
      split
      next => exact .inl rfl
      next => exact .inr ⟨newCfg, rfl, rfl⟩

theorem writeFlag_toReload {fault : Option Policy.Errno} {agent' : Agent} {f : Flag} {on : Bool}
    (h : writeFlag fault agent f on = some agent') : agent'.toReload = agent.toReload := by
  obtain ⟨hmode, -, -, -, hkey⟩ := writeFlag_some h
  simp only [Agent.toReload, hmode, hkey]

theorem applyRuntimeFlags_toReload (c : FlagCall) (newCfg : Config) (agent : Agent) :
    (applyRuntimeFlagsTransactional c newCfg agent).toReload = agent.toReload := by
  have happly : ∀ (fs : List Flag) (a : Agent),
      (applyFlags c.apply (flagsOf newCfg) a fs).1.toReload = a.toReload := by
    intro fs
    induction fs with
    | nil => exact fun a => rfl
    | cons f fs ih =>
      intro a
      rw [applyFlags]
      split
      next =>
        split
        next => rfl
        next a' hw => rw [ih, writeFlag_toReload hw]
      next => exact ih a
  have hback : ∀ (fs : List Flag) (a : Agent),
      (rollbackFlags c.rollback agent.flags a fs).toReload = a.toReload := by
    intro fs
    induction fs with
    | nil => exact fun a => rfl
    | cons f fs ih =>
      intro a
      rw [rollbackFlags, ih]
      split
      next =>
        cases hw : writeFlag (c.rollback f) a f (agent.flags f) with
        | none => rfl
        | some a' => exact writeFlag_toReload hw
      next => rfl
  have h := happly Flag.order agent
  unfold applyRuntimeFlagsTransactional
  split
  next agent' hr => rwa [hr] at h
  next agent' hr => rw [hback, ← h, hr]

/-- The call as the model of mode and key has it. -/
def FlagCall.toReload (c : FlagCall) (agent : Agent) : Reload.Call :=
  { c.call with setModeOk := agent.bpfCtx.loader.loaded && c.setMode.isNone }

theorem applyMode_toReload (c : FlagCall) (newMode : Option Reload.Mode) (agent : Agent) :
    (applyMode c newMode agent).toReload =
      { agent.toReload with mode := Reload.applyMode agent.toReload (c.toReload agent) newMode } := by
  cases newMode with
  | none => rfl
  | some m =>
    have hmode : ¬ modeValue m > modeMaintenance := by cases m <;> decide
    by_cases hne : m = agent.mode
    · simp [applyMode, Reload.applyMode, hne, Agent.toReload]
    · cases hl : agent.bpfCtx.loader.loaded with
      | false =>
        simp [applyMode, Reload.applyMode, bpfLoaderSetMode, hne, hl, Agent.toReload, FlagCall.toReload]
      | true =>
        cases hf : c.setMode <;> simp [applyMode, Reload.applyMode, bpfLoaderSetMode,
          bpfLoaderSetConfig, hne, hl, hf, hmode, Agent.toReload, FlagCall.toReload]

/-- **One reload.** Mode, key and result are those of the model without the
flags. -/
theorem reload_projection (C : Reload.Crypto Key) (agent : Agent) (c : FlagCall) :
    ((agentReloadConfig C agent c).1.toReload, (agentReloadConfig C agent c).2) =
      Reload.agentReloadConfig C agent.toReload (c.toReload agent) := by
  have hsame : Reload.configLoadFromFd (c.toReload agent) = Reload.configLoadFromFd c.call := rfl
  have hverify : Reload.verifyReloadDowngradeAuthorizationFd C agent.toReload (c.toReload agent) =
      Reload.verifyReloadDowngradeAuthorizationFd C agent.toReload c.call := rfl
  unfold agentReloadConfig Reload.agentReloadConfig
  rw [hsame, hverify]
  have hopened : (c.toReload agent).opened = c.call.opened := rfl
  rw [hopened]
  cases hopen : c.call.opened with
  | error e =>
    simp only
    split <;> rfl
  | ok u =>
    cases hload : Reload.configLoadFromFd c.call with
    | error e => rfl
    | ok newCfg =>
      simp only
      generalize (if Reload.downgrade agent.toReload (Reload.parseMode newCfg.mode) = true then
        Reload.verifyReloadDowngradeAuthorizationFd C agent.toReload c.call else .ok ()) = authorized
      cases authorized with
      | error e => rfl
      | ok u =>
        have hflags :=
          applyRuntimeFlags_toReload c newCfg (applyMode c (Reload.parseMode newCfg.mode) agent)
        rw [applyMode_toReload] at hflags
        simp only [Agent.toReload, Reload.Agent.mk.injEq] at hflags
        simp only [Agent.toReload, hflags.1]

/-- **Step.** -/
theorem reload_inStep (hin : InStep agent) : InStep (agentReloadConfig C agent c).1 := by
  rcases reload_cases C agent c with heq | ⟨newCfg, -, heq⟩
  · rwa [heq]
  · rw [heq]
    have h : InStep
        (applyRuntimeFlagsTransactional c newCfg (applyMode c (Reload.parseMode newCfg.mode) agent)) :=
      applyRuntimeFlags_inStep (applyMode_inStep hin)
    exact ⟨h.mode, h.flags⟩

theorem reload_all_or_none (C : Reload.Crypto Key) (agent : Agent) (hok : ∀ f, c.rollback f = none) :
    (agentReloadConfig C agent c).1.flags = agent.flags ∨
      ∃ newCfg, Reload.configLoadFromFd c.call = .ok newCfg ∧
      (agentReloadConfig C agent c).1.flags = flagsOf newCfg := by
  rcases reload_cases C agent c with heq | ⟨newCfg, hload, heq⟩
  · exact .inl (by rw [heq])
  · rw [heq]
    rcases applyRuntimeFlags_all_or_none newCfg (applyMode c (Reload.parseMode newCfg.mode) agent)
      hok with hall | hnone
    · exact .inr ⟨newCfg, hload, hall⟩
    · exact .inl (hnone.trans (applyMode_flags ..))

/-- **Runs.** Over every sequence of reloads, whichever writes fail: when the
mode and the flags are in step with the kernel before, they are after it; and
a reload in which no write back fails gives all flags their requested values
or leaves all of them as they were. -/
theorem reload_in_step (C : Reload.Crypto Key) (agent : Agent) (cs : List FlagCall)
    (hin : InStep agent) : InStep ((reloads C).run agent cs) ∧
      ∀ before c after, cs = before ++ c :: after → (∀ f, c.rollback f = none) →
        ((reloads C).run agent (before ++ [c])).flags = ((reloads C).run agent before).flags ∨
          ∃ newCfg, Reload.configLoadFromFd c.call = .ok newCfg ∧
            ((reloads C).run agent (before ++ [c])).flags = flagsOf newCfg := by
  constructor
  · induction cs generalizing agent with
    | nil => exact hin
    | cons c cs ih => exact ih _ (reload_inStep hin)
  · intro before c after _ hok
    rw [Machine.run_append]
    exact reload_all_or_none C _ hok

/-- MONITOR, with `block_ptrace` only. -/
def sampleAgent : Agent where
  mode := .monitor
  flags := fun f => f = .blockPtrace
  policyPubkey := []
  bpfCtx := {
    config := fun k => if k = .blockPtrace then 1 else 0
    protectedPids := none
    allowVerityDigest := none
    loader := { loaded := true, trustedLibs := none, trustedLibMnt := none } }

/-- A reload that asks for two more flags; the kernel refuses the second. -/
def sampleCall : FlagCall where
  call := Reload.callOf (ascii "block_ptrace = true\nstrict_mmap = true\nstrict_exec = true\n") []
  setMode := none
  apply := fun f => if f = .strictExec then some .eperm else none
  rollback := fun _ => none

/-- The first of the two flags is taken back. -/
theorem reload_in_step_refused : InStep sampleAgent ∧
    InStep ((reloads Reload.sampleCrypto).run sampleAgent [sampleCall]) ∧
    Flag.order.map ((reloads Reload.sampleCrypto).run sampleAgent [sampleCall]).flags =
    Flag.order.map sampleAgent.flags := by
  have hin : InStep sampleAgent := ⟨rfl, fun f => by cases f <;> rfl⟩
  exact ⟨hin, (reload_in_step Reload.sampleCrypto sampleAgent [sampleCall] hin).1, by decide +kernel⟩

end

end Lota.L6.ReloadFlags

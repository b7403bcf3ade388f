import Lota.L4Sdk.WineHook
import Lota.L6Agent.IpcConn
import Mathlib.Logic.Function.Iterate

/-!
# Registration of the hooked process (`sdk/lota_wine_hook.c`, `agent/ipc.c`)

The hook registers its process with `PROTECT_PID`, once: a reply that accepts
the registration sets `self_protected`, and a later connection does not ask
again. The set of the agent is empty after a restart.

Here the hook runs against the agent. A world is the agent, when one is
running, the number of agents started so far, and the script of what is to
happen: before each call any number of agents stop and start and other
processes register, and the call reaches the agent or not and is answered or
not. A connection is the number of the agent it was made to. `accepted` is a
history: whose registration was last accepted, and by which agent.

* `agentNet`: the calls of the hook against the agent.
* `pass_moves`: what a pass does to the latch, and that a running agent keeps
  what it has registered.
* `latched_registered`: over every run, a hook whose latch is set is
  registered with the agent that accepted it.
* `passes_sendsNone`: a hook whose latch is set sends no registration.
* `registered_after_refresh`: when a refresh connects, and is answered, the
  process is in the set of that agent from then on, until it stops; unless the
  latch was set before, by an agent that has stopped. No registration follows.
* `restarted_agent_lacks_pid`: a restart.
-/
namespace Lota.L6.HookRegister
open Lota.Core Lota.L1.Report Lota.L4.Gaming Lota.L4.WineHook Lota.L6.ProtectedSet
open Lota.L6.Ipc (resultCode)

/-! ## The world -/

inductive AgentEvent where
  | stop
  /-- A new agent, with an empty set. -/
  | start
  /-- Another process registers. -/
  | protect (r : PidRequest)

/-- What happens around one call. The last fields are for `PROTECT_PID`. -/
structure Beat where
  before : List AgentEvent
  delivered : Bool
  answered : Bool
  reply : Reply
  polled : Polled
  peerStartTimeTicks : UInt64
  privileged : Bool
  withinRate : Bool
  proc : Proc
  policyDigest : Hash

structure World where
  agent : Option AgentState
  generation : Nat
  accepted : Option (UInt32 × Nat)
  script : List Beat

def World.initial (script : List Beat) : World where
  agent := none
  generation := 0
  accepted := none
  script := script

def World.happen (w : World) : AgentEvent → World
  | .stop => { w with agent := none }
  | .start => { w with agent := some (started (fun _ => none) []), generation := w.generation + 1 }
  | .protect r =>
    { w with agent := w.agent.map fun a => (handleProtectPidUpdate a { r with add := true }).1 }

/-- Nothing happens and nothing is answered. -/
def Beat.silent : Beat where
  before := []
  delivered := false
  answered := false
  reply := .timedOut
  polled := ⟨.nil, .deadline⟩
  peerStartTimeTicks := 0
  privileged := false
  withinRate := false
  proc := fun _ => none
  policyDigest := Blob.zero 32

/-- The next call. -/
def World.turn (w : World) : Beat × World :=
  match w.script with
  | [] => (.silent, w)
  | b :: script => (b, b.before.foldl World.happen { w with script })

/-- The agent of connection `c` gets the request. -/
def World.reaches (w : World) (c : Nat) (b : Beat) : Option AgentState :=
  if c = w.generation ∧ b.delivered = true then w.agent else none

/-- A request that changes nothing. -/
def ask (w : World) (c : Nat) : Reply × World :=
  let (b, w₁) := w.turn
  (if (w₁.reaches c b).isSome ∧ b.answered = true then b.reply else .timedOut, w₁)

/-- The `PROTECT_PID` of process `pid` for itself. -/
def selfRequest (b : Beat) (pid : UInt32) : PidRequest where
  add := true
  payloadOk := true
  pid := pid
  peerPid := pid
  peerStartTimeTicks := b.peerStartTimeTicks
  privileged := b.privileged
  withinRate := b.withinRate
  proc := b.proc

/-- mirrors src/agent/ipc.c:1363-1376 -/
def policyUpdate (b : Beat) (a : AgentState) : Bytes :=
  b.policyDigest.toList ++ (toLE 4 a.policyProtectPids.length ++ toLE 4 0)

/-- The agent handles the request; the answer may get lost. -/
def protectTurn (b : Beat) (w : World) (c : Nat) (pid : UInt32) : Reply × World :=
  match w.reaches c b with
  | none => (.timedOut, w)
  | some a =>
    let (a', result) := handleProtectPidUpdate a (selfRequest b pid)
    let w₁ := { w with agent := some a' }
    if b.answered = false then (.timedOut, w₁)
    else if result = .ok then
      (.response ipcMagic 0 (policyUpdate b a'), { w₁ with accepted := some (pid, w.generation) })
    else (.response ipcMagic (UInt32.ofNat (resultCode result)) [], w₁)

def agentNet : Net Nat World where
  connect := fun w =>
    let (b, w₁) := w.turn
    (if w₁.agent.isSome ∧ b.answered = true then some w₁.generation else none, w₁)
  protectSelf := fun c pid w => protectTurn w.turn.1 w.turn.2 c pid
  getStatus := fun c w => ask w c
  getToken := fun c w => ask w c
  subscribe := fun c w => ask w c
  poll := fun _ w => (w.turn.1.polled, w.turn.2)

/-! ## Runs -/

inductive Event where
  | pass
  /-- Go on as the child of a fork. -/
  | fork (child : UInt32)
  /-- The image is replaced; the constructor starts a new hook. -/
  | exec

def step (s : Hook Nat × World) : Event → (Hook Nat × World) × Unit
  | .pass => (pass agentNet s, ())
  | .fork child => ((childAfterFork s.1 child, s.2), ())
  | .exec => ((start s.1.pid s.1.files, s.2), ())

def machine : Machine (Hook Nat × World) Event Unit := ⟨step⟩

/-- The process is in the list and in the map of the agent. -/
def Protected (pid : UInt32) (a : AgentState) : Prop :=
  pid ∈ a.policyProtectPids ∧ pid ∈ a.protectedPids

instance instDecidableProtected (pid : UInt32) (a : AgentState) : Decidable (Protected pid a) :=
  inferInstanceAs (Decidable (_ ∧ _))

/-- Agent number `g` has accepted the registration; while it runs, the process
is in its set. -/
def RegisteredWith (w : World) (pid : UInt32) (g : Nat) : Prop :=
  w.accepted = some (pid, g) ∧ g ≤ w.generation ∧
    (g = w.generation → ∀ a, w.agent = some a → Protected pid a)

/-! ## The agent keeps its set -/

/-- A later world: a running agent of the same number has all it had. -/
structure Evolves (w w' : World) : Prop where
  generation : w.generation ≤ w'.generation
  agents : (∀ a, w.agent = some a → Matches a) → ∀ a, w'.agent = some a → Matches a
  keeps : w'.generation = w.generation → ∀ a', w'.agent = some a' →
    ∃ a, w.agent = some a ∧ ∀ pid ∈ a.policyProtectPids, pid ∈ a'.policyProtectPids

namespace Evolves

theorem refl (w : World) : Evolves w w := ⟨Nat.le_refl _, id, fun _ a ha => ⟨a, ha, fun _ => id⟩⟩

theorem trans {u v w : World} (h : Evolves u v) (h' : Evolves v w) : Evolves u w where
  generation := Nat.le_trans h.generation h'.generation
  agents := fun hm => h'.agents (h.agents hm)
  keeps := by
    intro hg c hc
    have hle := h.generation
    have hle' := h'.generation
    obtain ⟨b, hb, hbc⟩ := h'.keeps (by omega) c hc
    obtain ⟨a, ha, hab⟩ := h.keeps (by omega) b hb
    exact ⟨a, ha, fun pid hp => hbc pid (hab pid hp)⟩

end Evolves

theorem checkRequest_error {a : AgentState} {r : PidRequest} {e : IpcResult}
    (h : checkRequest a r = .error e) : e ≠ .ok := by
  rintro rfl
  unfold checkRequest at h
  split at h
  · cases h
  split at h
  · cases h
  split at h
  · cases h
  split at h
  · cases h
  split at h
  · cases h
  · cases h

/-- A registration is refused, or found in the list, or added to it. -/
theorem handle_add_cases (a : AgentState) {r : PidRequest} (hadd : r.add = true) :
    ((handleProtectPidUpdate a r).1 = a ∧ (handleProtectPidUpdate a r).2 ≠ .ok) ∨
    ((handleProtectPidUpdate a r).1 = a ∧ r.pid ∈ a.policyProtectPids) ∨
    (handleProtectPidUpdate a r).1.policyProtectPids = pidSetAdd a.policyProtectPids r.pid := by
  unfold handleProtectPidUpdate
  cases hcheck : checkRequest a r with
  | error e => exact .inl ⟨rfl, checkRequest_error hcheck⟩
  | ok _ =>
    simp only [hadd, if_true]
    by_cases hin : r.pid ∈ a.policyProtectPids
    · rw [if_pos (decide_eq_true hin).symm]
      exact .inr (.inl ⟨rfl, hin⟩)
    · rw [if_neg (by simp [hin])]
      split
      · exact .inl ⟨rfl, by simp⟩
      split
      · exact .inl ⟨rfl, by simp⟩
      split
      · exact .inl ⟨rfl, by simp⟩
      · exact .inr (.inr rfl)

/-- A registration takes nothing out of the list. -/
theorem handle_add_keeps {a : AgentState} {r : PidRequest} (hadd : r.add = true) {pid : UInt32}
    (h : pid ∈ a.policyProtectPids) : pid ∈ (handleProtectPidUpdate a r).1.policyProtectPids := by
  rcases handle_add_cases a hadd with ⟨hs, -⟩ | ⟨hs, -⟩ | hs
  · rwa [hs]
  · rwa [hs]
  · rw [hs]
    exact mem_pidSetAdd.mpr (.inr h)

/-- A registration that is answered with success is in the list. -/
theorem handle_add_ok {a : AgentState} {r : PidRequest} (hadd : r.add = true)
    (hok : (handleProtectPidUpdate a r).2 = .ok) :
    r.pid ∈ (handleProtectPidUpdate a r).1.policyProtectPids := by
  rcases handle_add_cases a hadd with ⟨-, hne⟩ | ⟨hs, hin⟩ | hs
  · exact absurd hok hne
  · rwa [hs]
  · rw [hs]
    exact mem_pidSetAdd.mpr (.inl rfl)

/-! ## The calls -/

theorem evolves_happen (w : World) (ev : AgentEvent) :
    Evolves w (w.happen ev) ∧ (w.happen ev).accepted = w.accepted := by
  cases ev with
  | stop => exact ⟨⟨Nat.le_refl _, fun _ a ha => absurd ha (by simp [World.happen]), fun _ a ha =>
      absurd ha (by simp [World.happen])⟩, rfl⟩
  | start =>
    refine ⟨⟨Nat.le_succ _, fun _ a ha => ?_, fun hg => absurd hg (Nat.succ_ne_self _)⟩, rfl⟩
    rw [← Option.some.inj ha]
    exact matches_started rfl
  | protect r =>
    refine ⟨⟨Nat.le_refl _, fun hm a ha => ?_, fun _ a ha => ?_⟩, rfl⟩
    · obtain ⟨a₀, ha₀, rfl⟩ := Option.map_eq_some_iff.mp ha
      exact (handle_keeps _ (hm a₀ ha₀)).1
    · obtain ⟨a₀, ha₀, rfl⟩ := Option.map_eq_some_iff.mp ha
      exact ⟨a₀, ha₀, fun pid hp => handle_add_keeps rfl hp⟩

theorem evolves_happens (evs : List AgentEvent) (w : World) :
    Evolves w (evs.foldl World.happen w) ∧ (evs.foldl World.happen w).accepted = w.accepted := by
  induction evs generalizing w with
  | nil => exact ⟨.refl w, rfl⟩
  | cons ev evs ih =>
    obtain ⟨he, ha⟩ := evolves_happen w ev
    obtain ⟨he', ha'⟩ := ih (w.happen ev)
    exact ⟨he.trans he', ha'.trans ha⟩

theorem evolves_turn (w : World) : Evolves w w.turn.2 ∧ w.turn.2.accepted = w.accepted := by
  unfold World.turn
  cases w.script with
  | nil => exact ⟨.refl w, rfl⟩
  | cons b script =>
    obtain ⟨he, ha⟩ := evolves_happens b.before { w with script }
    exact ⟨⟨he.generation, he.agents, he.keeps⟩, ha⟩

theorem reaches_some {w : World} {c : Nat} {b : Beat} {a : AgentState} (h : w.reaches c b = some a) :
    w.agent = some a ∧ c = w.generation := by
  unfold World.reaches at h
  split at h
  · rename_i hc
    exact ⟨h, hc.1⟩
  · cases h

/-- The reply to an accepted registration is read as success, and no other. -/
theorem protectSelf_update (b : Beat) (a : AgentState) :
    (protectSelf (.response ipcMagic 0 (policyUpdate b a))).isOk = true := by
  have hlen : (policyUpdate b a).length = 40 := by simp [policyUpdate]
  unfold protectSelf recvResponse
  simp only
  rw [if_neg (by decide), if_neg (by rw [hlen]; decide), if_neg (by decide)]
  rfl

theorem protectSelf_timedOut : (protectSelf .timedOut).isOk = false := rfl

theorem protectSelf_refused {result : IpcResult} (h : result ≠ .ok) :
    (protectSelf (.response ipcMagic (UInt32.ofNat (resultCode result)) [])).isOk = false := by
  cases result with
  | ok => exact absurd rfl h
  | _ => decide

/-- The registration: the agent keeps its set, and a reply that accepts it is
in the history and in the set. -/
theorem evolves_protectTurn (b : Beat) (w : World) (c : Nat) (pid : UInt32) :
    Evolves w (protectTurn b w c pid).2 ∧
      ((protectSelf (protectTurn b w c pid).1).isOk = false →
        (protectTurn b w c pid).2.accepted = w.accepted) ∧
      ((protectSelf (protectTurn b w c pid).1).isOk = true → (∀ a, w.agent = some a → Matches a) →
        RegisteredWith (protectTurn b w c pid).2 pid c) := by
  unfold protectTurn
  cases hreach : w.reaches c b with
  | none => exact ⟨.refl w, fun _ => rfl, fun hok => absurd hok (by simp [protectSelf_timedOut])⟩
  | some a =>
    obtain ⟨hsome, rfl⟩ := reaches_some hreach
    have hkeep :
        Evolves w { w with agent := some (handleProtectPidUpdate a (selfRequest b pid)).1 } := by
      refine ⟨Nat.le_refl _, fun hm a' ha' => ?_, fun _ a' ha' => ?_⟩
      · rw [← Option.some.inj ha']
        exact (handle_keeps _ (hm a hsome)).1
      · rw [← Option.some.inj ha']
        exact ⟨a, hsome, fun q hq => handle_add_keeps rfl hq⟩
    simp only
    split
    · exact ⟨hkeep, fun _ => rfl, fun hok => absurd hok (by simp [protectSelf_timedOut])⟩
    split
    · rename_i hresult
      refine ⟨⟨hkeep.generation, hkeep.agents, hkeep.keeps⟩, fun hno => ?_, fun _ hm => ?_⟩
      · rw [protectSelf_update] at hno
        cases hno
      · refine ⟨rfl, Nat.le_refl _, fun _ a' ha' => ?_⟩
        have hin : pid ∈ a'.policyProtectPids := by
          rw [← Option.some.inj ha']
          exact handle_add_ok (r := selfRequest b pid) rfl hresult
        exact ⟨hin, ((hkeep.agents hm a' ha').keys pid).mp hin⟩
    · rename_i hresult
      refine ⟨hkeep, fun _ => rfl, fun hok => ?_⟩
      rw [protectSelf_refused hresult] at hok
      cases hok

/-! ## The hook -/

/-- A registration outlives every call that leaves the history alone. -/
theorem RegisteredWith.evolves {w w' : World} {pid : UInt32} {g : Nat} (h : RegisteredWith w pid g)
    (he : Evolves w w')
    (ha : w'.accepted = w.accepted) (hm : ∀ a, w.agent = some a → Matches a) :
    RegisteredWith w' pid g := by
  obtain ⟨hacc, hle, hset⟩ := h
  have hgen := he.generation
  refine ⟨ha.trans hacc, hle.trans hgen, fun hg a' ha' => ?_⟩
  obtain ⟨a, hsome, hkeep⟩ := he.keeps (by omega) a' ha'
  have hin := hkeep pid (hset (by omega) a hsome).1
  exact ⟨hin, ((he.agents hm a' ha').keys pid).mp hin⟩

/-- What any piece of the loop does to the latch: it stays, with the history;
or it is set, by the agent that has accepted the registration. -/
structure Moves (s s' : Hook Nat × World) : Prop where
  evolves : Evolves s.2 s'.2
  pid : s'.1.pid = s.1.pid
  stays : s.1.selfProtected = true → s'.1.selfProtected = true ∧ s'.2.accepted = s.2.accepted
  registers : (∀ a, s.2.agent = some a → Matches a) → s.1.selfProtected = false →
    s'.1.selfProtected = true → ∃ g, RegisteredWith s'.2 s'.1.pid g

namespace Moves

/-- Nothing is registered. -/
theorem of_same {s s' : Hook Nat × World} (he : Evolves s.2 s'.2 ∧ s'.2.accepted = s.2.accepted)
    (hpid : s'.1.pid = s.1.pid) (hself : s'.1.selfProtected = s.1.selfProtected) : Moves s s' where
  evolves := he.1
  pid := hpid
  stays := fun h => ⟨hself.trans h, he.2⟩
  registers := fun _ hno hyes => absurd (hself.symm.trans hyes) (by simp [hno])

theorem trans {s t u : Hook Nat × World} (h : Moves s t) (h' : Moves t u) : Moves s u where
  evolves := h.evolves.trans h'.evolves
  pid := h'.pid.trans h.pid
  stays := by
    intro hs
    obtain ⟨ht, ha⟩ := h.stays hs
    obtain ⟨hu, ha'⟩ := h'.stays ht
    exact ⟨hu, ha'.trans ha⟩
  registers := by
    intro hm hs hu
    cases ht : t.1.selfProtected with
    | false => exact h'.registers (h.evolves.agents hm) ht hu
    | true =>
      obtain ⟨g, hg⟩ := h.registers hm hs ht
      refine ⟨g, ?_⟩
      rw [h'.pid]
      exact hg.evolves h'.evolves (h'.stays ht).2 (h.evolves.agents hm)

end Moves

theorem openClient_moves (h : Hook Nat) (w : World) : Moves (h, w) (openClient agentNet h w) := by
  rcases openClient_cases agentNet h w with ⟨-, ho⟩ | ⟨-, -, ho⟩ | ⟨c, -, -, ⟨-, ho⟩ | ⟨hself, ho⟩⟩
  · rw [ho]
    exact .of_same ⟨.refl w, rfl⟩ rfl rfl
  · rw [ho]
    exact .of_same (evolves_turn w) rfl rfl
  · rw [ho]
    exact .of_same (evolves_turn w) rfl rfl
  · obtain ⟨he, ha⟩ := evolves_turn w
    obtain ⟨he', ha'⟩ := evolves_turn w.turn.2
    obtain ⟨hp, -, hreg⟩ := evolves_protectTurn w.turn.2.turn.1 w.turn.2.turn.2 c h.pid
    rw [ho]
    refine ⟨(he.trans he').trans hp, rfl, fun hs => absurd (hself.symm.trans hs) (by decide),
      fun hm _ hyes => ?_⟩
    exact ⟨c, hreg hyes ((he.trans he').agents hm)⟩

theorem evolves_ask (w : World) (c : Nat) :
    Evolves w (ask w c).2 ∧ (ask w c).2.accepted = w.accepted := evolves_turn w

theorem queryStatus_moves (c : Nat) (h : Hook Nat) (w : World) :
    Moves (h, w) (queryStatus agentNet c h w) := by
  obtain ⟨he, ha⟩ := evolves_ask w c
  rcases queryStatus_cases agentNet h w c with ⟨-, hq⟩ | ⟨status, files, -, ⟨-, hq⟩ | ⟨-, hq⟩⟩
  · rw [hq]
    exact .of_same ⟨he, ha⟩ rfl rfl
  · rw [hq]
    obtain ⟨he', ha'⟩ := evolves_ask (ask w c).2 c
    exact .of_same ⟨he.trans he', ha'.trans ha⟩ rfl rfl
  · rw [hq]
    exact .of_same ⟨he, ha⟩ rfl rfl

/-- Behind the connection a refresh registers nothing. -/
theorem refreshOnce_after_open (h : Hook Nat) (w : World) :
    Moves (openClient agentNet h w) (refreshOnce agentNet h w) := by
  rw [refreshOnce_eq]
  split
  · exact .of_same ⟨.refl _, rfl⟩ rfl rfl
  · exact queryStatus_moves _ _ _

theorem refreshOnce_moves (h : Hook Nat) (w : World) : Moves (h, w) (refreshOnce agentNet h w) :=
  (openClient_moves h w).trans (refreshOnce_after_open h w)

theorem connectPhase_moves (h : Hook Nat) (w : World) : Moves (h, w) (connectPhase agentNet h w).2 := by
  rcases connectPhase_cases agentNet h w with ⟨-, hp⟩ | ⟨-, -, hp⟩ | ⟨c, x, -, -, rfl,
    ⟨-, hp⟩ | ⟨c', -, hp⟩⟩
  · rw [hp]
    exact .of_same ⟨.refl w, rfl⟩ rfl rfl
  · rw [hp]
    exact .of_same (evolves_turn w) rfl rfl
  · rw [hp]
    have hopen : Moves (h, w) ({ h with client := some c }, (agentNet.connect w).2) :=
      .of_same (evolves_turn w) rfl rfl
    exact (hopen.trans (refreshOnce_moves _ _)).trans (.of_same ⟨.refl _, rfl⟩ rfl rfl)
  · rw [hp]
    have hopen : Moves (h, w) ({ h with client := some c }, (agentNet.connect w).2) :=
      .of_same (evolves_turn w) rfl rfl
    exact (hopen.trans (refreshOnce_moves _ _)).trans (.of_same (evolves_ask _ c') rfl rfl)

/-- The rest of the loop, after its refresh when there is one. -/
theorem listenPhase_after_refresh {h : Hook Nat} (w : World) (hpoll : h.subscribed = false) :
    Moves (refreshOnce agentNet h w) (listenPhase agentNet h w) := by
  rcases listenPhase_cases agentNet h w with ⟨hsub, -⟩ | ⟨c, h₁, hsub, -⟩ | ⟨x, -, rfl,
    ⟨-, hl⟩ | ⟨-, hl⟩⟩
  · exact absurd (hpoll.symm.trans hsub) (by decide)
  · exact absurd (hpoll.symm.trans hsub) (by decide)
  · rw [hl]
    exact .of_same ⟨.refl _, rfl⟩ rfl rfl
  · rw [hl]
    exact .of_same ⟨.refl _, rfl⟩ rfl rfl

theorem listenPhase_moves (h : Hook Nat) (w : World) : Moves (h, w) (listenPhase agentNet h w) := by
  cases hsub : h.subscribed with
  | false => exact (refreshOnce_moves h w).trans (listenPhase_after_refresh w hsub)
  | true =>
    rcases listenPhase_cases agentNet h w with ⟨-, -, hl⟩ | ⟨c, h₁, -, -, rfl, hl | hl⟩ | ⟨x, hno, -⟩
    · rw [hl]
      exact .of_same ⟨.refl w, rfl⟩ rfl rfl
    · rw [hl]
      exact .of_same (evolves_turn w) rfl rfl
    · rw [hl]
      exact .of_same (evolves_turn w) rfl rfl
    · exact absurd (hsub.symm.trans hno) (by decide)

/-- **Step.** -/
theorem pass_moves (s : Hook Nat × World) : Moves s (pass agentNet s) := by
  unfold L4.WineHook.pass
  split
  · have hcon := connectPhase_moves s.1 s.2
    rcases hp : connectPhase agentNet s.1 s.2 with ⟨goesOn, h, w⟩
    rw [hp] at hcon
    cases goesOn with
    | false => exact hcon
    | true => exact hcon.trans (listenPhase_moves h w)
  · exact .of_same ⟨.refl _, rfl⟩ rfl rfl

theorem passes_move (s : Hook Nat × World) (n : Nat) : Moves s ((pass agentNet)^[n] s) := by
  induction n with
  | zero => exact .of_same ⟨.refl _, rfl⟩ rfl rfl
  | succ n ih =>
    rw [Function.iterate_succ_apply']
    exact ih.trans (pass_moves _)

/-! ## The latch -/

/-- The agent, with anything that may come of a registration. -/
def agentNetWith (protectSelf : Nat → UInt32 → World → Reply × World) : Net Nat World :=
  { agentNet with protectSelf }

/-- `f` sends no `PROTECT_PID`: it comes out the same whatever one would do. -/
def SendsNone {α : Type} (f : Net Nat World → α) : Prop := ∀ send, f (agentNetWith send) = f agentNet

section latch
variable {h : Hook Nat} {w : World}

theorem openClient_sendsNone (hself : h.selfProtected = true) :
    SendsNone fun net => openClient net h w := by
  intro send
  simp only [openClient, hself, if_true]
  rfl

theorem refreshOnce_sendsNone (hself : h.selfProtected = true) :
    SendsNone fun net => refreshOnce net h w := by
  intro send
  have hopen : openClient (agentNetWith send) h w = openClient agentNet h w :=
    openClient_sendsNone hself send
  simp only [refreshOnce_eq, hopen]
  rfl

/-- The refresh at the top of the loop finds a connection. -/
theorem connectPhase_sendsNone : SendsNone fun net => connectPhase net h w := fun _ => rfl

theorem listenPhase_sendsNone (hself : h.selfProtected = true) :
    SendsNone fun net => listenPhase net h w := by
  intro send
  have hrefresh : refreshOnce (agentNetWith send) h w = refreshOnce agentNet h w :=
    refreshOnce_sendsNone hself send
  simp only [listenPhase, hrefresh]
  rfl

/-- **Step.** With the latch set a pass does not register again. -/
theorem pass_sendsNone {s : Hook Nat × World} (hself : s.1.selfProtected = true) :
    SendsNone fun net => pass net s := by
  intro send
  have hconnect : connectPhase (agentNetWith send) s.1 s.2 = connectPhase agentNet s.1 s.2 :=
    connectPhase_sendsNone send
  have hlatch := ((connectPhase_moves s.1 s.2).stays hself).1
  simp only [L4.WineHook.pass, hconnect]
  rcases hp : connectPhase agentNet s.1 s.2 with ⟨goesOn, h, w⟩
  rw [hp] at hlatch
  cases goesOn with
  | false => rfl
  | true => exact congrArg (fun t => if s.1.running then t else s) (listenPhase_sendsNone hlatch send)

/-- **Run.** -/
theorem passes_sendsNone {s : Hook Nat × World} (hself : s.1.selfProtected = true) (n : Nat) :
    SendsNone fun net => (pass net)^[n] s := by
  intro send
  induction n with
  | zero => rfl
  | succ n ih =>
    simp only [Function.iterate_succ_apply'] at ih ⊢
    rw [ih]
    exact pass_sendsNone ((passes_move s n).stays hself).1 send

end latch

/-! ## Every run -/

structure Inv (s : Hook Nat × World) : Prop where
  agents : ∀ a, s.2.agent = some a → Matches a
  latched : s.1.selfProtected = true → ∃ g, RegisteredWith s.2 s.1.pid g

theorem Inv.moves {s s' : Hook Nat × World} (h : Inv s) (hs : Moves s s') : Inv s' where
  agents := hs.evolves.agents h.agents
  latched := by
    intro hself
    cases hold : s.1.selfProtected with
    | false => exact hs.registers h.agents hold hself
    | true =>
      obtain ⟨g, hg⟩ := h.latched hold
      refine ⟨g, ?_⟩
      rw [hs.pid]
      exact hg.evolves hs.evolves (hs.stays hold).2 h.agents

/-- **Run.** A hook whose latch is set is registered with the agent that
accepted it; a child and a new image start without the latch. -/
theorem latched_registered (pid : UInt32) (files : Files) (script : List Beat) (evs : List Event) :
    Inv (machine.run (start pid files, .initial script) evs) := by
  refine Machine.run_inv (P := fun _ _ => True) (J := Inv) ?_ ?_
    (Machine.allSteps_iff.mpr fun _ _ _ _ => trivial)
  · intro s ev hs _
    cases ev with
    | pass => exact hs.moves (pass_moves s)
    | fork child =>
      exact ⟨hs.agents, fun hself => absurd hself (by simp [machine, step, childAfterFork])⟩
    | exec => exact ⟨hs.agents, fun hself => absurd hself (by simp [machine, step, start])⟩
  · exact ⟨fun a ha => absurd ha (by simp [World.initial]), fun hself => absurd hself (by simp [start])⟩

/-- In the pass from `s` a refresh starts without a connection, at `h` and `w`,
and makes one, to agent `c`. Where it asks for the registration, the answer is
success. -/
structure RefreshConnects (s : Hook Nat × World) (h : Hook Nat) (w : World) (c : Nat) : Prop where
  running : s.1.running = true
  reached : connectPhase agentNet s.1 s.2 = (true, h, w)
  polling : h.subscribed = false
  closed : h.client = none
  connected : (agentNet.connect w).1 = some c
  accepted : h.selfProtected = false →
    (protectSelf (agentNet.protectSelf c h.pid (agentNet.connect w).2).1).isOk = true

/-- The registration when the connection is made. -/
theorem openClient_registered {h : Hook Nat} {w : World} {c : Nat} (hinv : Inv (h, w))
    (hclosed : h.client = none)
    (hcon : (agentNet.connect w).1 = some c)
    (hok : h.selfProtected = false →
      (protectSelf (agentNet.protectSelf c h.pid (agentNet.connect w).2).1).isOk = true) :
    (openClient agentNet h w).1.selfProtected = true ∧
      ∃ g, RegisteredWith (openClient agentNet h w).2 h.pid g ∧ (h.selfProtected = false → g = c) := by
  rcases openClient_cases agentNet h w with ⟨hc, -⟩ | ⟨-, hn, -⟩ | ⟨c', -, hc',
    ⟨hself, ho⟩ | ⟨hself, ho⟩⟩
  · rw [hclosed] at hc
    cases hc
  · rw [hcon] at hn
    cases hn
  · obtain ⟨g, hg⟩ := hinv.latched hself
    obtain ⟨he, ha⟩ := evolves_turn w
    rw [ho]
    exact ⟨hself, g, hg.evolves he ha hinv.agents, fun hno => absurd (hself.symm.trans hno) (by decide)⟩
  · rw [hcon] at hc'
    cases hc'
    obtain ⟨he, -⟩ := evolves_turn w
    obtain ⟨he', -⟩ := evolves_turn w.turn.2
    obtain ⟨-, -, hreg⟩ := evolves_protectTurn w.turn.2.turn.1 w.turn.2.turn.2 c h.pid
    rw [ho]
    exact ⟨hok hself, c, hreg (hok hself) ((he.trans he').agents hinv.agents), fun _ => rfl⟩

/-- **Registration.** In every run of passes, forks and new images, with every
script of stops and starts of the agent and of lost, refused and rate-limited
requests: when a refresh makes its own connection, to agent `c`, and is
answered, then some agent `g` has accepted the process, and in all later
passes the process is in the set of agent `g` while this agent runs. When the
latch was not set before, `g` is `c`, and when it was, this refresh sends no
registration. After it none is sent in any later pass, whichever agent runs by
then. -/
theorem registered_after_refresh (pid : UInt32) (files : Files) (script : List Beat) (evs : List Event)
    (h : Hook Nat) (w : World) (c : Nat)
    (hrefresh : RefreshConnects (machine.run (start pid files, .initial script) evs) h w c) :
    ∃ g, (h.selfProtected = false → g = c) ∧
      (h.selfProtected = true → SendsNone fun net => refreshOnce net h w) ∧
      ∀ n, RegisteredWith
      ((pass agentNet)^[n + 1] (machine.run (start pid files, .initial script) evs)).2
          (machine.run (start pid files, .initial script) evs).1.pid g ∧
        SendsNone fun net => (pass net)^[n]
        (pass agentNet (machine.run (start pid files, .initial script) evs)) := by
  have hinv := latched_registered pid files script evs
  revert hrefresh hinv
  generalize machine.run (start pid files, .initial script) evs = s
  intro hrefresh hinv
  have hmove := connectPhase_moves s.1 s.2
  rw [hrefresh.reached] at hmove
  obtain ⟨hset, g, hg, hgc⟩ :=
    openClient_registered (hinv.moves hmove) hrefresh.closed hrefresh.connected
    hrefresh.accepted
  have hpass : pass agentNet s = listenPhase agentNet h w := by
    unfold L4.WineHook.pass
    rw [if_pos hrefresh.running, hrefresh.reached]
  have hlisten := (refreshOnce_after_open h w).trans (listenPhase_after_refresh w hrefresh.polling)
  refine ⟨g, hgc, fun hself => refreshOnce_sendsNone hself, fun n => ⟨?_, ?_⟩⟩
  · -- from the connection on, the pass and all later ones leave latch and history alone
    have hrest : Moves (openClient agentNet h w) ((pass agentNet)^[n + 1] s) := by
      rw [Function.iterate_succ_apply, hpass]
      exact hlisten.trans (passes_move _ n)
    have hpid : h.pid = s.1.pid := hmove.pid
    rw [← hpid]
    exact hg.evolves hrest.evolves (hrest.stays hset).2
      ((openClient_moves h w).evolves.agents (hmove.evolves.agents hinv.agents))
  · rw [hpass]
    exact passes_sendsNone (hlisten.stays hset).1 n

/-- A call that is answered. -/
def heard (before : List AgentEvent) (reply : Reply) : Beat where
  before := before
  delivered := true
  answered := true
  reply := reply
  polled := ⟨.nil, .deadline⟩
  peerStartTimeTicks := 7
  privileged := false
  withinRate := true
  proc := fun pid => if pid = 100 then some 7 else none
  policyDigest := Blob.zero 32

/-- The status of an agent that is not attested, and the reply to `SUBSCRIBE`. -/
def statusReply : Reply := .response ipcMagic 0 (List.replicate 36 0)
def deniedReply : Reply := .response ipcMagic 7 []

def noFiles : Files := ⟨none, none, none⟩

/-- The agent restarts after it has registered the process. In the first and in
the third pass the first status request is lost, so that the refresh behind it
makes the connection. -/
def restartScript : List Beat :=
  [heard [.start] statusReply, .silent, heard [] statusReply, heard [] statusReply,
    heard [] statusReply, heard [.stop, .start] statusReply,
    heard [] statusReply, .silent, heard [] statusReply, heard [] statusReply,
    heard [] statusReply]

theorem registered_first_refresh :
    ∃ g, g = 1 ∧ ∀ n,
    RegisteredWith ((pass agentNet)^[n + 1] (start 100 noFiles, .initial restartScript)).2 100 g ∧
      SendsNone fun net => (pass net)^[n]
      (pass agentNet (start 100 noFiles, .initial restartScript)) := by
  have hself :
      (connectPhase agentNet (start 100 noFiles) (.initial restartScript)).2.1.selfProtected =
      false := by
    decide +kernel
  obtain ⟨g, hg, -, hreg⟩ := registered_after_refresh 100 noFiles restartScript []
    (connectPhase agentNet (start 100 noFiles) (.initial restartScript)).2.1
    (connectPhase agentNet (start 100 noFiles) (.initial restartScript)).2.2 1
    { running := rfl
      reached := Prod.ext (by decide +kernel) rfl
      polling := by decide +kernel
      closed := by decide +kernel
      connected := by decide +kernel
      accepted := fun _ => by decide +kernel }
  exact ⟨g, hg hself, hreg⟩

/-- The thread is connected to the running agent, refreshes, and still is: its
request was answered. -/
structure FullCycle (s : Hook Nat × World) : Prop where
  running : s.1.running = true
  polling : s.1.subscribed = false
  agent : s.2.agent.isSome
  connected : s.1.client = some s.2.generation
  sameAgent : (pass agentNet s).2.generation = s.2.generation
  stays : (pass agentNet s).1.client = some s.2.generation

/-- After a full cycle the process is in the set of the agent. -/
def KeptRegistered (s : Hook Nat × World) : Prop :=
  FullCycle s → ∀ a, (pass agentNet s).2.agent = some a → Protected s.1.pid a

theorem not_kept {s : Hook Nat × World} (hcycle : FullCycle s)
    (hsome : (pass agentNet s).2.agent.isSome)
    (hout : (pass agentNet s).2.agent.all (fun a => decide (Protected s.1.pid a)) = false) :
    ¬ KeptRegistered s := by
  intro hkept
  obtain ⟨a, ha⟩ := Option.isSome_iff_exists.mp hsome
  rw [ha, Option.all_some] at hout
  exact absurd (hkept hcycle a ha) (of_decide_eq_false hout)

/-- The agent runs and answers from the start. -/
def plainScript : List Beat :=
  [heard [.start] statusReply, heard [] statusReply, heard [] deniedReply, heard [] statusReply,
    heard [] statusReply]

/-- A registered process is not in the set of the next agent, after full
cycles as well. And a process whose thread has made the connection itself is
not registered. -/
theorem restarted_agent_lacks_pid :
    ((machine.run (start 100 noFiles, .initial restartScript)
      [.pass, .pass, .pass]).1.selfProtected = true ∧
      ¬ KeptRegistered
      (machine.run (start 100 noFiles, .initial restartScript) [.pass, .pass, .pass])) ∧
    ¬ KeptRegistered (machine.run (start 100 noFiles, .initial plainScript) [.pass]) := by
  refine ⟨⟨by decide +kernel, not_kept ⟨?_, ?_, ?_, ?_, ?_, ?_⟩ ?_ ?_⟩,
    not_kept ⟨?_, ?_, ?_, ?_, ?_, ?_⟩ ?_ ?_⟩
  all_goals decide +kernel

end Lota.L6.HookRegister

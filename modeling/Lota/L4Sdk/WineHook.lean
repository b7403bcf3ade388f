import Lota.L4Sdk.Snapshot

/-!
# The Wine hook (`sdk/lota_wine_hook.c`)

The hook is preloaded into a game and runs a thread that follows the agent. It
publishes the status in `lota-status`, and the token in a file of its own and
in the snapshot. The thread is a loop. A pass connects when there is no
connection, asks the agent to push events, and then polls for events or, when
the agent refuses to push, sleeps and refreshes.

The agent, the socket and their timing are a `Net`: each call takes the state
of the world to a new one and comes back with a reply. Whatever happens
between two calls, a restart of the agent as well, is part of the world.
Writing and removing files succeeds.

* `refreshOnce`, `pass`: the refresh cycle and one pass of the loop.
* `deliver`: the pushed events, also those that arrive while a callback waits
  for its token.
* `childAfterFork`: the child of a fork has no thread.
-/
namespace Lota.L4.WineHook
open Lota.Core Lota.L1.Report Lota.L4.Token Lota.L4.Gaming Lota.L4.Snapshot

/-! ## Replies -/

/-- mirrors include/lota_gaming.h:95-102 -/
structure LotaStatus where
  flags : UInt32
  lastAttestTime : UInt64
  validUntil : UInt64
  attestCount : UInt32
  failCount : UInt32
  deriving DecidableEq

def LotaStatus.zero : LotaStatus := ⟨0, 0, 0, 0, 0⟩

def LotaStatus.attested (s : LotaStatus) : Bool := s.flags &&& 1 != 0

/-- The whole answer of `lota_get_status`.
mirrors src/sdk/lota_gaming.c:582-628 -/
def readStatus (reply : Reply) : Except LotaError LotaStatus :=
  match recvResponse reply ipcStatusSize with
  | .error e => .error e
  | .ok payload =>
    .ok (if payload.length ≥ ipcStatusSize then
      { flags := UInt32.ofNat (leAt payload 0 4)
        lastAttestTime := UInt64.ofNat (leAt payload 8 8)
        validUntil := UInt64.ofNat (leAt payload 16 8)
        attestCount := UInt32.ofNat (leAt payload 24 4)
        failCount := UInt32.ofNat (leAt payload 28 4) }
      else .zero)

theorem getStatus_eq (reply : Reply) : getStatus reply = (readStatus reply).map LotaStatus.flags := by
  unfold getStatus readStatus
  cases recvResponse reply ipcStatusSize with
  | error e => rfl
  | ok payload =>
    simp only [Except.map, Except.ok.injEq]
    split <;> rfl

/-- `sizeof(struct lota_ipc_policy_update)`. -/
def ipcPolicyUpdateSize : Nat := 40

/-- mirrors src/sdk/lota_gaming.c:544-580 -/
def protectSelf (reply : Reply) : Except LotaError Unit :=
  (recvResponse reply ipcPolicyUpdateSize).map fun _ => ()

/-- mirrors src/sdk/lota_gaming.c:933-971 -/
def subscribe (reply : Reply) : Except LotaError Unit := (recvResponse reply 0).map fun _ => ()

/-! ## The files -/

/-- What `lota-status` says; time and PID of the writer are left out.
mirrors src/sdk/lota_wine_hook.c:419-442 -/
structure StatusFile where
  attested : Bool
  offline : Bool
  flags : UInt32
  validUntil : UInt64
  attestCount : UInt32
  failCount : UInt32
  deriving DecidableEq

structure Files where
  status : Option StatusFile
  token : Option Bytes
  snapshot : Option Bytes
  deriving DecidableEq

def statusPayload (status : LotaStatus) (offline : Bool) : StatusFile where
  attested := status.attested
  offline := offline
  flags := status.flags
  validUntil := status.validUntil
  attestCount := status.attestCount
  failCount := status.failCount

namespace Files

def writeStatusPayload (f : Files) (status : LotaStatus) (offline : Bool) : Files :=
  { f with status := some (statusPayload status offline) }

/-- mirrors src/sdk/lota_wine_hook.c:444-447 -/
def writeStatus (f : Files) (status : LotaStatus) : Files := f.writeStatusPayload status false

def unlinkTokens (f : Files) : Files := { f with token := none, snapshot := none }

/-- mirrors src/sdk/lota_wine_hook.c:562-572 -/
def publishOfflineStatus (f : Files) : Files := (f.writeStatusPayload .zero true).unlinkTokens

end Files

/-- The token of a reply, in wire format.
mirrors src/sdk/lota_wine_hook.c:475-499 -/
def fetchTokenWire (reply : Reply) : Except LotaError Bytes :=
  match getToken reply with
  | .error e => .error e
  | .ok token => token.serialize hookMaxToken

/-- The result of `write_snapshot` is not looked at.
mirrors src/sdk/lota_wine_hook.c:515-534 -/
def Files.writeToken (f : Files) (flags : UInt32) (reply : Reply) : Files :=
  match fetchTokenWire reply with
  | .error _ => f.unlinkTokens
  | .ok wire =>
    match writeSnapshot flags wire with
    | .error _ => { f with token := some wire }
    | .ok file => { f with token := some wire, snapshot := some file }

/-! ## Pushed events -/

/-- The events that a poll dispatches, in order. `during` arrive while the
callback of an event waits for the reply `token` to its token request, and are
dispatched from there. -/
inductive Notices where
  | nil
  | cons (status : LotaStatus) (during : Notices) (token : Reply) (rest : Notices)

/-- The files after the callbacks of the events.
mirrors src/sdk/lota_wine_hook.c:635-655 (`hook_status_cb`) -/
def deliver (f : Files) : Notices → Files
  | .nil => f
  | .cons status during token rest =>
    if status.attested then
      deliver ((deliver (f.writeStatus status) during).writeToken status.flags token) rest
    else deliver (f.writeStatus status).unlinkTokens rest

/-- What `lota_poll_events` counts. -/
def Notices.dispatched : Notices → Nat
  | .nil => 0
  | .cons _ _ _ rest => rest.dispatched + 1

/-- How a poll ends: at its deadline, with the peer gone, or with another
error. -/
inductive Ending where
  | deadline | reset | failed
  deriving DecidableEq

structure Polled where
  notices : Notices
  ending : Ending

/-- The result of `lota_poll_events`.
mirrors src/sdk/lota_gaming.c:986-1107 -/
def Polled.result (p : Polled) : Except LotaError Nat :=
  match p.ending with
  | .deadline => .ok p.notices.dispatched
  | .reset => if p.notices.dispatched > 0 then .ok p.notices.dispatched else .error .notConnected
  | .failed => .error .protocol

/-! ## The hook -/

/-- The calls of the hook, with connections `C` and worlds `W`. -/
structure Net (C W : Type) where
  connect : W → Option C × W
  protectSelf : C → UInt32 → W → Reply × W
  getStatus : C → W → Reply × W
  getToken : C → W → Reply × W
  subscribe : C → W → Reply × W
  poll : C → W → Polled × W

/-- The process, `g_hook`, the thread's `subscribed` and the files. -/
structure Hook (C : Type) where
  pid : UInt32
  running : Bool
  client : Option C
  subscribed : Bool
  selfProtected : Bool
  files : Files

variable {C W : Type}

/-- The hook when its thread starts. -/
def start (pid : UInt32) (files : Files) : Hook C where
  pid := pid
  running := true
  client := none
  subscribed := false
  selfProtected := false
  files := files

/-- mirrors src/sdk/lota_wine_hook.c:732-745 -/
def childAfterFork (h : Hook C) (child : UInt32) : Hook C :=
  { h with pid := child, running := false, client := none, selfProtected := false }

/-- The connection of a cycle: the one there is, or a new one, on which the
process registers unless it has done so before.
mirrors src/sdk/lota_wine_hook.c:579-610 -/
def openClient (net : Net C W) (h : Hook C) (w : W) : Hook C × W :=
  match h.client with
  | some _ => (h, w)
  | none =>
    match net.connect w with
    | (none, w₁) => ({ h with files := h.files.publishOfflineStatus }, w₁)
    | (some c, w₁) =>
      if h.selfProtected then ({ h with client := some c }, w₁)
      else
        let (reply, w₂) := net.protectSelf c h.pid w₁
        match protectSelf reply with
        | .ok () => ({ h with client := some c, selfProtected := true }, w₂)
        | .error _ => ({ h with client := some c }, w₂)

/-- mirrors src/sdk/lota_wine_hook.c:612-632 -/
def queryStatus (net : Net C W) (c : C) (h : Hook C) (w : W) : Hook C × W :=
  let (reply, w₁) := net.getStatus c w
  match readStatus reply with
  | .error _ => ({ h with client := none, files := h.files.publishOfflineStatus }, w₁)
  | .ok status =>
    if status.attested then
      let (token, w₂) := net.getToken c w₁
      ({ h with files := (h.files.writeStatus status).writeToken status.flags token }, w₂)
    else ({ h with files := (h.files.writeStatus status).unlinkTokens }, w₁)

/-- mirrors src/sdk/lota_wine_hook.c:574-633 (`refresh_once`) -/
def refreshOnce (net : Net C W) (h : Hook C) (w : W) : Hook C × W :=
  let (h₁, w₁) := openClient net h w
  match h₁.client with
  | none => (h₁, w₁)
  | some c => queryStatus net c h₁ w₁

/-- The top of the loop. The flag says that the pass goes on.
mirrors src/sdk/lota_wine_hook.c:679-704 -/
def connectPhase (net : Net C W) (h : Hook C) (w : W) : Bool × Hook C × W :=
  match h.client with
  | some _ => (true, h, w)
  | none =>
    match net.connect w with
    | (none, w₁) => (false, h, w₁)
    | (some c, w₁) =>
      let (h₂, w₂) := refreshOnce net { h with client := some c } w₁
      match h₂.client with
      | none => (true, { h₂ with subscribed := false }, w₂)
      | some c =>
        let (reply, w₃) := net.subscribe c w₂
        (true, { h₂ with subscribed := (subscribe reply).isOk }, w₃)

/-- A result that counts as a lost connection. -/
def isLost : Except LotaError Nat → Bool
  | .error .protocol => true
  | .error .notConnected => true
  | _ => false

/-- The rest of the loop.
mirrors src/sdk/lota_wine_hook.c:706-726 -/
def listenPhase (net : Net C W) (h : Hook C) (w : W) : Hook C × W :=
  let (ret, h₁, w₁) : Except LotaError Nat × Hook C × W :=
    if h.subscribed then
      match h.client with
      | none => (.error .notConnected, h, w)
      | some c =>
        let (polled, w₁) := net.poll c w
        (polled.result, { h with files := deliver h.files polled.notices }, w₁)
    else
      let (h₁, w₁) := refreshOnce net h w
      (if h₁.client.isSome then .ok 0 else .error .notConnected, h₁, w₁)
  if isLost ret then ({ h₁ with client := none, subscribed := false }, w₁) else (h₁, w₁)

/-- One pass of `while (g_hook.running)`.
mirrors src/sdk/lota_wine_hook.c:665-730 (`refresh_thread_fn`) -/
def pass (net : Net C W) (s : Hook C × W) : Hook C × W :=
  if s.1.running then
    match connectPhase net s.1 s.2 with
    | (false, h, w) => (h, w)
    | (true, h, w) => listenPhase net h w
  else s

/-! ## What the pieces do -/

section cases
variable (net : Net C W) (h : Hook C) (w : W)

theorem openClient_cases :
    (h.client.isSome ∧ openClient net h w = (h, w)) ∨
    (h.client = none ∧ (net.connect w).1 = none ∧
      openClient net h w = ({ h with files := h.files.publishOfflineStatus }, (net.connect w).2)) ∨
    (∃ c, h.client = none ∧ (net.connect w).1 = some c ∧
      ((h.selfProtected = true ∧
        openClient net h w = ({ h with client := some c }, (net.connect w).2)) ∨
       (h.selfProtected = false ∧ openClient net h w =
        ({ h with
            client := some c
            selfProtected := (protectSelf (net.protectSelf c h.pid (net.connect w).2).1).isOk },
          (net.protectSelf c h.pid (net.connect w).2).2)))) := by
  unfold openClient
  cases hc : h.client with
  | some c => exact .inl ⟨rfl, rfl⟩
  | none =>
    rcases hcon : net.connect w with ⟨oc, w₁⟩
    cases oc with
    | none => exact .inr (.inl ⟨rfl, rfl, rfl⟩)
    | some c =>
      refine .inr (.inr ⟨c, rfl, rfl, ?_⟩)
      cases hself : h.selfProtected with
      | true => exact .inl ⟨rfl, rfl⟩
      | false =>
        refine .inr ⟨rfl, ?_⟩
        simp only [Bool.false_eq_true, if_false]
        cases hreply : protectSelf (net.protectSelf c h.pid w₁).1 with
        | ok _ => rfl
        | error e => simp only [Except.isOk, Except.toBool]

/-- A query keeps the connection, or gives it up and publishes. -/
theorem queryStatus_cases (c : C) :
    ((∃ e, readStatus (net.getStatus c w).1 = .error e) ∧
      queryStatus net c h w = ({ h with client := none, files := h.files.publishOfflineStatus },
        (net.getStatus c w).2)) ∨
    (∃ status files, readStatus (net.getStatus c w).1 = .ok status ∧
      ((status.attested = true ∧
        queryStatus net c h w = ({ h with files }, (net.getToken c (net.getStatus c w).2).2)) ∨
       (status.attested = false ∧
         queryStatus net c h w = ({ h with files }, (net.getStatus c w).2)))) := by
  unfold queryStatus
  cases hreply : readStatus (net.getStatus c w).1 with
  | error e => exact .inl ⟨⟨e, rfl⟩, by simp only [hreply]⟩
  | ok status =>
    simp only [hreply]
    cases hatt : status.attested with
    | true => exact .inr ⟨status, _, rfl, .inl ⟨hatt, rfl⟩⟩
    | false => exact .inr ⟨status, _, rfl, .inr ⟨hatt, rfl⟩⟩

theorem refreshOnce_eq :
    refreshOnce net h w =
      match (openClient net h w).1.client with
      | none => openClient net h w
      | some c => queryStatus net c (openClient net h w).1 (openClient net h w).2 := rfl

theorem connectPhase_cases :
    (h.client.isSome ∧ connectPhase net h w = (true, h, w)) ∨
    (h.client = none ∧ (net.connect w).1 = none ∧
      connectPhase net h w = (false, h, (net.connect w).2)) ∨
    (∃ c x, h.client = none ∧ (net.connect w).1 = some c ∧
      x = refreshOnce net { h with client := some c } (net.connect w).2 ∧
      ((x.1.client = none ∧ connectPhase net h w = (true, { x.1 with subscribed := false }, x.2)) ∨
       (∃ c', x.1.client = some c' ∧ connectPhase net h w =
        (true, { x.1 with subscribed := (subscribe (net.subscribe c' x.2).1).isOk },
          (net.subscribe c' x.2).2)))) := by
  unfold connectPhase
  cases hc : h.client with
  | some c => exact .inl ⟨rfl, rfl⟩
  | none =>
    rcases hcon : net.connect w with ⟨oc, w₁⟩
    cases oc with
    | none => exact .inr (.inl ⟨rfl, rfl, rfl⟩)
    | some c =>
      refine .inr (.inr ⟨c, _, rfl, rfl, rfl, ?_⟩)
      dsimp only
      rcases refreshOnce net { h with client := some c } w₁ with ⟨h₂, w₂⟩
      cases hc₂ : h₂.client with
      | none => exact .inl ⟨rfl, rfl⟩
      | some c' => exact .inr ⟨c', rfl, rfl⟩

/-- Behind the connection: the poll or the refresh, and the connection given up
when it is lost. -/
theorem listenPhase_cases :
    (h.subscribed = true ∧ h.client = none ∧
      listenPhase net h w = ({ h with client := none, subscribed := false }, w)) ∨
    (∃ c h₁, h.subscribed = true ∧ h.client = some c ∧
      h₁ = { h with files := deliver h.files (net.poll c w).1.notices } ∧
      (listenPhase net h w = (h₁, (net.poll c w).2) ∨
        listenPhase net h w = ({ h₁ with client := none, subscribed := false }, (net.poll c w).2))) ∨
    (∃ x, h.subscribed = false ∧ x = refreshOnce net h w ∧
      ((x.1.client.isSome ∧ listenPhase net h w = x) ∨
        (x.1.client = none ∧ listenPhase net h w = ({ x.1 with subscribed := false }, x.2)))) := by
  unfold listenPhase
  cases hsub : h.subscribed with
  | true =>
    cases hc : h.client with
    | none => exact .inl ⟨rfl, rfl, rfl⟩
    | some c =>
      refine .inr (.inl ⟨c, _, rfl, rfl, rfl, ?_⟩)
      simp only [if_true]
      cases hlost : isLost (net.poll c w).1.result with
      | true => exact .inr (if_pos rfl)
      | false => exact .inl (if_neg (by decide))
  | false =>
    refine .inr (.inr ⟨_, rfl, rfl, ?_⟩)
    rcases refreshOnce net h w with ⟨h₁, w₁⟩
    cases hc₁ : h₁.client with
    | some c => exact .inl ⟨rfl, by simp [hc₁, isLost]⟩
    | none =>
      refine .inr ⟨rfl, ?_⟩
      simp only [hc₁, Option.isSome_none, Bool.false_eq_true, if_false, isLost, if_true]

end cases

end Lota.L4.WineHook

import Lota.Core.Machine
import Lota.L6Agent.Config

/-!
# Reloading the configuration (`agent/reload.c`)

A reload that would leave ENFORCE mode needs a signature over the
configuration, under the key that `policy_pubkey` of the running
configuration names. The file is read twice through one descriptor: once to
be parsed and once for the signature. Every reload that is applied takes over
the `policy_pubkey` of the new configuration, signed or not.

The contents of the configuration and of its signature are inputs of every
call, and the second read need not return what the first did. Key files do
not change. Which keys an authorised configuration has installed is kept next
to the agent, for the statement only.

* `verifyDowngrade_ok`, `reload_spec`: what a call does.
* `leaves_enforce_signed`: in every run of calls that meet `Sound`, ENFORCE is
  left only by a configuration that carries a signature under a trusted key.
* `unsigned_key_swap`: a run that leaves ENFORCE without one.
-/
namespace Lota.L6.Reload
open Lota.Core Lota.L6.ConfigFile

inductive Errno where
  | enoent | einval | eio | eperm | eauth
  /-- Another error of a system call. -/
  | other
  deriving DecidableEq, Repr

inductive Mode where
  | monitor | enforce | maintenance
  deriving DecidableEq, Repr

/-- mirrors src/agent/main_utils.c:44-53 -/
def parseMode (modeStr : Text) : Option Mode :=
  if modeStr = "monitor".toList then some .monitor
  else if modeStr = "enforce".toList then some .enforce
  else if modeStr = "maintenance".toList then some .maintenance
  else none

/-- What `fstat` says of the configuration. -/
structure Stat where
  regular : Bool
  /-- `S_IWGRP` or `S_IWOTH` -/
  othersWrite : Bool
  uid : Nat

/-- What one call finds. -/
structure Call where
  opened : Except Errno Unit
  stat : Except Errno Stat
  euid : Nat
  /-- The bytes that are parsed, and whether reading them failed. -/
  data : Bytes
  readFailed : Bool
  /-- The bytes that the signature is checked on. -/
  reread : Except Errno Bytes
  /-- The contents of the signature file. -/
  sig : Except Errno Bytes
  setModeOk : Bool

def policySigSize : Nat := 64

/-- Ed25519 and the key files. -/
structure Crypto (Key : Type) where
  /-- `load_pubkey` -/
  loadPubkey : Text → Option Key
  ed25519Verify : Key → Bytes → Bytes → Bool

/-- The mode, and the `policy_pubkey` of the configuration in force. -/
structure Agent where
  mode : Mode
  policyPubkey : Text
  deriving DecidableEq

section
variable {Key : Type} (C : Crypto Key)

/-- mirrors src/agent/config.c:133-185 -/
def validateFileSecurity (call : Call) : Except Errno Unit :=
  match call.stat with
  | .error e => .error e
  | .ok st =>
    if st.regular = false then .error .einval
    else if st.othersWrite = true then .error .eperm
    else if call.euid = 0 then (if st.uid ≠ 0 then .error .eperm else .ok ())
    else if st.uid ≠ call.euid ∧ st.uid ≠ 0 then .error .eperm
    else .ok ()

/-- mirrors src/agent/config.c:658-690 -/
def configLoadFromFd (call : Call) : Except Errno Config :=
  match validateFileSecurity call with
  | .error e => .error e
  | .ok () =>
    if call.readFailed then .error .eio
    else match loadStream call.data with
      | none => .error .einval
      | some cfg => .ok cfg

/-- mirrors src/agent/policy_sign.c:297-331; an empty file has no buffer. -/
def policyVerifyBuffer (data : Bytes) (pubkeyPath : Text) (sig : Bytes) : Except Errno Unit :=
  if data = [] then .error .einval
  else match C.loadPubkey pubkeyPath with
    | none => .error .enoent
    | some key => if C.ed25519Verify key data sig = false then .error .eauth else .ok ()

/-- mirrors src/agent/reload.c:91-174 -/
def verifyReloadDowngradeAuthorizationFd (agent : Agent) (call : Call) : Except Errno Unit :=
  if agent.policyPubkey = [] then .error .eauth
  else match call.reread with
    | .error e => .error e
    | .ok data =>
      match call.sig with
      | .error e => .error e
      | .ok sig =>
        if sig.length ≠ policySigSize then .error .eauth
        else policyVerifyBuffer C data agent.policyPubkey sig

/-- The parsed mode asks to leave ENFORCE. -/
def downgrade (agent : Agent) (newMode : Option Mode) : Bool :=
  agent.mode = .enforce && (newMode = some .monitor || newMode = some .maintenance)

/-- The mode after a configuration that is applied. -/
def applyMode (agent : Agent) (call : Call) (newMode : Option Mode) : Mode :=
  match newMode with
  | none => agent.mode
  | some m => if m ≠ agent.mode then (if call.setModeOk then m else agent.mode) else agent.mode

/-- mirrors src/agent/reload.c:506-627, mode and key -/
def agentReloadConfig (agent : Agent) (call : Call) : Agent × Except Errno Unit :=
  match call.opened with
  | .error e => if e = .enoent then (agent, .ok ()) else (agent, .error e)
  | .ok () =>
    match configLoadFromFd call with
    | .error e => (agent, .error e)
    | .ok newCfg =>
      let newMode := parseMode newCfg.mode
      let authorized :=
        if downgrade agent newMode then verifyReloadDowngradeAuthorizationFd C agent call else .ok ()
      match authorized with
      | .error e => (agent, .error e)
      | .ok () =>
        ({ mode := applyMode agent call newMode, policyPubkey := newCfg.policyPubkey }, .ok ())

/-! ## Runs -/

/-- The agent, and the keys that the statement trusts. -/
structure Sys (Key : Type) where
  agent : Agent
  trusted : List Key

/-- The parsed bytes carry a signature under one of the keys. -/
def Signed (trusted : List Key) (call : Call) : Prop :=
  ∃ key ∈ trusted, ∃ sig, call.sig = .ok sig ∧ sig.length = policySigSize ∧
    C.ed25519Verify key call.data sig = true

instance [DecidableEq Key] (trusted : List Key) (call : Call) : Decidable (Signed C trusted call) :=
  match h : call.sig with
  | .error _ => isFalse fun ⟨_, _, _, hsig, _⟩ => by rw [h] at hsig; cases hsig
  | .ok sig =>
    if hall : sig.length = policySigSize ∧ ∃ key ∈ trusted, C.ed25519Verify key call.data sig = true
      then
      isTrue (by
        obtain ⟨hlen, key, hmem, hv⟩ := hall
        exact ⟨key, hmem, sig, h, hlen, hv⟩)
    else
      isFalse fun ⟨key, hmem, sig', hsig, hlen, hv⟩ => hall (by
        rw [h] at hsig
        cases hsig
        exact ⟨hlen, key, hmem, hv⟩)

/-- The configuration that a call applies, if any. -/
def applied (agent : Agent) (call : Call) : Option Config :=
  match call.opened, configLoadFromFd call with
  | .ok (), .ok newCfg =>
    if downgrade agent (parseMode newCfg.mode) then
      match verifyReloadDowngradeAuthorizationFd C agent call with
      | .ok () => some newCfg
      | .error _ => none
    else some newCfg
  | _, _ => none

variable [DecidableEq Key]

/-- The key of a configuration that is applied and signed is trusted from then
on. -/
def step (s : Sys Key) (call : Call) : Sys Key × Except Errno Unit :=
  let trusted := match applied C s.agent call with
    | none => s.trusted
    | some cfg =>
      if Signed C s.trusted call then (C.loadPubkey cfg.policyPubkey).toList ++ s.trusted else s.trusted
  ({ agent := (agentReloadConfig C s.agent call).1, trusted }, (agentReloadConfig C s.agent call).2)

def machine : Machine (Sys Key) Call (Except Errno Unit) := ⟨step C⟩

/-- ENFORCE with the key `K` of `policyPubkey`. -/
def start (policyPubkey : Text) : Sys Key :=
  { agent := { mode := .enforce, policyPubkey }, trusted := (C.loadPubkey policyPubkey).toList }

/-- ENFORCE is left only in calls whose parsed bytes carry a signature under a
trusted key. -/
def LeavesOnlySigned (s : Sys Key) (calls : List Call) : Prop :=
  ∀ before call after, calls = before ++ call :: after →
    ((machine C).run s before).agent.mode = .enforce →
    ((machine C).run s (before ++ [call])).agent.mode ≠ .enforce →
    Signed C ((machine C).run s before).trusted call

/-- The condition on a call. A configuration that asks for no signature is
signed all the same, or it names no key or one that is trusted; and where a
signature is asked for, the second read returns the parsed bytes. -/
structure Sound (s : Sys Key) (call : Call) : Prop where
  key : ∀ cfg key, call.opened = .ok () → configLoadFromFd call = .ok cfg →
    downgrade s.agent (parseMode cfg.mode) = false → cfg.policyPubkey ≠ [] →
    C.loadPubkey cfg.policyPubkey = some key → key ∈ s.trusted ∨ Signed C s.trusted call
  reread : ∀ cfg, call.opened = .ok () → configLoadFromFd call = .ok cfg →
    downgrade s.agent (parseMode cfg.mode) = true → call.reread = .ok call.data

end

/-! ## What a call does -/

section
variable {Key : Type} {C : Crypto Key} {agent : Agent} {call : Call}

/-- An authorised downgrade: the bytes of the second read carry a signature
under the key in force. -/
theorem verifyDowngrade_ok (h : verifyReloadDowngradeAuthorizationFd C agent call = .ok ()) :
    agent.policyPubkey ≠ [] ∧ ∃ data sig key, call.reread = .ok data ∧ call.sig = .ok sig ∧
      sig.length = policySigSize ∧ C.loadPubkey agent.policyPubkey = some key ∧
      C.ed25519Verify key data sig = true := by
  unfold verifyReloadDowngradeAuthorizationFd at h
  obtain ⟨hkey, h⟩ := except_guard_ok.mp h
  refine ⟨hkey, ?_⟩
  cases hr : call.reread with
  | error e => rw [hr] at h; cases h
  | ok data =>
    simp only [hr] at h
    cases hs : call.sig with
    | error e => rw [hs] at h; cases h
    | ok sig =>
      simp only [hs] at h
      obtain ⟨hlen, h⟩ := except_guard_ok.mp h
      unfold policyVerifyBuffer at h
      obtain ⟨-, h⟩ := except_guard_ok.mp h
      cases hk : C.loadPubkey agent.policyPubkey with
      | none => rw [hk] at h; cases h
      | some key =>
        simp only [hk] at h
        obtain ⟨hv, -⟩ := except_guard_ok.mp h
        exact ⟨data, sig, key, rfl, rfl, Decidable.not_not.mp hlen, rfl, Bool.of_not_eq_false hv⟩

/-- **A call.** It changes nothing, or it applies a configuration that asks
for no signature or is authorised. -/
theorem reload_spec (C : Crypto Key) (agent : Agent) (call : Call) :
    (applied C agent call = none ∧ (agentReloadConfig C agent call).1 = agent) ∨
      ∃ cfg, applied C agent call = some cfg ∧ call.opened = .ok () ∧ configLoadFromFd call = .ok cfg ∧
        (agentReloadConfig C agent call).1 =
          { mode := applyMode agent call (parseMode cfg.mode), policyPubkey := cfg.policyPubkey } ∧
        (downgrade agent (parseMode cfg.mode) = false ∨
          downgrade agent (parseMode cfg.mode) = true ∧
          verifyReloadDowngradeAuthorizationFd C agent call = .ok ()) := by
  unfold applied agentReloadConfig
  cases ho : call.opened with
  | error e =>
    refine .inl ⟨rfl, ?_⟩
    simp only
    split
    · rfl
    · rfl
  | ok u =>
    cases hc : configLoadFromFd call with
    | error e => exact .inl ⟨rfl, rfl⟩
    | ok cfg =>
      simp only
      cases hd : downgrade agent (parseMode cfg.mode) with
      | false => exact .inr ⟨cfg, rfl, trivial, rfl, rfl, .inl hd⟩
      | true =>
        cases hv : verifyReloadDowngradeAuthorizationFd C agent call with
        | error e => exact .inl ⟨rfl, rfl⟩
        | ok u => exact .inr ⟨cfg, rfl, trivial, rfl, rfl, .inr ⟨hd, rfl⟩⟩

/-- Without a downgrade ENFORCE stays. -/
theorem applyMode_enforce {newMode : Option Mode} (hm : agent.mode = .enforce)
    (hd : downgrade agent newMode = false) : applyMode agent call newMode = .enforce := by
  unfold downgrade at hd
  unfold applyMode
  cases newMode with
  | none => exact hm
  | some m =>
    cases m with
    | enforce =>
      simp only [hm, ne_eq, not_true, if_false]
    | monitor => simp [hm] at hd
    | maintenance => simp [hm] at hd

end

/-! ## Every run -/

section
variable {Key : Type} {C : Crypto Key}

/-- The key in force is trusted. -/
def KeyTrusted (C : Crypto Key) (s : Sys Key) : Prop :=
  s.agent.policyPubkey ≠ [] → ∀ key, C.loadPubkey s.agent.policyPubkey = some key → key ∈ s.trusted

/-- With the key in force trusted and the same bytes read twice, an authorised
downgrade is signed. -/
theorem signed_of_verify {s : Sys Key} {call : Call} (hk : KeyTrusted C s)
    (hr : call.reread = .ok call.data)
    (h : verifyReloadDowngradeAuthorizationFd C s.agent call = .ok ()) : Signed C s.trusted call := by
  obtain ⟨hne, data, sig, key, hdata, hsig, hlen, hload, hv⟩ := verifyDowngrade_ok h
  rw [hr] at hdata
  rw [← Except.ok.inj hdata] at hv
  exact ⟨key, hk hne key hload, sig, hsig, hlen, hv⟩

variable [DecidableEq Key]

/-- **Step.** A sound call keeps the key in force trusted, and leaves ENFORCE
only with a signature. -/
theorem step_spec {s : Sys Key} {call : Call} (hk : KeyTrusted C s) (hs : Sound C s call) :
    KeyTrusted C (step C s call).1 ∧
      (s.agent.mode = .enforce → (step C s call).1.agent.mode ≠ .enforce →
        Signed C s.trusted call) := by
  rcases reload_spec C s.agent call with ⟨hnone, hsame⟩ | ⟨cfg, happ, hopen, hcfg, hnew, hcase⟩
  · have hstep : (step C s call).1 = s := by
      unfold step
      simp only [hnone, hsame]
    rw [hstep]
    exact ⟨hk, fun hm hne => absurd hm hne⟩
  · -- Signed, or the key is trusted already.
    have hsigned : downgrade s.agent (parseMode cfg.mode) = true → Signed C s.trusted call := by
      intro hd
      rcases hcase with hno | ⟨-, hv⟩
      · rw [hd] at hno
        cases hno
      · exact signed_of_verify hk (hs.reread cfg hopen hcfg hd) hv
    have hagent : (step C s call).1.agent =
        { mode := applyMode s.agent call (parseMode cfg.mode), policyPubkey := cfg.policyPubkey } :=
          hnew
    have htrusted : (step C s call).1.trusted =
        if Signed C s.trusted call then (C.loadPubkey cfg.policyPubkey).toList ++ s.trusted
          else s.trusted := by
      unfold step
      simp only [happ]
    refine ⟨?_, ?_⟩
    · intro hne key hload
      rw [hagent] at hne hload
      simp only at hne hload
      rw [htrusted]
      by_cases hsig : Signed C s.trusted call
      · rw [if_pos hsig, hload]
        exact List.mem_append_left _ List.mem_cons_self
      · rw [if_neg hsig]
        cases hd : downgrade s.agent (parseMode cfg.mode) with
        | true => exact absurd (hsigned hd) hsig
        | false => exact (hs.key cfg key hopen hcfg hd hne hload).resolve_right hsig
    · intro hm hne
      rw [hagent] at hne
      cases hd : downgrade s.agent (parseMode cfg.mode) with
      | true => exact hsigned hd
      | false => exact absurd (applyMode_enforce hm hd) hne

theorem run_keyTrusted {s : Sys Key} {calls : List Call} (hk : KeyTrusted C s)
    (hs : (machine C).AllSteps (Sound C) s calls) : KeyTrusted C ((machine C).run s calls) := by
  refine Machine.run_inv (M := machine C) (P := Sound C) (J := KeyTrusted C) ?_ hk hs
  intro s call hk hs
  exact (step_spec hk hs).1

/-- **Leaving ENFORCE.** Over every run of sound calls that starts in ENFORCE
with a key, ENFORCE is left only in calls whose parsed bytes carry a signature
under that key or under one that such a configuration has installed. -/
theorem leaves_enforce_signed (C : Crypto Key) (policyPubkey : Text) (calls : List Call)
    (hs : (machine C).AllSteps (Sound C) (start C policyPubkey) calls) :
    LeavesOnlySigned C (start C policyPubkey) calls := by
  intro before call after heq hm hleft
  rw [heq] at hs
  obtain ⟨hbefore, hcall⟩ := Machine.allSteps_append.mp hs
  have hk : KeyTrusted C (start C policyPubkey) := by
    intro _ key hload
    have hmem : key ∈ (C.loadPubkey policyPubkey).toList := by
      rw [show C.loadPubkey policyPubkey = some key from hload]
      exact List.mem_cons_self
    exact hmem
  have hrun := run_keyTrusted hk hbefore
  rw [Machine.run_append] at hleft
  exact (step_spec hrun hcall.1).2 hm hleft

end

/-! ## A key that nobody signed -/

def monitorConf : Bytes := ascii "mode = monitor\n"

def operatorPub : Bytes :=
  [0xbd, 0xa6, 0x6d, 0xbf, 0x8a, 0xbd, 0x52, 0x1b, 0xa5, 0x71, 0xb6, 0xbf, 0x47, 0xf2, 0x57, 0xcc,
   0x77, 0xe0, 0x2f, 0xa6, 0x75, 0xe2, 0x16, 0x02, 0x64, 0x5f, 0x95, 0x28, 0x28, 0xe4, 0x9f, 0xdf]

def evilPub : Bytes :=
  [0xf6, 0x5e, 0xda, 0x84, 0xf9, 0xf4, 0x4e, 0xdc, 0x87, 0x1c, 0xdf, 0x3a, 0xe1, 0xf6, 0x3e, 0x82,
   0xb0, 0x24, 0x64, 0x4b, 0x64, 0xc6, 0x7f, 0x54, 0x4e, 0x42, 0x23, 0xfd, 0x73, 0xfb, 0xe3, 0x26]

/-- The Ed25519 signature of `monitorConf` under `operatorPub`. -/
def operatorSig : Bytes :=
  [0x1d, 0x4d, 0xcb, 0xb9, 0x61, 0x46, 0x24, 0x6c, 0xc9, 0x10, 0x24, 0x6f, 0x5e, 0x47, 0xdf, 0x2b,
   0x69, 0x33, 0xba, 0x45, 0xa8, 0x80, 0xb8, 0xe1, 0x9e, 0x3e, 0x79, 0x1b, 0xd0, 0x18, 0xab, 0xba,
   0xe7, 0x4b, 0x62, 0xe1, 0xaa, 0xab, 0xa7, 0x76, 0x31, 0xf6, 0xb7, 0x11, 0x75, 0x4c, 0x42, 0x49,
   0x76, 0x88, 0x4d, 0xe9, 0xbd, 0x86, 0xd5, 0x2a, 0xb8, 0x26, 0xd8, 0xb3, 0xbd, 0x9e, 0x35, 0x02]

/-- The same under `evilPub`. -/
def evilSig : Bytes :=
  [0xae, 0x32, 0xb8, 0x83, 0xad, 0xd1, 0x5c, 0xfe, 0x2b, 0xce, 0xa8, 0xcc, 0x27, 0x48, 0xa8, 0x10,
   0x33, 0x5a, 0x0e, 0x6d, 0xed, 0x6a, 0x63, 0xca, 0xbb, 0x92, 0x1c, 0x65, 0xa8, 0x31, 0xf9, 0x95,
   0x78, 0xbc, 0x1e, 0x0b, 0x81, 0xfc, 0xa9, 0x20, 0x8e, 0x57, 0x52, 0xd8, 0x15, 0x69, 0xcb, 0x1a,
   0x85, 0xf8, 0x89, 0x41, 0x92, 0x01, 0xe9, 0xe0, 0x63, 0x4f, 0xcc, 0x6e, 0x2d, 0x26, 0xe2, 0x07]

/-- The key files and Ed25519 as they answer on these bytes. -/
def sampleCrypto : Crypto Bytes where
  loadPubkey := fun path =>
    if path = "/etc/lota/policy.pub".toList then some operatorPub
    else if path = "/tmp/evil.pub".toList then some evilPub
    else none
  ed25519Verify := fun key data sig =>
    data = monitorConf && (key = operatorPub && sig = operatorSig || key = evilPub && sig = evilSig)

/-- A call of a root agent on a file of root's, with a signature file. -/
def callOf (data : Bytes) (sig : Bytes) : Call where
  opened := .ok ()
  stat := .ok { regular := true, othersWrite := false, uid := 0 }
  euid := 0
  data := data
  readFailed := false
  reread := .ok data
  sig := .ok sig
  setModeOk := true

def operatorStart : Sys Bytes := start sampleCrypto "/etc/lota/policy.pub".toList

/-- A configuration that the operator has signed leaves ENFORCE, as the
theorem says. -/
theorem leaves_enforce_signed_operator :
    ((machine sampleCrypto).run operatorStart [callOf monitorConf operatorSig]).agent.mode = .monitor ∧
      Signed sampleCrypto operatorStart.trusted (callOf monitorConf operatorSig) := by
  have hsound : Sound sampleCrypto operatorStart (callOf monitorConf operatorSig) := by
    refine ⟨?_, fun _ _ _ _ => rfl⟩
    intro cfg key _ hcfg hd
    have hmode : configLoadFromFd (callOf monitorConf operatorSig) =
        .ok { configInit with mode := "monitor".toList } := by decide +kernel
    rw [hmode] at hcfg
    rw [← Except.ok.inj hcfg] at hd
    exact absurd hd (by decide)
  have hmode :
      ((machine sampleCrypto).run operatorStart [callOf monitorConf operatorSig]).agent.mode =
      .monitor := by
    decide +kernel
  have hleft :
      ((machine sampleCrypto).run operatorStart
        ([] ++ [callOf monitorConf operatorSig])).agent.mode ≠ .enforce := by
    rw [List.nil_append, hmode]
    decide
  refine ⟨hmode, ?_⟩
  exact leaves_enforce_signed sampleCrypto "/etc/lota/policy.pub".toList
    [callOf monitorConf operatorSig]
    ⟨hsound, trivial⟩ [] _ [] rfl rfl hleft

/-- A configuration that stays in ENFORCE and names another key. -/
def swapConf : Bytes := ascii "mode = enforce\npolicy_pubkey = /tmp/evil.pub\n"

/-- It is applied without a signature; the next one, signed with the new key,
leaves ENFORCE, and no key that was authorised has signed it. -/
theorem unsigned_key_swap :
    ¬ LeavesOnlySigned sampleCrypto operatorStart [callOf swapConf [], callOf monitorConf evilSig] := by
  intro hleaves
  -- one evaluation for all three, since they share the first call
  have hrun : ((machine sampleCrypto).run operatorStart [callOf swapConf []]).agent.mode = .enforce ∧
      ((machine sampleCrypto).run operatorStart
        ([callOf swapConf []] ++ [callOf monitorConf evilSig])).agent.mode ≠ .enforce ∧
      ¬ Signed sampleCrypto ((machine sampleCrypto).run operatorStart [callOf swapConf []]).trusted
        (callOf monitorConf evilSig) := by
    decide +kernel
  obtain ⟨hbefore, hafter, hnot⟩ := hrun
  exact hnot (hleaves [callOf swapConf []] (callOf monitorConf evilSig) [] rfl hbefore hafter)

end Lota.L6.Reload

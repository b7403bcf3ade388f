import Lota.Core.Machine
import Lota.L4Sdk.IpcToken
import Lota.L4Sdk.Snapshot

/-!
# Ticks of the anti-cheat layer (`sdk/lota_anticheat.c`)

`lota_ac_tick` renews the flags and the token of a session, from the agent in
direct mode and from the snapshot of the Wine hook in file mode. In file mode
a snapshot that cannot be read clears both. In direct mode only a failed token
request clears the token. A failed status request leaves flags and token of an
earlier tick, and a token that does not fit leaves the earlier token.

* `tick_fresh_iff`: when one tick leaves what it got, and nothing else.
* `ticks_fresh_iff`: over every run of ticks and heartbeats.
* `stale_token_kept`: both ways to keep a token.
-/
namespace Lota.L4.AcTick
open Lota.Core Lota.L1.Report Lota.L4.Token Lota.L4.Gaming Lota.L4.Heartbeat Lota.L4.Snapshot

/-- `struct lota_ac_session` with what file mode adds; the paths are part of
the environment. -/
structure TickSession extends Session where
  snapshotWarned : Bool
  deriving DecidableEq

/-- What one tick meets: the replies to `GET_STATUS` and `GET_TOKEN` in direct
mode, the snapshot in file mode. -/
structure TickEnv where
  status : Reply
  token : Reply
  snapshot : Except Errno Bytes

/-! ## A session -/

/-- `struct lota_ac_config`, without interval and paths. -/
structure AcConfig where
  provider : Provider
  gameId : Bytes
  requiredFlags : UInt32
  direct : Bool

/-- What `lota_ac_init` meets: a random session ID, the hash of the game ID,
and whether the agent (direct mode) or the token directory (file mode) was
found. -/
structure InitEnv where
  sessionId : Option (Blob 16)
  gameIdHash : Option Hash
  found : Bool

def acMaxGameId : Nat := 64

/-- The session before its first tick. `lota_ac_init` makes that tick itself
when the session is running; it is the first event of a run.
mirrors src/sdk/lota_anticheat.c:960-1025 -/
def acInit (cfg : AcConfig) (env : InitEnv) : Option TickSession :=
  if cfg.gameId.length = 0 then none
  else if cfg.gameId.length ≥ acMaxGameId then none
  else do
    let sessionId ← env.sessionId
    let gameIdHash ← env.gameIdHash
    pure {
      provider := cfg.provider
      state := if env.found then .running else .error
      sessionId
      gameIdHash
      lastHeartbeat := 0
      heartbeatSeq := 0
      requiredFlags := cfg.requiredFlags
      lotaFlags := 0
      direct := cfg.direct
      connected := cfg.direct && env.found
      tokenBuf := []
      snapshotWarned := false }

/-! ## A tick -/

/-- mirrors src/sdk/lota_anticheat.c:1121-1129 -/
def updateState (s : TickSession) : TickSession :=
  { s with state :=
      if s.tokenBuf.length > 0 ∨ s.lotaFlags ≠ 0 then
        if isTrusted s.lotaFlags s.requiredFlags then .trusted else .untrusted
      else .error }

/-- mirrors src/sdk/lota_anticheat.c:1080-1106 -/
def tickDirect (s : TickSession) (env : TickEnv) : TickSession × Except Errno Unit :=
  if s.connected = false then ({ s with state := .error }, .error .enotconn)
  else match getStatus env.status with
  | .error _ => ({ s with state := .error }, .error .eio)
  | .ok flags =>
    let s₁ := { s with lotaFlags := flags }
    match getToken env.token with
    | .ok token =>
      -- the result of `lota_token_serialize` is not looked at
      if token.serializedSize ≤ acMaxToken then
        match token.serialize acMaxToken with
        | .ok buf => (updateState { s₁ with tokenBuf := buf }, .ok ())
        | .error _ => (updateState s₁, .ok ())
      else (updateState s₁, .ok ())
    | .error _ => (updateState { s₁ with tokenBuf := [] }, .ok ())

/-- mirrors src/sdk/lota_anticheat.c:1107-1119 -/
def tickFile (s : TickSession) (env : TickEnv) : TickSession × Except Errno Unit :=
  match readSnapshot env.snapshot with
  | .ok (flags, token) => (updateState { s with lotaFlags := flags, tokenBuf := token }, .ok ())
  | .error _ => (updateState { s with lotaFlags := 0, tokenBuf := [], snapshotWarned := true }, .ok ())

/-- mirrors src/sdk/lota_anticheat.c:1073-1132 (`lota_ac_tick`) -/
def tick (s : TickSession) (env : TickEnv) : TickSession × Except Errno Unit :=
  if s.state = .idle then (s, .error .einval)
  else if s.direct then tickDirect s env
  else tickFile s env

/-- The two calls that touch flags and token. -/
inductive Event where
  | tick (env : TickEnv)
  | heartbeat (buflen : Nat) (env : Env)

def step (s : TickSession) : Event → TickSession × Unit
  | .tick env => ((tick s env).1, ())
  | .heartbeat buflen env => ({ s with toSession := (heartbeat s.toSession buflen env).1 }, ())

def machine : Machine TickSession Event Unit := ⟨step⟩

/-! ## What a tick should leave -/

/-- The token, in wire format, and the flags that a tick gets; no answer is no
token and no flags. -/
def obtained (s : TickSession) (env : TickEnv) : Option Bytes × UInt32 :=
  if s.direct then
    if s.connected = false then (none, 0)
    else match getStatus env.status with
    | .error _ => (none, 0)
    | .ok flags => ((getToken env.token).toOption.map LotaToken.bytes, flags)
  else match readSnapshot env.snapshot with
    | .error _ => (none, 0)
    | .ok (flags, token) => (some token, flags)

/-- The buffer is empty or has the token of this tick, the flags are the ones
of this tick. -/
def Fresh (s : TickSession) : Event → Prop
  | .tick env =>
    ((tick s env).1.tokenBuf = [] ∨ (obtained s env).1 = some (tick s env).1.tokenBuf) ∧
      (tick s env).1.lotaFlags = (obtained s env).2
  | .heartbeat _ _ => True

/-- A direct-mode tick that is refused the status finds nothing to keep, and
one that gets a token it has no room for finds no earlier token. -/
def NothingKept (s : TickSession) : Event → Prop
  | .tick env => s.direct = true → s.connected = true →
    (∀ e, getStatus env.status = .error e → s.tokenBuf = [] ∧ s.lotaFlags = 0) ∧
    (∀ flags t, getStatus env.status = .ok flags → getToken env.token = .ok t →
      t.serializedSize ≤ acMaxToken ∨ s.tokenBuf = [])
  | .heartbeat _ _ => True

/-! ## Reachable sessions -/

structure Live (s : TickSession) : Prop where
  started : s.state ≠ .idle
  fits : s.tokenBuf.length ≤ acMaxToken
  unconnected : s.direct = true → s.connected = false → s.tokenBuf = [] ∧ s.lotaFlags = 0

theorem acInit_live {cfg : AcConfig} {env : InitEnv} {s : TickSession}
    (h : acInit cfg env = some s) : Live s := by
  unfold acInit at h
  split at h
  · cases h
  split at h
  · cases h
  simp only [Option.bind_eq_bind, Option.bind_eq_some_iff, Option.pure_def, Option.some.injEq] at h
  obtain ⟨sessionId, -, gameIdHash, -, rfl⟩ := h
  refine ⟨?_, Nat.zero_le _, fun _ _ => ⟨rfl, rfl⟩⟩
  simp only
  split <;> decide

theorem updateState_started (s : TickSession) : (updateState s).state ≠ .idle := by
  unfold updateState
  simp only
  split
  · split <;> decide
  · decide

theorem serialize_fits {t : LotaToken} {buf : Bytes} (h : t.serialize acMaxToken = .ok buf) :
    buf.length ≤ acMaxToken := by
  have hlen := (serialize_parts h).length
  unfold LotaToken.serialize at h
  split at h
  · cases h
  split at h
  · cases h
  omega

/-- A heartbeat keeps the mode, and the buffer fits. -/
theorem heartbeat_live {s : TickSession} (h : Live s) (buflen : Nat) (env : Env) :
    Live { s with toSession := (heartbeat s.toSession buflen env).1 } := by
  unfold heartbeat
  split
  · exact h
  split
  · exact h
  rename_i hconn
  -- behind the two checks the session is connected
  split
  · exact ⟨by simp, h.fits, fun _ hc => absurd hc hconn⟩
  simp only
  split
  · exact ⟨h.started, h.fits, fun _ hc => absurd hc hconn⟩
  split
  · exact ⟨h.started, h.fits, fun _ hc => absurd hc hconn⟩
  split
  · exact ⟨h.started, h.fits, fun _ hc => absurd hc hconn⟩
  · exact ⟨h.started, h.fits, fun _ hc => absurd hc hconn⟩
  rename_i token _
  have hset : (if isTrusted token.flags s.requiredFlags then AcState.trusted
      else AcState.untrusted) ≠ .idle := by
    split <;> decide
  split
  · exact ⟨h.started, h.fits, fun _ hc => absurd hc hconn⟩
  split
  · exact ⟨hset, h.fits, fun _ hc => absurd hc hconn⟩
  rename_i hser
  have hfits := serialize_fits hser
  split
  · exact ⟨hset, hfits, fun _ hc => absurd hc hconn⟩
  split
  · exact ⟨hset, hfits, fun _ hc => absurd hc hconn⟩
  · exact ⟨hset, hfits, fun _ hc => absurd hc hconn⟩

/-- What a direct-mode tick of a connected session does. -/
theorem tickDirect_cases {s : TickSession} (hconn : s.connected = true) (env : TickEnv) :
    (∃ e, getStatus env.status = .error e ∧ (tickDirect s env).1 = { s with state := .error }) ∨
    (∃ flags, getStatus env.status = .ok flags ∧
      ((∃ e, getToken env.token = .error e ∧
          (tickDirect s env).1 = updateState { s with lotaFlags := flags, tokenBuf := [] }) ∨
       (∃ t, getToken env.token = .ok t ∧ t.serializedSize ≤ acMaxToken ∧
         t.serialize acMaxToken = .ok t.bytes ∧
          (tickDirect s env).1 = updateState { s with lotaFlags := flags, tokenBuf := t.bytes }) ∨
       (∃ t, getToken env.token = .ok t ∧ acMaxToken < t.serializedSize ∧
         t.bytes.length = t.serializedSize ∧
          (tickDirect s env).1 = updateState { s with lotaFlags := flags }))) := by
  unfold tickDirect
  rw [if_neg (by rw [hconn]; decide)]
  cases hstatus : getStatus env.status with
  | error e => exact .inl ⟨e, rfl, rfl⟩
  | ok flags =>
    refine .inr ⟨flags, rfl, ?_⟩
    cases htoken : getToken env.token with
    | error e => exact .inl ⟨e, rfl, rfl⟩
    | ok t =>
      obtain ⟨hattest, hsig, hpids⟩ := getToken_limits htoken
      have hpos : t.serializedSize ≠ 0 := by
        rw [serializedSize_sum hattest hsig hpids]
        unfold tokenHeaderSize
        omega
      have hser : ∀ n, t.serializedSize ≤ n → t.serialize n = .ok t.bytes := by
        intro n hn
        unfold LotaToken.serialize
        rw [if_neg hpos, if_neg (Nat.not_lt.mpr hn)]
      by_cases hsize : t.serializedSize ≤ acMaxToken
      · refine .inr (.inl ⟨t, rfl, hsize, hser _ hsize, ?_⟩)
        simp only [if_pos hsize, hser _ hsize]
      · refine .inr
          (.inr ⟨t, rfl, Nat.not_le.mp hsize, (serialize_parts (hser _ (Nat.le_refl _))).length, ?_⟩)
        simp only [if_neg hsize]

theorem tickFile_cases (s : TickSession) (env : TickEnv) :
    (∃ e, readSnapshot env.snapshot = .error e ∧
      (tickFile s env).1 = updateState
      { s with lotaFlags := 0, tokenBuf := [], snapshotWarned := true }) ∨
    (∃ flags token, readSnapshot env.snapshot = .ok (flags, token) ∧
      (tickFile s env).1 = updateState { s with lotaFlags := flags, tokenBuf := token }) := by
  unfold tickFile
  cases hread : readSnapshot env.snapshot with
  | error e => exact .inl ⟨e, rfl, rfl⟩
  | ok got => exact .inr ⟨got.1, got.2, rfl, rfl⟩

/-- A tick of a live session, by its mode. -/
theorem tick_live {s : TickSession} (h : Live s) (env : TickEnv) : Live (tick s env).1 := by
  unfold tick
  rw [if_neg h.started]
  cases hdir : s.direct with
  | false =>
    rw [if_neg (by decide)]
    rcases tickFile_cases s env with ⟨e, -, hs⟩ | ⟨flags, token, hread, hs⟩
    · rw [hs]
      exact ⟨updateState_started _, Nat.zero_le _, fun hd _ => absurd (hdir.symm.trans hd) (by decide)⟩
    · rw [hs]
      exact ⟨updateState_started _, (readSnapshot_length hread).2,
        fun hd _ => absurd (hdir.symm.trans hd) (by decide)⟩
  | true =>
    rw [if_pos rfl]
    cases hconn : s.connected with
    | false =>
      obtain ⟨hbuf, hflags⟩ := h.unconnected hdir hconn
      unfold tickDirect
      rw [if_pos hconn]
      exact ⟨by simp, h.fits, fun _ _ => ⟨hbuf, hflags⟩⟩
    | true =>
      have hvoid : ∀ {c : Bool} {P : Prop}, c = s.connected → c = false → P := by
        intro c P hc hf
        rw [hc, hconn] at hf
        cases hf
      rcases tickDirect_cases hconn env with ⟨e, -, hs⟩ | ⟨flags, -,
        ⟨e, -, hs⟩ | ⟨t, -, -, hser, hs⟩ | ⟨t, -, -, -, hs⟩⟩
      · rw [hs]
        exact ⟨by simp, h.fits, fun _ => hvoid rfl⟩
      · rw [hs]
        exact ⟨updateState_started _, Nat.zero_le _, fun _ => hvoid rfl⟩
      · rw [hs]
        exact ⟨updateState_started _, serialize_fits hser, fun _ => hvoid rfl⟩
      · rw [hs]
        exact ⟨updateState_started _, h.fits, fun _ => hvoid rfl⟩

/-- **Step.** -/
theorem step_live (s : TickSession) (ev : Event) (h : Live s) : Live (step s ev).1 := by
  cases ev with
  | tick env => exact tick_live h env
  | heartbeat buflen env => exact heartbeat_live h buflen env

/-! ## Freshness -/

/-- **Tick.** A tick of a live session leaves what it got exactly when it finds
nothing to keep. -/
theorem tick_fresh_iff (s : TickSession) (ev : Event) (h : Live s) : Fresh s ev ↔ NothingKept s ev := by
  cases ev with
  | heartbeat buflen env => exact Iff.rfl
  | tick env =>
    simp only [Fresh, NothingKept, tick, obtained, if_neg h.started]
    cases hdir : s.direct with
    | false =>
      rw [if_neg (by decide), if_neg (by decide)]
      refine iff_of_true ?_ (fun hd => absurd hd (by decide))
      rcases tickFile_cases s env with ⟨e, hread, hs⟩ | ⟨flags, token, hread, hs⟩
      · rw [hs, hread]
        exact ⟨.inl rfl, rfl⟩
      · rw [hs, hread]
        exact ⟨.inr rfl, rfl⟩
    | true =>
      rw [if_pos rfl, if_pos rfl]
      cases hconn : s.connected with
      | false =>
        obtain ⟨hbuf, hflags⟩ := h.unconnected hdir hconn
        refine iff_of_true ?_ (fun _ hc => absurd hc (by decide))
        unfold tickDirect
        rw [if_pos hconn, if_pos rfl]
        exact ⟨.inl hbuf, hflags⟩
      | true =>
        rw [if_neg (by decide)]
        simp only [forall_const]
        rcases tickDirect_cases hconn env with
          ⟨e, hst, hs⟩ | ⟨flags, hst,
            ⟨e, htok, hs⟩ | ⟨t, htok, hsize, -, hs⟩ | ⟨t, htok, hsize, hlen, hs⟩⟩
        · rw [hs, hst]
          simp
        · rw [hs, hst, htok]
          simp [updateState]
        · rw [hs, hst, htok]
          refine iff_of_true ⟨.inr rfl, rfl⟩ ⟨fun e he => absurd he (by simp), fun f t' _ ht => .inl ?_⟩
          rw [← Except.ok.inj ht]
          exact hsize
        · rw [hs, hst, htok]
          have hother : s.tokenBuf ≠ t.bytes := by
            intro heq
            have := h.fits
            rw [heq] at this
            omega
          constructor
          · rintro ⟨hbuf | hbuf, -⟩
            · exact ⟨fun e he => absurd he (by simp), fun _ _ _ _ => .inr hbuf⟩
            · exact absurd (Option.some.inj hbuf).symm hother
          · rintro ⟨-, hkeep⟩
            rcases hkeep flags t rfl rfl with hle | hbuf
            · omega
            · exact ⟨.inl hbuf, rfl⟩

/-- **Fresh ticks.** In every run of ticks and heartbeats of a session, with
whatever replies and snapshots: every tick leaves an empty buffer or the token
it got, and the flags it got, exactly when every direct-mode tick whose status
request fails finds no token and no flags, and every one that gets a token of
more than 1608 bytes finds no token. -/
theorem ticks_fresh_iff (cfg : AcConfig) (env : InitEnv) (s : TickSession) (h : acInit cfg env = some s)
    (evs : List Event) : machine.AllSteps Fresh s evs ↔ machine.AllSteps NothingKept s evs :=
  Machine.allSteps_congr (J := Live) step_live tick_fresh_iff (acInit_live h)

/-- A token without protected PIDs. -/
def shortToken : LotaToken :=
  { imageToken with
    runtimeProtectVersion := 1
    protectedPIDs := []
    protectedImageDigests := []
    images_length := fun _ => rfl }

def directConfig : AcConfig where
  provider := .eac
  gameId := [0x63, 0x73, 0x32]
  requiredFlags := 1
  direct := true

def agentFound : InitEnv where
  sessionId := some (Blob.zero 16)
  gameIdHash := some (Blob.zero 32)
  found := true

def directSession : TickSession where
  provider := .eac
  state := .running
  sessionId := Blob.zero 16
  gameIdHash := Blob.zero 32
  lastHeartbeat := 0
  heartbeatSeq := 0
  requiredFlags := 1
  lotaFlags := 0
  direct := true
  connected := true
  tokenBuf := []
  snapshotWarned := false

theorem acInit_direct : acInit directConfig agentFound = some directSession := rfl

/-- The agent reports flags 1 and hands out `t`. -/
def answered (t : LotaToken) : TickEnv where
  status := .response ipcMagic 0 (toLE 4 1 ++ List.replicate 32 0)
  token := .response ipcMagic 0 (ipcTokenBytes t)
  snapshot := .error .enoent

/-- The agent does not answer. -/
def unanswered : TickEnv where
  status := .timedOut
  token := .timedOut
  snapshot := .error .enoent

theorem getStatus_answered (t : LotaToken) : getStatus (answered t).status = .ok 1 := rfl

theorem getToken_short : getToken (answered shortToken).token = .ok shortToken := by
  have hlimits : IpcLimits shortToken :=
    ⟨by decide, fun _ => rfl, by decide, by decide +kernel, by decide +kernel⟩
  have hlen : (ipcTokenBytes shortToken).length ≤ ipcTokenMaxSize := by
    rw [ipcTokenBytes_length]
    decide +kernel
  unfold answered
  rw [getToken_reply hlimits, if_pos hlen]

theorem getToken_image : getToken (answered imageToken).token = .ok imageToken := by
  have hlimits : IpcLimits imageToken :=
    ⟨by decide, fun h => absurd rfl h, by decide, by decide +kernel, by decide +kernel⟩
  have hlen : (ipcTokenBytes imageToken).length ≤ ipcTokenMaxSize := by
    rw [ipcTokenBytes_length]
    decide +kernel
  unfold answered
  rw [getToken_reply hlimits, if_pos hlen]

theorem shortToken_fits : shortToken.serializedSize ≤ acMaxToken := by decide +kernel

theorem ticks_fresh_short : machine.AllSteps Fresh directSession [.tick (answered shortToken)] := by
  refine (ticks_fresh_iff directConfig agentFound directSession acInit_direct _).mpr
    ⟨fun _ _ => ⟨?_, ?_⟩, trivial⟩
  · intro e he
    rw [getStatus_answered] at he
    cases he
  · intro flags t _ ht
    rw [getToken_short] at ht
    rw [← Except.ok.inj ht]
    exact .inl shortToken_fits

theorem directSession_live : Live directSession := acInit_live acInit_direct

/-- The session after its first token. -/
theorem tick_short : (step directSession (.tick (answered shortToken))).1 =
    updateState { directSession with lotaFlags := 1, tokenBuf := shortToken.bytes } := by
  have hmode : tick directSession (answered shortToken) = tickDirect directSession
      (answered shortToken) := by
    unfold tick
    rw [if_neg (by decide), if_pos (by decide)]
  simp only [step, hmode]
  rcases tickDirect_cases (s := directSession) rfl (answered shortToken) with
    ⟨e, hst, -⟩ | ⟨flags, hst, ⟨e, htok, -⟩ | ⟨t, htok, -, -, hs⟩ | ⟨t, htok, hsize, -⟩⟩
  · rw [getStatus_answered] at hst
    cases hst
  · rw [getToken_short] at htok
    cases htok
  · rw [getStatus_answered] at hst
    rw [getToken_short] at htok
    cases hst
    cases htok
    exact hs
  · rw [getToken_short] at htok
    cases htok
    exact absurd shortToken_fits (Nat.not_le.mpr hsize)

/-- A session that has a token keeps it when the agent no longer answers, and
when the agent hands out a token of 1625 bytes. -/
theorem stale_token_kept :
    acInit directConfig agentFound = some directSession ∧
      ¬ machine.AllSteps Fresh directSession [.tick (answered shortToken), .tick unanswered] ∧
      ¬ machine.AllSteps Fresh directSession
      [.tick (answered shortToken), .tick (answered imageToken)] := by
  have hlive := step_live directSession (.tick (answered shortToken)) directSession_live
  have hbuf : (step directSession (.tick (answered shortToken))).1.tokenBuf ≠ [] := by
    rw [tick_short]
    exact List.cons_ne_nil _ _
  have hdir : (step directSession (.tick (answered shortToken))).1.direct = true := by
    rw [tick_short]; rfl
  have hconn : (step directSession (.tick (answered shortToken))).1.connected = true := by
    rw [tick_short]; rfl
  refine ⟨acInit_direct, ?_, ?_⟩
  · rintro ⟨-, hfresh, -⟩
    obtain ⟨hno, -⟩ := (tick_fresh_iff _ _ hlive).mp hfresh hdir hconn
    exact hbuf (hno .timeout rfl).1
  · rintro ⟨-, hfresh, -⟩
    obtain ⟨-, hkeep⟩ := (tick_fresh_iff _ _ hlive).mp hfresh hdir hconn
    rcases hkeep 1 imageToken (getStatus_answered _) getToken_image with hle | hnil
    · rw [imageToken_size] at hle
      exact absurd hle (by decide)
    · exact hbuf hnil

end Lota.L4.AcTick

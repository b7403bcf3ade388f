import Lota.L6Agent.Config
import Mathlib.Data.List.DropRight

/-!
# All settings of the configuration file (`agent/config.c`)

`struct lota_config` with every field that a key can set. The reload's view of
a configuration (`Lota.L6.ConfigFile.Config`) is a part of it, and so is the
loader of that view.

* `loadStream_reload`: the loader of the reload is this one, seen through
  `LotaConfig.reload`.
* `loadText_loadable`: what every configuration is like that comes out of a
  file, whether the file has errors or not.
-/
namespace Lota.L6.FullConfig
open Lota.Core Lota.L6.ConfigFile

/-- mirrors src/agent/config.h:47-119 -/
structure LotaConfig where
  server : Text
  port : Int
  caCert : Text
  pinSha256 : Text
  bpfPath : Text
  mode : Text
  strictMmap : Bool
  strictExec : Bool
  blockPtrace : Bool
  strictModules : Bool
  blockAnonExec : Bool
  attestInterval : Int
  aikTtl : UInt32
  aikHandle : UInt32
  kernelPath : Text
  sealAikAuth : Bool
  sealAikAuthStrict : Bool
  sealPersistentPrimary : Bool
  daemon : Bool
  pidFile : Text
  signingKey : Text
  policyPubkey : Text
  trustLibs : List Text
  allowVerity : List Text
  protectPids : List UInt32
  containerListenerUids : List UInt32
  logLevel : Text
  deriving DecidableEq

def pathMax : Nat := 4096

/-- mirrors src/agent/config.c:81-90 -/
def setStr (size : Nat) (src : Text) : Text := src.take (size - 1)

/-- mirrors src/agent/config.c:187-232 -/
def configInit : LotaConfig where
  server := "localhost".toList
  port := 8443
  caCert := []
  pinSha256 := []
  bpfPath := "/usr/lib/lota/lota_lsm.bpf.o".toList
  mode := "enforce".toList
  strictMmap := true
  strictExec := false
  blockPtrace := true
  strictModules := false
  blockAnonExec := true
  attestInterval := 0
  aikTtl := 0
  aikHandle := 0x81010002
  kernelPath := []
  sealAikAuth := false
  sealAikAuthStrict := false
  sealPersistentPrimary := false
  daemon := false
  pidFile := "/run/lota/lota-agent.pid".toList
  signingKey := []
  policyPubkey := []
  trustLibs := []
  allowVerity := []
  protectPids := []
  containerListenerUids := []
  logLevel := "info".toList

/-! ## One line -/

/-- What `apply_key` returns: 0, -1 and 1. -/
inductive Applied where
  | ok (cfg : LotaConfig)
  | invalid
  | unknown

def applyBool (value : Text) (set : Bool → LotaConfig) : Applied :=
  match parseBoolStrict value with
  | some b => .ok (set b)
  | none => .invalid

/-- A number from `lo` to `hi`. -/
def applyNumber (lo hi : Int) (value : Text) (set : Int → LotaConfig) : Applied :=
  match safeParseLong value with
  | none => .invalid
  | some v => if v < lo ∨ v > hi then .invalid else .ok (set v)

def applyHandle (value : Text) (set : UInt32 → LotaConfig) : Applied :=
  match safeParseUlongBase0 value with
  | none => .invalid
  | some v => if v = 0 ∨ v > 2 ^ 32 - 1 then .invalid else .ok (set (UInt32.ofNat v))

def applyPath (value : Text) (set : Text → LotaConfig) : Applied :=
  if validatePathValue value then .ok (set (setStr pathMax value)) else .invalid

/-- An entry of a list of paths with a limit. -/
def applyPathList (limit : Nat) (entries : List Text) (value : Text)
    (set : List Text → LotaConfig) : Applied :=
  if entries.length ≥ limit then .invalid else applyPath value fun v => set (entries ++ [v])

/-- mirrors src/agent/config.c:523-543 -/
def applyProtectPid (cfg : LotaConfig) (value : Text) : Applied :=
  match safeParseLong value with
  | none => .invalid
  | some v =>
    if v ≤ 0 ∨ v > 2 ^ 32 - 1 then .invalid
    else if cfg.protectPids.length ≥ maxProtectedPids then .invalid
    else .ok { cfg with protectPids := cfg.protectPids ++ [UInt32.ofNat v.toNat] }

/-- mirrors src/agent/config.c:545-576 -/
def applyContainerUid (cfg : LotaConfig) (value : Text) : Applied :=
  match safeParseLong value with
  | none => .invalid
  | some v =>
    if v < 0 ∨ v > 2 ^ 32 - 1 then .invalid
    else if cfg.containerListenerUids.length ≥ maxContainerListeners then .invalid
    else if UInt32.ofNat v.toNat ∈ cfg.containerListenerUids then .invalid
    else .ok { cfg with containerListenerUids := cfg.containerListenerUids ++ [UInt32.ofNat v.toNat] }

/-- mirrors src/agent/config.c:241-585 -/
def applyKey (cfg : LotaConfig) (key value : Text) : Applied :=
  if keyIs key ["server"] then .ok { cfg with server := setStr 256 value }
  else if keyIs key ["port"] then applyNumber 1 65535 value fun v => { cfg with port := v }
  else if keyIs key ["ca_cert", "ca-cert"] then applyPath value fun v => { cfg with caCert := v }
  else if keyIs key ["no_verify_tls", "no-verify-tls"] then .invalid
  else if keyIs key ["pin_sha256", "pin-sha256"] then .ok { cfg with pinSha256 := setStr 128 value }
  else if keyIs key ["allow_verity", "allow-verity"] then
    applyPathList maxVerity cfg.allowVerity value fun l => { cfg with allowVerity := l }
  else if keyIs key ["bpf_path", "bpf-path", "bpf"] then applyPath value fun v =>
    { cfg with bpfPath := v }
  else if keyIs key ["mode"] then
    if parseModeStrict value then .ok { cfg with mode := setStr 32 value } else .invalid
  else if keyIs key ["strict_mmap", "strict-mmap"] then applyBool value fun b =>
    { cfg with strictMmap := b }
  else if keyIs key ["strict_exec", "strict-exec"] then applyBool value fun b =>
    { cfg with strictExec := b }
  else if keyIs key ["block_ptrace", "block-ptrace"] then applyBool value fun b =>
    { cfg with blockPtrace := b }
  else if keyIs key ["strict_modules", "strict-modules"] then applyBool value fun b =>
    { cfg with strictModules := b }
  else if keyIs key ["block_anon_exec", "block-anon-exec"] then applyBool value fun b =>
    { cfg with blockAnonExec := b }
  else if keyIs key ["seal_aik_auth", "seal-aik-auth"] then applyBool value fun b =>
    { cfg with sealAikAuth := b }
  else if keyIs key ["seal_aik_auth_strict", "seal-aik-auth-strict"] then
    applyBool value fun b => { cfg with sealAikAuthStrict := b }
  else if keyIs key ["seal_persistent_primary", "seal-persistent-primary"] then
    applyBool value fun b => { cfg with sealPersistentPrimary := b }
  else if keyIs key ["attest_interval", "attest-interval"] then
    applyNumber 0 (2 ^ 31 - 1) value fun v => { cfg with attestInterval := v }
  else if keyIs key ["aik_ttl", "aik-ttl"] then
    applyNumber 0 (2 ^ 32 - 1) value fun v => { cfg with aikTtl := UInt32.ofNat v.toNat }
  else if keyIs key ["aik_handle", "aik-handle"] then applyHandle value fun v =>
    { cfg with aikHandle := v }
  else if keyIs key ["kernel_path", "kernel-path"] then applyPath value fun v =>
    { cfg with kernelPath := v }
  else if keyIs key ["daemon"] then applyBool value fun b => { cfg with daemon := b }
  else if keyIs key ["pid_file", "pid-file"] then applyPath value fun v => { cfg with pidFile := v }
  else if keyIs key ["signing_key", "signing-key"] then applyPath value fun v =>
    { cfg with signingKey := v }
  else if keyIs key ["policy_pubkey", "policy-pubkey"] then applyPath value fun v =>
    { cfg with policyPubkey := v }
  else if keyIs key ["trust_lib", "trust-lib"] then
    applyPathList maxLibs cfg.trustLibs value fun l => { cfg with trustLibs := l }
  else if keyIs key ["protect_pid", "protect-pid"] then applyProtectPid cfg value
  else if keyIs key ["container_listener_uid", "container-listener-uid"]
    then applyContainerUid cfg value
  else if keyIs key ["log_level", "log-level"] then .ok { cfg with logLevel := setStr 16 value }
  else .unknown

/-- What the loop carries: the configuration and the number of errors. -/
structure Loaded where
  cfg : LotaConfig
  errors : Nat
  deriving DecidableEq

def Loaded.fail (l : Loaded) : Loaded := { l with errors := l.errors + 1 }

/-- One key and its value. mirrors src/agent/config.c:642-648 -/
def applyPair (l : Loaded) (key value : Text) : Loaded :=
  match applyKey l.cfg key value with
  | .ok cfg => { l with cfg }
  | .invalid => l.fail
  | .unknown => l.fail

/-- A line that was read whole. mirrors src/agent/config.c:618-648 -/
def applyLine (l : Loaded) (line : Text) : Loaded :=
  let trimmed := trim line
  if trimmed = [] ∨ trimmed.head? = some '#' then l
  else if '=' ∉ trimmed then l.fail
  else
    let key := trim (trimmed.takeWhile (· ≠ '='))
    let value := trim (trimmed.dropWhile (· ≠ '=')).tail
    if key = [] then l.fail else applyPair l key value

/-- One turn of the loop, as in `ConfigFile.readLine`.
mirrors src/agent/config.c:597-648 -/
def readLine (l : Loaded) (text : Text) : Loaded × Text :=
  let (chunk, rest) := takeLine (maxLine - 1) text
  let line := cString chunk
  let eof := chunk.getLast? ≠ some '\n' ∧ chunk.length < maxLine - 1
  if line ≠ [] ∧ line.getLast? ≠ some '\n' ∧ ¬ eof then (l.fail, (rest.dropWhile (· ≠ '\n')).tail)
  else (applyLine l line, rest)

def loadLines : Nat → Loaded → Text → Loaded
  | 0, l, _ => l
  | _, l, [] => l
  | n + 1, l, c :: text =>
    let (l', rest) := readLine l (c :: text)
    loadLines n l' rest

/-- A file read without an I/O error into a freshly initialised configuration;
the result is refused if there were errors.
mirrors src/agent/config.c:587-656 -/
def loadText (text : Text) : Loaded := loadLines text.length { cfg := configInit, errors := 0 } text

/-! ## The reload's view -/

def LotaConfig.reload (cfg : LotaConfig) : Config where
  mode := cfg.mode
  strictMmap := cfg.strictMmap
  strictExec := cfg.strictExec
  blockPtrace := cfg.blockPtrace
  strictModules := cfg.strictModules
  blockAnonExec := cfg.blockAnonExec
  policyPubkey := cfg.policyPubkey
  trustLibs := cfg.trustLibs
  allowVerity := cfg.allowVerity
  protectPids := cfg.protectPids
  containerListenerUids := cfg.containerListenerUids

def Applied.reload : Applied → ConfigFile.Applied
  | .ok cfg => .ok cfg.reload
  | .invalid => .invalid
  | .unknown => .unknown

def Loaded.reload (l : Loaded) : ConfigFile.Loaded := ⟨l.cfg.reload, l.errors⟩

section
variable {value : Text}

theorem ite_reload {p : Prop} [Decidable p] {a b : Applied} {a' b' : ConfigFile.Applied}
    (ha : a.reload = a')
    (hb : b.reload = b') : (if p then a else b).reload = if p then a' else b' := by
  split
  · exact ha
  · exact hb

theorem applyBool_reload {set : Bool → LotaConfig} {set' : Bool → Config}
    (h : ∀ b, (set b).reload = set' b) :
    (applyBool value set).reload = ConfigFile.applyBool value set' := by
  unfold applyBool ConfigFile.applyBool
  cases parseBoolStrict value with
  | none => rfl
  | some b => exact congrArg _ (h b)

theorem applyNumber_reload {cfg : Config} {lo hi : Int} {set : Int → LotaConfig}
    (h : ∀ v, (set v).reload = cfg) :
    (applyNumber lo hi value set).reload = checked cfg (inRange lo hi value) := by
  unfold applyNumber checked inRange
  cases safeParseLong value with
  | none => rfl
  | some v =>
    simp only [Option.any_some, Bool.and_eq_true, decide_eq_true_eq]
    by_cases hv : lo ≤ v ∧ v ≤ hi
    · rw [if_neg (by omega), if_pos hv]
      exact congrArg _ (h v)
    · rw [if_pos (by omega), if_neg hv]
      rfl

theorem applyHandle_reload {cfg : Config} {set : UInt32 → LotaConfig} (h : ∀ v, (set v).reload = cfg) :
    (applyHandle value set).reload =
      checked cfg ((safeParseUlongBase0 value).any fun v => v ≠ 0 && v ≤ 2 ^ 32 - 1) := by
  unfold applyHandle checked
  cases safeParseUlongBase0 value with
  | none => rfl
  | some v =>
    simp only [Option.any_some, Bool.and_eq_true, decide_eq_true_eq]
    by_cases hv : v ≠ 0 ∧ v ≤ 2 ^ 32 - 1
    · rw [if_neg (by omega), if_pos hv]
      exact congrArg _ (h _)
    · rw [if_pos (by omega), if_neg hv]
      rfl

/-- Values are shorter than a path may be. -/
theorem setStr_of_lt {size : Nat} (h : value.length < size) : setStr size value = value :=
  List.take_of_length_le (by omega)

theorem applyPath_checked {cfg : Config} {set : Text → LotaConfig} (h : ∀ v, (set v).reload = cfg) :
    (applyPath value set).reload = checked cfg (validatePathValue value) := by
  unfold applyPath checked
  exact ite_reload (congrArg _ (h _)) rfl

theorem applyPath_reload (hlen : value.length < pathMax) {set : Text → LotaConfig}
    {set' : Text → Config}
    (h : ∀ v, (set v).reload = set' v) :
    (applyPath value set).reload = ConfigFile.applyPath value set' := by
  unfold applyPath ConfigFile.applyPath
  rw [setStr_of_lt hlen]
  exact ite_reload (congrArg _ (h _)) rfl

theorem applyPathList_reload (hlen : value.length < pathMax) {limit : Nat} {entries : List Text}
    {set : List Text → LotaConfig} {set' : List Text → Config} (h : ∀ l, (set l).reload = set' l) :
    (applyPathList limit entries value set).reload = ConfigFile.applyPathList limit entries
    value set' := by
  unfold applyPathList ConfigFile.applyPathList
  exact ite_reload rfl (applyPath_reload hlen fun _ => h _)

theorem applyProtectPid_reload (cfg : LotaConfig) :
    (applyProtectPid cfg value).reload = ConfigFile.applyProtectPid cfg.reload value := by
  unfold applyProtectPid ConfigFile.applyProtectPid
  cases safeParseLong value with
  | none => rfl
  | some v => exact ite_reload rfl (ite_reload rfl rfl)

theorem applyContainerUid_reload (cfg : LotaConfig) :
    (applyContainerUid cfg value).reload = ConfigFile.applyContainerUid cfg.reload value := by
  unfold applyContainerUid ConfigFile.applyContainerUid
  cases safeParseLong value with
  | none => rfl
  | some v => exact ite_reload rfl (ite_reload rfl (ite_reload rfl rfl))

theorem applyMode_reload (cfg : LotaConfig) :
    (if parseModeStrict value then Applied.ok { cfg with mode := setStr 32 value }
      else .invalid).reload =
      if parseModeStrict value then .ok { cfg.reload with mode := value } else .invalid := by
  by_cases hm : parseModeStrict value = true
  · have hlen : value.length < 32 := by
      simp only [parseModeStrict, Bool.or_eq_true, decide_eq_true_eq] at hm
      rcases hm with (rfl | rfl) | rfl <;> decide
    rw [if_pos hm, if_pos hm, setStr_of_lt hlen]
    rfl
  · rw [if_neg hm, if_neg hm]
    rfl

/-- One key: the reload's loader does the same to its part. -/
theorem applyKey_reload (cfg : LotaConfig) (key : Text) (hlen : value.length < pathMax) :
    (applyKey cfg key value).reload = ConfigFile.applyKey cfg.reload key value := by
  unfold applyKey ConfigFile.applyKey
  refine ite_reload rfl ?_
  refine ite_reload (applyNumber_reload fun _ => rfl) ?_
  refine ite_reload (applyPath_checked fun _ => rfl) ?_
  refine ite_reload rfl ?_
  refine ite_reload rfl ?_
  refine ite_reload (applyPathList_reload hlen fun _ => rfl) ?_
  refine ite_reload (applyPath_checked fun _ => rfl) ?_
  refine ite_reload (applyMode_reload cfg) ?_
  refine ite_reload (applyBool_reload fun _ => rfl) ?_
  refine ite_reload (applyBool_reload fun _ => rfl) ?_
  refine ite_reload (applyBool_reload fun _ => rfl) ?_
  refine ite_reload (applyBool_reload fun _ => rfl) ?_
  refine ite_reload (applyBool_reload fun _ => rfl) ?_
  refine ite_reload (applyBool_reload fun _ => rfl) ?_
  refine ite_reload (applyBool_reload fun _ => rfl) ?_
  refine ite_reload (applyBool_reload fun _ => rfl) ?_
  refine ite_reload (applyNumber_reload fun _ => rfl) ?_
  refine ite_reload (applyNumber_reload fun _ => rfl) ?_
  refine ite_reload (applyHandle_reload fun _ => rfl) ?_
  refine ite_reload (applyPath_checked fun _ => rfl) ?_
  refine ite_reload (applyBool_reload fun _ => rfl) ?_
  refine ite_reload (applyPath_checked fun _ => rfl) ?_
  refine ite_reload (applyPath_checked fun _ => rfl) ?_
  refine ite_reload (applyPath_reload hlen fun _ => rfl) ?_
  refine ite_reload (applyPathList_reload hlen fun _ => rfl) ?_
  refine ite_reload (applyProtectPid_reload cfg) ?_
  refine ite_reload (applyContainerUid_reload cfg) ?_
  exact ite_reload rfl rfl

end

/-! ## Lines and values -/

theorem trim_sublist (s : Text) : (trim s).Sublist s := by
  unfold trim
  have h1 := (List.dropWhile_sublist isSpace (l := (s.dropWhile isSpace).reverse)).reverse
  rw [List.reverse_reverse] at h1
  exact h1.trans (List.dropWhile_sublist isSpace)

/-- Text that starts with no space. -/
def Front (s : Text) : Prop := ∀ c, s.head? = some c → isSpace c = false

theorem Front.dropWhile {s : Text} (h : Front s) : s.dropWhile isSpace = s := by
  cases s with
  | nil => rfl
  | cons c s => exact List.dropWhile_cons_of_neg (by simp [h c rfl])

theorem front_dropWhile (s : Text) : Front (s.dropWhile isSpace) := by
  induction s with
  | nil => intro c h; cases h
  | cons c s ih =>
    by_cases hc : isSpace c = true
    · rw [List.dropWhile_cons_of_pos hc]
      exact ih
    · rw [List.dropWhile_cons_of_neg hc]
      intro d hd
      cases hd
      simpa using hc

theorem Front.take {s : Text} (h : Front s) (n : Nat) : Front (s.take n) := by
  intro c hc
  cases s with
  | nil => simp at hc
  | cons d s =>
    cases n with
    | zero => cases hc
    | succ n => exact h c hc

/-- Text that ends in no space. -/
def Back (s : Text) : Prop := ∀ c, s.getLast? = some c → isSpace c = false

/-- Text without the spaces at its end. -/
def trimEnd (s : Text) : Text := s.rdropWhile isSpace

theorem trimEnd_back (s : Text) : Back (trimEnd s) := by
  intro c hc
  rw [trimEnd, List.rdropWhile, List.getLast?_reverse] at hc
  exact front_dropWhile _ c hc

theorem trimEnd_eq_self {s : Text} : trimEnd s = s ↔ Back s := by
  constructor
  · intro h
    rw [← h]
    exact trimEnd_back s
  · intro h
    have hf : Front s.reverse := by
      intro c hc
      rw [List.head?_reverse] at hc
      exact h c hc
    rw [trimEnd, List.rdropWhile, hf.dropWhile, List.reverse_reverse]

theorem trim_eq (s : Text) : trim s = trimEnd (s.dropWhile isSpace) := rfl

theorem trim_back (s : Text) : Back (trim s) := trimEnd_back _

theorem prefix_trimEnd (s : Text) : trimEnd s <+: s := List.rdropWhile_prefix isSpace s

theorem Front.trimEnd {s : Text} (h : Front s) : Front (trimEnd s) := by
  have heq : FullConfig.trimEnd s = s.take (FullConfig.trimEnd s).length :=
    List.prefix_iff_eq_take.mp (prefix_trimEnd s)
  rw [heq]
  exact h.take _

theorem trim_front (s : Text) : Front (trim s) := (front_dropWhile s).trimEnd

/-- A space at the end does not count. -/
theorem trimEnd_append_space {s t : Text} (h : ∀ c ∈ t, isSpace c = true) :
    trimEnd (s ++ t) = trimEnd s := by
  unfold trimEnd List.rdropWhile
  rw [List.reverse_append, List.dropWhile_append_of_pos (by simpa using h)]

theorem trimEnd_append {s t : Text} (h : trimEnd t ≠ []) : trimEnd (s ++ t) = s ++ trimEnd t := by
  have hne : t.reverse.dropWhile isSpace ≠ [] := by
    intro h0
    exact h (by rw [trimEnd, List.rdropWhile, h0]; rfl)
  unfold trimEnd List.rdropWhile
  rw [List.reverse_append, List.dropWhile_append]
  simp [hne]

theorem trim_append_newline (s : Text) : trim (s ++ ['\n']) = trim s := by
  rw [trim_eq, trim_eq]
  by_cases hall : ∀ c ∈ s, isSpace c = true
  · have h1 : s.dropWhile isSpace = [] := List.dropWhile_eq_nil_iff.mpr hall
    have h2 : (s ++ ['\n']).dropWhile isSpace = [] := by
      rw [List.dropWhile_eq_nil_iff]
      intro c hc
      rcases List.mem_append.mp hc with hc | hc
      · exact hall c hc
      · rw [List.mem_singleton.mp hc]
        decide
    rw [h1, h2]
  · have hne : s.dropWhile isSpace ≠ [] := fun h0 => hall (List.dropWhile_eq_nil_iff.mp h0)
    rw [List.dropWhile_append]
    simp only [List.isEmpty_iff, hne, if_false]
    refine trimEnd_append_space fun c hc => ?_
    rw [List.mem_singleton.mp hc]
    decide

/-- What `fgets` returns: up to a newline, which is its last character if there
is one. -/
theorem takeLine_chunk (n : Nat) (text : Text) : (takeLine n text).1.length ≤ n ∧
    ∃ body, '\n' ∉ body ∧ ((takeLine n text).1 = body ∨ (takeLine n text).1 = body ++ ['\n']) := by
  induction n generalizing text with
  | zero => exact ⟨Nat.zero_le _, [], List.not_mem_nil, .inl rfl⟩
  | succ n ih =>
    cases text with
    | nil => exact ⟨Nat.zero_le _, [], List.not_mem_nil, .inl rfl⟩
    | cons c text =>
      unfold takeLine
      split
      · rename_i hc
        exact ⟨by simp, [], List.not_mem_nil, .inr (by rw [hc]; rfl)⟩
      · rename_i hc
        obtain ⟨hlen, body, hbody, hcases⟩ := ih text
        refine ⟨by simpa using hlen, c :: body, ?_, ?_⟩
        · rw [List.mem_cons, not_or]
          exact ⟨fun h => hc h.symm, hbody⟩
        · rcases hcases with h | h
          · exact .inl (by rw [h])
          · exact .inr (by rw [h]; rfl)

/-- A value as the loop cuts it out of a line. -/
structure Value (v : Text) : Prop where
  front : Front v
  back : Back v
  newline : '\n' ∉ v
  nul : '\x00' ∉ v
  length : v.length < maxLine

theorem cString_nul (s : Text) : '\x00' ∉ cString s := by
  intro h
  have := List.mem_takeWhile_imp h
  simp at this

/-- The characters of a line that is read, without its newline. -/
theorem trim_line (text : Text) : ∃ core, '\n' ∉ core ∧ '\x00' ∉ core ∧ core.length < maxLine ∧
    trim (cString (takeLine (maxLine - 1) text).1) = trim core := by
  obtain ⟨hlen, body, hbody, hcases⟩ := takeLine_chunk (maxLine - 1) text
  generalize (takeLine (maxLine - 1) text).1 = chunk at *
  have hsub : (cString chunk).length ≤ chunk.length := (List.takeWhile_sublist _).length_le
  have hpos : 0 < maxLine := by decide
  rcases hcases with rfl | rfl
  · refine ⟨cString chunk, fun h => hbody ((List.takeWhile_sublist _).subset h), cString_nul _,
      by omega, rfl⟩
  · by_cases hnul : '\x00' ∈ body
    · -- the string ends before the newline
      have hshort : cString (body ++ ['\n']) = cString body := by
        unfold cString
        rw [List.takeWhile_append, if_neg]
        intro heq
        have hself : body.takeWhile (· ≠ '\x00') = body := (List.takeWhile_sublist _).eq_of_length heq
        rw [← hself] at hnul
        exact cString_nul body hnul
      rw [hshort] at hsub ⊢
      exact ⟨cString body, fun h => hbody ((List.takeWhile_sublist _).subset h), cString_nul _,
        by omega, rfl⟩
    · have hwhole : cString (body ++ ['\n']) = body ++ ['\n'] := by
        unfold cString
        rw [List.takeWhile_eq_self_iff]
        intro c hc
        rcases List.mem_append.mp hc with hc | hc
        · simp only [decide_eq_true_eq]
          exact fun h => hnul (h ▸ hc)
        · rw [List.mem_singleton.mp hc]
          decide
      rw [hwhole, trim_append_newline]
      rw [List.length_append, List.length_singleton] at hlen
      exact ⟨body, hbody, hnul, by omega, rfl⟩

theorem value_of_line {core : Text} (hnl : '\n' ∉ core) (hnul : '\x00' ∉ core)
    (hlen : core.length < maxLine) : Value (trim ((trim core).dropWhile (· ≠ '=')).tail) := by
  have hsub : (trim ((trim core).dropWhile (· ≠ '=')).tail).Sublist core :=
    (trim_sublist _).trans
      ((List.tail_sublist _).trans ((List.dropWhile_sublist _).trans (trim_sublist core)))
  refine ⟨trim_front _, trim_back _, fun h => hnl (hsub.subset h), fun h => hnul (hsub.subset h), ?_⟩
  have := hsub.length_le
  omega

theorem Value.lt_pathMax {v : Text} (h : Value v) : v.length < pathMax :=
  Nat.lt_trans h.length (by decide)

theorem applyLine_reload (l : Loaded) (text : Text) :
    (applyLine l (cString (takeLine (maxLine - 1) text).1)).reload =
      ConfigFile.applyLine l.reload (cString (takeLine (maxLine - 1) text).1) := by
  obtain ⟨core, hnl, hnul, hlen, htrim⟩ := trim_line text
  unfold applyLine ConfigFile.applyLine
  simp only [htrim]
  split
  · rfl
  split
  · rfl
  split
  · rfl
  have hkey :=
    applyKey_reload l.cfg (trim ((trim core).takeWhile (· ≠ '=')))
      (value_of_line hnl hnul hlen).lt_pathMax
  have hcfg : l.reload.cfg = l.cfg.reload := rfl
  unfold applyPair
  rw [hcfg, ← hkey]
  cases applyKey l.cfg (trim ((trim core).takeWhile (· ≠ '=')))
    (trim ((trim core).dropWhile (· ≠ '=')).tail) <;> rfl

theorem readLine_reload (l : Loaded) (text : Text) :
    ((readLine l text).1.reload, (readLine l text).2) = ConfigFile.readLine l.reload text := by
  unfold readLine ConfigFile.readLine
  simp only
  split
  · rfl
  · rw [applyLine_reload]

theorem loadLines_reload (n : Nat) (l : Loaded) (text : Text) :
    (loadLines n l text).reload = ConfigFile.loadLines n l.reload text := by
  induction n generalizing l text with
  | zero => rfl
  | succ n ih =>
    cases text with
    | nil => rfl
    | cons c text =>
      have hline := readLine_reload l (c :: text)
      unfold loadLines ConfigFile.loadLines
      rw [← hline]
      exact ih _ _

/-- **One loader.** The configuration that a reload works with is a part of the
configuration that is loaded. -/
theorem loadStream_reload (data : Bytes) :
    loadStream data = if (loadText (toText data)).errors > 0
    then none else some (loadText (toText data)).cfg.reload := by
  have h := loadLines_reload (toText data).length { cfg := configInit, errors := 0 } (toText data)
  unfold loadStream loadText
  simp only
  have hinit : ConfigFile.Loaded.mk ConfigFile.configInit 0 =
      Loaded.reload { cfg := configInit, errors := 0 } := rfl
  rw [hinit, ← h]
  rfl

/-! ## What comes out of a file -/

/-- A string that is stored as it comes, cut to its field. -/
structure Stored (v : Text) (size : Nat) : Prop where
  front : Front v
  newline : '\n' ∉ v
  nul : '\x00' ∉ v
  length : v.length < size

/-- A path, or nothing. -/
structure StoredPath (v : Text) : Prop where
  valid : validatePathValue v = true
  value : Value v

structure Loadable (cfg : LotaConfig) : Prop where
  server : Stored cfg.server 256
  port : 1 ≤ cfg.port ∧ cfg.port ≤ 65535
  caCert : StoredPath cfg.caCert
  pinSha256 : Stored cfg.pinSha256 128
  bpfPath : StoredPath cfg.bpfPath
  mode : parseModeStrict cfg.mode = true
  attestInterval : 0 ≤ cfg.attestInterval ∧ cfg.attestInterval ≤ 2 ^ 31 - 1
  aikHandle : cfg.aikHandle ≠ 0
  kernelPath : StoredPath cfg.kernelPath
  pidFile : StoredPath cfg.pidFile
  signingKey : StoredPath cfg.signingKey
  policyPubkey : StoredPath cfg.policyPubkey
  trustLibs : cfg.trustLibs.length ≤ maxLibs ∧ ∀ v ∈ cfg.trustLibs, StoredPath v
  allowVerity : cfg.allowVerity.length ≤ maxVerity ∧ ∀ v ∈ cfg.allowVerity, StoredPath v
  protectPids : cfg.protectPids.length ≤ maxProtectedPids ∧ 0 ∉ cfg.protectPids
  containerListenerUids : cfg.containerListenerUids.length ≤ maxContainerListeners ∧
    cfg.containerListenerUids.Nodup
  logLevel : Stored cfg.logLevel 16

theorem Value.stored {v : Text} (h : Value v) {size : Nat} (hs : 0 < size) :
    Stored (setStr size v) size where
  front := h.front.take _
  newline hm := h.newline (List.mem_of_mem_take hm)
  nul hm := h.nul (List.mem_of_mem_take hm)
  length := by
    rw [setStr, List.length_take]
    omega

theorem storedPath_nil : StoredPath [] where
  valid := by decide
  value :=
    { front := fun _ h => (Option.some_ne_none _ h.symm).elim
      back := fun _ h => (Option.some_ne_none _ h.symm).elim
      newline := List.not_mem_nil
      nul := List.not_mem_nil
      length := by decide }

/-- Closed text is checked by evaluation. -/
theorem stored_of {v : Text} {size : Nat}
    (h : (v.head?.all fun c => !isSpace c) = true ∧ '\n' ∉ v ∧ '\x00' ∉ v ∧ v.length < size) :
    Stored v size where
  front c hc := by
    have := h.1
    rw [hc] at this
    simpa using this
  newline := h.2.1
  nul := h.2.2.1
  length := h.2.2.2

theorem storedPath_of {v : Text} (hv : validatePathValue v = true)
    (hlast : (v.getLast?.all fun c => !isSpace c) = true)
    (hlen : v.length < maxLine) : StoredPath v := by
  have hcntrl : ∀ c ∈ v, isCntrl c = false := by
    intro c hc
    simp only [validatePathValue, Bool.or_eq_true, decide_eq_true_eq, Bool.and_eq_true,
      Bool.not_eq_true', List.any_eq_false] at hv
    rcases hv with rfl | ⟨⟨hv, -⟩, -⟩
    · cases hc
    · simpa using hv c hc
  refine ⟨hv, ⟨?_, ?_, ?_, ?_, hlen⟩⟩
  · intro c hc
    simp only [validatePathValue, Bool.or_eq_true, decide_eq_true_eq, Bool.and_eq_true] at hv
    rcases hv with rfl | ⟨⟨-, hhead⟩, -⟩
    · cases hc
    · rw [hhead] at hc
      cases hc
      decide
  · intro c hc
    rw [hc] at hlast
    simpa using hlast
  · intro hmem
    exact absurd (hcntrl _ hmem) (by decide)
  · intro hmem
    exact absurd (hcntrl _ hmem) (by decide)

theorem configInit_loadable : Loadable configInit where
  server := stored_of (by decide)
  port := by decide
  caCert := storedPath_nil
  pinSha256 := stored_of (by decide)
  bpfPath := storedPath_of (by decide) (by decide) (by decide)
  mode := by decide
  attestInterval := by decide
  aikHandle := by decide
  kernelPath := storedPath_nil
  pidFile := storedPath_of (by decide) (by decide) (by decide)
  signingKey := storedPath_nil
  policyPubkey := storedPath_nil
  trustLibs := ⟨Nat.zero_le _, by intro v h; cases h⟩
  allowVerity := ⟨Nat.zero_le _, by intro v h; cases h⟩
  protectPids := ⟨Nat.zero_le _, List.not_mem_nil⟩
  containerListenerUids := ⟨Nat.zero_le _, List.nodup_nil⟩
  logLevel := stored_of (by decide)

section
variable {cfg cfg' : LotaConfig} {value : Text}

theorem ite_loadable {p : Prop} [Decidable p] {a b : Applied} (ha : a = .ok cfg' → Loadable cfg')
    (hb : b = .ok cfg' → Loadable cfg') (h : (if p then a else b) = .ok cfg') : Loadable cfg' := by
  split at h
  · exact ha h
  · exact hb h

theorem invalid_loadable (h : Applied.invalid = .ok cfg') : Loadable cfg' := by cases h

theorem ok_loadable {c : LotaConfig} (h : Applied.ok c = .ok cfg') (hc : Loadable c) :
    Loadable cfg' := by
  cases h
  exact hc

theorem applyBool_loadable {set : Bool → LotaConfig} (h : applyBool value set = .ok cfg')
    (hc : ∀ b, Loadable (set b)) : Loadable cfg' := by
  unfold applyBool at h
  split at h
  · exact ok_loadable h (hc _)
  · cases h

theorem applyNumber_loadable {lo hi : Int} {set : Int → LotaConfig}
    (h : applyNumber lo hi value set = .ok cfg')
    (hc : ∀ v, lo ≤ v ∧ v ≤ hi → Loadable (set v)) : Loadable cfg' := by
  unfold applyNumber at h
  split at h
  · cases h
  · rename_i v _
    split at h
    · cases h
    · exact ok_loadable h (hc v (by omega))

theorem applyHandle_loadable {set : UInt32 → LotaConfig} (h : applyHandle value set = .ok cfg')
    (hc : ∀ v, v ≠ 0 → Loadable (set v)) : Loadable cfg' := by
  unfold applyHandle at h
  split at h
  · cases h
  · rename_i v _
    split at h
    · cases h
    · rename_i hv
      refine ok_loadable h (hc _ fun h0 => ?_)
      have hnat : (UInt32.ofNat v).toNat = 0 := by rw [h0]; rfl
      rw [UInt32.toNat_ofNat'] at hnat
      omega

theorem applyPath_loadable (hval : Value value) {set : Text → LotaConfig}
    (h : applyPath value set = .ok cfg')
    (hc : ∀ v, StoredPath v → Loadable (set v)) : Loadable cfg' := by
  unfold applyPath at h
  split at h
  · rename_i hv
    rw [setStr_of_lt hval.lt_pathMax] at h
    exact ok_loadable h (hc value ⟨hv, hval⟩)
  · cases h

theorem applyPathList_loadable (hval : Value value) {limit : Nat} {entries : List Text}
    {set : List Text → LotaConfig}
    (he : ∀ v ∈ entries, StoredPath v) (h : applyPathList limit entries value set = .ok cfg')
    (hc : ∀ l : List Text, l.length ≤ limit ∧ (∀ v ∈ l, StoredPath v) → Loadable (set l)) :
    Loadable cfg' := by
  unfold applyPathList at h
  split at h
  · cases h
  · rename_i hlt
    refine applyPath_loadable hval h fun v hv => hc _ ⟨?_, ?_⟩
    · rw [List.length_append, List.length_singleton]
      omega
    · intro w hw
      rcases List.mem_append.mp hw with hw | hw
      · exact he w hw
      · rw [List.mem_singleton.mp hw]
        exact hv

theorem applyProtectPid_loadable (hl : Loadable cfg) (h : applyProtectPid cfg value = .ok cfg') :
    Loadable cfg' := by
  unfold applyProtectPid at h
  split at h
  · cases h
  · rename_i v _
    split at h
    · cases h
    · rename_i hv
      split at h
      · cases h
      · rename_i hlen
        cases h
        refine { hl with protectPids := ⟨?_, ?_⟩ }
        · rw [List.length_append, List.length_singleton]
          omega
        · intro hmem
          rcases List.mem_append.mp hmem with hold | hnew
          · exact hl.protectPids.2 hold
          · have hnat : (UInt32.ofNat v.toNat).toNat = 0 := by rw [← List.mem_singleton.mp hnew]; rfl
            rw [UInt32.toNat_ofNat'] at hnat
            omega

theorem applyContainerUid_loadable (hl : Loadable cfg)
    (h : applyContainerUid cfg value = .ok cfg') : Loadable cfg' := by
  unfold applyContainerUid at h
  split at h
  · cases h
  · split at h
    · cases h
    · split at h
      · cases h
      · rename_i hlen
        split at h
        · cases h
        · rename_i hnew
          cases h
          refine { hl with containerListenerUids := ⟨?_, ?_⟩ }
          · rw [List.length_append, List.length_singleton]
            omega
          · rw [List.nodup_append]
            refine ⟨hl.containerListenerUids.2, List.nodup_singleton _, fun a ha b hb => ?_⟩
            rw [List.mem_singleton.mp hb]
            exact fun he => hnew (he ▸ ha)

theorem applyMode_loadable (hl : Loadable cfg)
    (h : (if parseModeStrict value then Applied.ok { cfg with mode := setStr 32 value }
      else .invalid) = .ok cfg') :
    Loadable cfg' := by
  split at h
  · rename_i hm
    have hlen : value.length < 32 := by
      simp only [parseModeStrict, Bool.or_eq_true, decide_eq_true_eq] at hm
      rcases hm with (rfl | rfl) | rfl <;> decide
    rw [setStr_of_lt hlen] at h
    cases h
    exact { hl with mode := hm }
  · cases h

/-- One line keeps it. -/
theorem applyKey_loadable {key : Text} (hl : Loadable cfg) (hval : Value value)
    (h : applyKey cfg key value = .ok cfg') : Loadable cfg' := by
  unfold applyKey at h
  revert h
  refine ite_loadable (fun h => ok_loadable h { hl with server := hval.stored (by decide) }) ?_
  refine ite_loadable (fun h => applyNumber_loadable h fun _ hv => { hl with port := hv }) ?_
  refine ite_loadable (fun h => applyPath_loadable hval h fun _ hv => { hl with caCert := hv }) ?_
  apply ite_loadable invalid_loadable
  refine ite_loadable (fun h => ok_loadable h { hl with pinSha256 := hval.stored (by decide) }) ?_
  refine ite_loadable
    (fun h => applyPathList_loadable hval hl.allowVerity.2 h
      fun _ hv => { hl with allowVerity := hv }) ?_
  refine ite_loadable (fun h => applyPath_loadable hval h fun _ hv => { hl with bpfPath := hv }) ?_
  apply ite_loadable (applyMode_loadable hl)
  refine ite_loadable (fun h => applyBool_loadable h fun _ => { hl with }) ?_
  refine ite_loadable (fun h => applyBool_loadable h fun _ => { hl with }) ?_
  refine ite_loadable (fun h => applyBool_loadable h fun _ => { hl with }) ?_
  refine ite_loadable (fun h => applyBool_loadable h fun _ => { hl with }) ?_
  refine ite_loadable (fun h => applyBool_loadable h fun _ => { hl with }) ?_
  refine ite_loadable (fun h => applyBool_loadable h fun _ => { hl with }) ?_
  refine ite_loadable (fun h => applyBool_loadable h fun _ => { hl with }) ?_
  refine ite_loadable (fun h => applyBool_loadable h fun _ => { hl with }) ?_
  refine ite_loadable (fun h => applyNumber_loadable h fun _ hv => { hl with attestInterval := hv }) ?_
  refine ite_loadable (fun h => applyNumber_loadable h fun _ _ => { hl with }) ?_
  refine ite_loadable (fun h => applyHandle_loadable h fun _ hv => { hl with aikHandle := hv }) ?_
  refine ite_loadable (fun h => applyPath_loadable hval h fun _ hv => { hl with kernelPath := hv }) ?_
  refine ite_loadable (fun h => applyBool_loadable h fun _ => { hl with }) ?_
  refine ite_loadable (fun h => applyPath_loadable hval h fun _ hv => { hl with pidFile := hv }) ?_
  refine ite_loadable (fun h => applyPath_loadable hval h fun _ hv => { hl with signingKey := hv }) ?_
  refine ite_loadable (fun h => applyPath_loadable hval h fun _ hv => { hl with policyPubkey := hv }) ?_
  refine ite_loadable
    (fun h => applyPathList_loadable hval hl.trustLibs.2 h fun _ hv => { hl with trustLibs := hv }) ?_
  apply ite_loadable (applyProtectPid_loadable hl)
  apply ite_loadable (applyContainerUid_loadable hl)
  refine ite_loadable (fun h => ok_loadable h { hl with logLevel := hval.stored (by decide) }) ?_
  intro h
  cases h

end

theorem readLine_loadable {l : Loaded} (hl : Loadable l.cfg) (text : Text) :
    Loadable (readLine l text).1.cfg := by
  obtain ⟨core, hnl, hnul, hlen, htrim⟩ := trim_line text
  unfold readLine
  simp only
  split
  · exact hl
  unfold applyLine
  simp only [htrim]
  split
  · exact hl
  split
  · exact hl
  split
  · exact hl
  unfold applyPair
  split
  · rename_i hok
    exact applyKey_loadable hl (value_of_line hnl hnul hlen) hok
  · exact hl
  · exact hl

theorem loadLines_loadable (n : Nat) {l : Loaded} (hl : Loadable l.cfg) (text : Text) :
    Loadable (loadLines n l text).cfg := by
  induction n generalizing l text with
  | zero => exact hl
  | succ n ih =>
    cases text with
    | nil => exact hl
    | cons c text => exact ih (readLine_loadable hl (c :: text)) _

/-- **From any file.** -/
theorem loadText_loadable (text : Text) : Loadable (loadText text).cfg :=
  loadLines_loadable _ configInit_loadable _

end Lota.L6.FullConfig

import Lota.Core.Bytes
import Lota.Core.Text

/-!
# The configuration file (`agent/config.c`)

Lines `key = value`, read with `fgets` into a buffer of 1024 bytes. Every line
that is malformed, too long, or has an unknown key or an invalid value counts
as an error, and one error rejects the file. The values the reload uses are
kept; the other keys are only checked.

* `applyKey_wf`: what one line can put into a well-formed configuration.
* `loadStream_wf`: whatever the file, the values that are kept are well formed.
-/
namespace Lota.L6.ConfigFile
open Lota.Core

abbrev Text := List Char

def maxLine : Nat := 1024
def maxLibs : Nat := 64
def maxVerity : Nat := 256
def maxContainerListeners : Nat := 4
def maxProtectedPids : Nat := 1024

/-- The fields of `struct lota_config` that a reload uses, and the lists with a
limit. -/
structure Config where
  mode : Text
  strictMmap : Bool
  strictExec : Bool
  blockPtrace : Bool
  strictModules : Bool
  blockAnonExec : Bool
  policyPubkey : Text
  trustLibs : List Text
  allowVerity : List Text
  protectPids : List UInt32
  containerListenerUids : List UInt32
  deriving DecidableEq

/-- mirrors src/agent/config.c:187-232 -/
def configInit : Config where
  mode := "enforce".toList
  strictMmap := true
  strictExec := false
  blockPtrace := true
  strictModules := false
  blockAnonExec := true
  policyPubkey := []
  trustLibs := []
  allowVerity := []
  protectPids := []
  containerListenerUids := []

/-! ## Characters and numbers -/

/-- `isspace` -/
def isSpace (c : Char) : Bool := isCSpace c.toNat

/-- `iscntrl` -/
def isCntrl (c : Char) : Bool := c.toNat < 32 || c.toNat = 127

def isDigit (c : Char) : Bool := '0' ≤ c && c ≤ '9'

/-- mirrors src/agent/config.c:28-43 -/
def trim (s : Text) : Text := trimBoth isSpace s

def digitsValue (base : Nat) (s : Text) : Nat := s.foldl (fun n c => n * base + digitValue c.toNat) 0

/-- mirrors src/agent/parse_utils.h:18-33; `value` has no leading space. -/
def safeParseLong (value : Text) : Option Int :=
  let neg := value.head? = some '-'
  let digits := if value.head? = some '-' ∨ value.head? = some '+' then value.tail else value
  if digits = [] ∨ digits.all isDigit = false then none
  else
    let v : Int := if neg then -(digitsValue 10 digits : Int) else digitsValue 10 digits
    if v < -(2 ^ 63) ∨ v > 2 ^ 63 - 1 then none else some v

def isHexDigit (c : Char) : Bool := isDigit c || (97 ≤ c.toLower.toNat && c.toLower.toNat ≤ 102)

def isOctDigit (c : Char) : Bool := '0' ≤ c && c ≤ '7'

/-- Base 0: hexadecimal after `0x`, octal after `0`, else decimal.
mirrors src/agent/parse_utils.h:41-66 -/
def safeParseUlongBase0 (value : Text) : Option Nat :=
  let digits := if value.head? = some '+' then value.tail else value
  let parsed := match digits with
    | '0' :: x :: ds =>
      if x.toLower = 'x'
        then (if ds ≠ [] ∧ ds.all isHexDigit = true then some (digitsValue 16 ds) else none)
      else if (x :: ds).all isOctDigit = true then some (digitsValue 8 (x :: ds)) else none
    | ds => if ds ≠ [] ∧ ds.all isDigit = true then some (digitsValue 10 ds) else none
  parsed.filter (· < 2 ^ 64)

/-! ## Values -/

/-- mirrors src/agent/config.c:45-63 -/
def parseBoolStrict (value : Text) : Option Bool :=
  if value = "true".toList ∨ value = "yes".toList ∨ value = "1".toList then some true
  else if value = "false".toList ∨ value = "no".toList ∨ value = "0".toList then some false
  else none

/-- mirrors src/agent/config.c:65-75 -/
def parseModeStrict (value : Text) : Bool :=
  value = "monitor".toList || value = "enforce".toList || value = "maintenance".toList

/-- The parts of a path between slashes. -/
def segments (path : Text) : List Text := path.splitOn '/'

/-- mirrors src/agent/path_validate.h:14-38 -/
def hasDotdotSegment (path : Text) : Bool := (segments path).any (· = ['.', '.'])

/-- An empty value clears the field. mirrors src/agent/config.c:92-131 -/
def validatePathValue (value : Text) : Bool :=
  value = [] || (!value.any isCntrl && value.head? = some '/' && !hasDotdotSegment value)

/-! ## One line -/

inductive Applied where
  | ok (cfg : Config)
  | invalid
  | unknown

def keyIs (key : Text) (names : List String) : Bool := names.any fun name => key = name.toList

/-- A key whose value is only checked. -/
def checked (cfg : Config) (valid : Bool) : Applied := if valid then .ok cfg else .invalid

def applyBool (value : Text) (set : Bool → Config) : Applied :=
  match parseBoolStrict value with
  | some b => .ok (set b)
  | none => .invalid

/-- A number from `lo` to `hi`. -/
def inRange (lo hi : Int) (value : Text) : Bool := (safeParseLong value).any fun v => lo ≤ v && v ≤ hi

def applyPath (value : Text) (set : Text → Config) : Applied :=
  if validatePathValue value then .ok (set value) else .invalid

/-- An entry of a list of paths with a limit. -/
def applyPathList (limit : Nat) (entries : List Text) (value : Text) (set : List Text → Config) :
    Applied :=
  if entries.length ≥ limit then .invalid else applyPath value fun v => set (entries ++ [v])

def applyProtectPid (cfg : Config) (value : Text) : Applied :=
  match safeParseLong value with
  | none => .invalid
  | some v =>
    if v ≤ 0 ∨ v > 2 ^ 32 - 1 then .invalid
    else if cfg.protectPids.length ≥ maxProtectedPids then .invalid
    else .ok { cfg with protectPids := cfg.protectPids ++ [UInt32.ofNat v.toNat] }

def applyContainerUid (cfg : Config) (value : Text) : Applied :=
  match safeParseLong value with
  | none => .invalid
  | some v =>
    if v < 0 ∨ v > 2 ^ 32 - 1 then .invalid
    else if cfg.containerListenerUids.length ≥ maxContainerListeners then .invalid
    else if UInt32.ofNat v.toNat ∈ cfg.containerListenerUids then .invalid
    else .ok { cfg with containerListenerUids := cfg.containerListenerUids ++ [UInt32.ofNat v.toNat] }

/-- mirrors src/agent/config.c:241-576 -/
def applyKey (cfg : Config) (key value : Text) : Applied :=
  if keyIs key ["server"] then checked cfg true
  else if keyIs key ["port"] then checked cfg (inRange 1 65535 value)
  else if keyIs key ["ca_cert", "ca-cert"] then checked cfg (validatePathValue value)
  else if keyIs key ["no_verify_tls", "no-verify-tls"] then .invalid
  else if keyIs key ["pin_sha256", "pin-sha256"] then checked cfg true
  else if keyIs key ["allow_verity", "allow-verity"] then
    applyPathList maxVerity cfg.allowVerity value fun l => { cfg with allowVerity := l }
  else if keyIs key ["bpf_path", "bpf-path", "bpf"] then checked cfg (validatePathValue value)
  else if keyIs key ["mode"] then
    if parseModeStrict value then .ok { cfg with mode := value } else .invalid
  else if keyIs key ["strict_mmap", "strict-mmap"] then applyBool value fun b =>
    { cfg with strictMmap := b }
  else if keyIs key ["strict_exec", "strict-exec"] then applyBool value fun b =>
    { cfg with strictExec := b }
  else if keyIs key ["block_ptrace", "block-ptrace"] then applyBool value fun b =>
    { cfg with blockPtrace := b }
  else if keyIs key ["strict_modules", "strict-modules"] then applyBool value fun b =>
    { cfg with strictModules := b }
  else if keyIs key ["block_anon_exec", "block-anon-exec"] then applyBool value fun b =>
    { cfg with blockAnonExec := b }
  else if keyIs key ["seal_aik_auth", "seal-aik-auth"] then applyBool value fun _ => cfg
  else if keyIs key ["seal_aik_auth_strict", "seal-aik-auth-strict"] then applyBool value fun _ => cfg
  else if keyIs key ["seal_persistent_primary", "seal-persistent-primary"]
    then applyBool value fun _ => cfg
  else if keyIs key ["attest_interval", "attest-interval"]
    then checked cfg (inRange 0 (2 ^ 31 - 1) value)
  else if keyIs key ["aik_ttl", "aik-ttl"] then checked cfg (inRange 0 (2 ^ 32 - 1) value)
  else if keyIs key ["aik_handle", "aik-handle"] then
    checked cfg ((safeParseUlongBase0 value).any fun v => v ≠ 0 && v ≤ 2 ^ 32 - 1)
  else if keyIs key ["kernel_path", "kernel-path"] then checked cfg (validatePathValue value)
  else if keyIs key ["daemon"] then applyBool value fun _ => cfg
  else if keyIs key ["pid_file", "pid-file"] then checked cfg (validatePathValue value)
  else if keyIs key ["signing_key", "signing-key"] then checked cfg (validatePathValue value)
  else if keyIs key ["policy_pubkey", "policy-pubkey"] then applyPath value fun v =>
    { cfg with policyPubkey := v }
  else if keyIs key ["trust_lib", "trust-lib"] then
    applyPathList maxLibs cfg.trustLibs value fun l => { cfg with trustLibs := l }
  else if keyIs key ["protect_pid", "protect-pid"] then applyProtectPid cfg value
  else if keyIs key ["container_listener_uid", "container-listener-uid"]
    then applyContainerUid cfg value
  else if keyIs key ["log_level", "log-level"] then checked cfg true
  else .unknown

/-- What the loop carries: the configuration and the number of errors. -/
structure Loaded where
  cfg : Config
  errors : Nat

def Loaded.fail (l : Loaded) : Loaded := { l with errors := l.errors + 1 }

/-- A line that was read whole. mirrors src/agent/config.c:610-646 -/
def applyLine (l : Loaded) (line : Text) : Loaded :=
  let trimmed := trim line
  if trimmed = [] ∨ trimmed.head? = some '#' then l
  else if '=' ∉ trimmed then l.fail
  else
    let key := trim (trimmed.takeWhile (· ≠ '='))
    let value := trim (trimmed.dropWhile (· ≠ '=')).tail
    if key = [] then l.fail
    else match applyKey l.cfg key value with
      | .ok cfg => { l with cfg }
      | .invalid => l.fail
      | .unknown => l.fail

/-! ## The file -/

/-- Up to `n` characters and not past a newline: the line, and whether it ends
in one. -/
def takeLine : Nat → Text → Text × Text
  | 0, text => ([], text)
  | _, [] => ([], [])
  | n + 1, c :: text =>
    if c = '\n' then ([c], text)
    else ((c :: (takeLine n text).1), (takeLine n text).2)

/-- A string ends at its first NUL. -/
def cString (s : Text) : Text := s.takeWhile (· ≠ '\x00')

/-- One turn of the loop, on a file that has not ended. A line without a
newline is too long unless the end of the file came first; the rest of it is
then skipped. mirrors src/agent/config.c:590-646 -/
def readLine (l : Loaded) (text : Text) : Loaded × Text :=
  let (chunk, rest) := takeLine (maxLine - 1) text
  let line := cString chunk
  let eof := chunk.getLast? ≠ some '\n' ∧ chunk.length < maxLine - 1
  if line ≠ [] ∧ line.getLast? ≠ some '\n' ∧ ¬ eof then (l.fail, (rest.dropWhile (· ≠ '\n')).tail)
  else (applyLine l line, rest)

/-- The loop, with a turn for each character at most. -/
def loadLines : Nat → Loaded → Text → Loaded
  | 0, l, _ => l
  | _, l, [] => l
  | n + 1, l, c :: text =>
    let (l', rest) := readLine l (c :: text)
    loadLines n l' rest

/-- A byte as a character. -/
def toText (data : Bytes) : Text := data.map fun b => Char.ofNat b.toNat

/-- mirrors src/agent/config.c:578-656, for a file read without an I/O error. -/
def loadStream (data : Bytes) : Option Config :=
  let text := toText data
  let l := loadLines text.length { cfg := configInit, errors := 0 } text
  if l.errors > 0 then none else some l.cfg

/-! ## Enough turns -/

theorem takeLine_length (n : Nat) (text : Text) :
    (takeLine n text).1.length + (takeLine n text).2.length = text.length := by
  induction n generalizing text with
  | zero => simp [takeLine]
  | succ n ih =>
    cases text with
    | nil => simp [takeLine]
    | cons c text =>
      unfold takeLine
      split
      · simp; omega
      · have := ih text
        simp only [List.length_cons]
        omega

/-- Every turn takes a character at least. -/
theorem readLine_shorter (l : Loaded) (c : Char) (text : Text) :
    (readLine l (c :: text)).2.length ≤ text.length := by
  have htake : (takeLine (maxLine - 1) (c :: text)).2.length ≤ text.length := by
    show (takeLine (1022 + 1) (c :: text)).2.length ≤ text.length
    unfold takeLine
    split
    · exact Nat.le_refl _
    · have := takeLine_length 1022 text
      simp only
      omega
  unfold readLine
  simp only
  split
  · have hdrop :=
      (List.dropWhile_sublist (· ≠ '\n') (l := (takeLine (maxLine - 1) (c :: text)).2)).length_le
    simp only [List.length_tail]
    omega
  · exact htake

theorem loadLines_enough (n : Nat) (l : Loaded) (text : Text) (hn : text.length ≤ n) :
    loadLines n l text = loadLines text.length l text := by
  induction n using Nat.strongRecOn generalizing l text with
  | ind n ih =>
    cases text with
    | nil => cases n <;> rfl
    | cons c text =>
      cases n with
      | zero => simp at hn
      | succ n =>
        simp only [List.length_cons, Nat.add_le_add_iff_right] at hn
        have hshort := readLine_shorter l c text
        show loadLines n (readLine l (c :: text)).1 (readLine l (c :: text)).2 =
          loadLines text.length (readLine l (c :: text)).1 (readLine l (c :: text)).2
        rw [ih n (Nat.lt_succ_self n) _ _ (by omega)]
        by_cases ht : text.length = n
        · rw [ht, ih n (Nat.lt_succ_self n) _ _ (by omega)]
        · rw [ih text.length (by omega) _ _ hshort]

/-! ## What is accepted is well formed -/

structure WellFormed (cfg : Config) : Prop where
  mode : parseModeStrict cfg.mode = true
  policyPubkey : validatePathValue cfg.policyPubkey = true
  trustLibs : cfg.trustLibs.length ≤ maxLibs
  allowVerity : cfg.allowVerity.length ≤ maxVerity
  protectPids : cfg.protectPids.length ≤ maxProtectedPids
  pids : 0 ∉ cfg.protectPids

theorem configInit_wf : WellFormed configInit := by
  refine ⟨by decide, by decide, ?_, ?_, ?_, ?_⟩
  · exact Nat.zero_le _
  · exact Nat.zero_le _
  · exact Nat.zero_le _
  · exact List.not_mem_nil

section
variable {cfg cfg' : Config} {value : Text}

theorem checked_wf {valid : Bool} (hw : WellFormed cfg) (h : checked cfg valid = .ok cfg') :
    WellFormed cfg' := by
  unfold checked at h
  split at h
  · cases h
    exact hw
  · cases h

theorem applyBool_wf {set : Bool → Config} (h : applyBool value set = .ok cfg')
    (hw : ∀ b, WellFormed (set b)) : WellFormed cfg' := by
  unfold applyBool at h
  split at h
  · cases h
    exact hw _
  · cases h

theorem applyPath_wf {set : Text → Config} (h : applyPath value set = .ok cfg')
    (hw : ∀ v, validatePathValue v = true → WellFormed (set v)) : WellFormed cfg' := by
  unfold applyPath at h
  split at h
  · rename_i hv
    cases h
    exact hw value hv
  · cases h

theorem applyPathList_wf {limit : Nat} {entries : List Text} {set : List Text → Config}
    (h : applyPathList limit entries value set = .ok cfg')
    (hw : ∀ l : List Text, l.length ≤ limit → WellFormed (set l)) : WellFormed cfg' := by
  unfold applyPathList at h
  split at h
  · cases h
  · rename_i hlt
    refine applyPath_wf h (fun v _ => hw _ ?_)
    rw [List.length_append, List.length_singleton]
    omega

theorem applyProtectPid_wf (hw : WellFormed cfg) (h : applyProtectPid cfg value = .ok cfg') :
    WellFormed cfg' := by
  unfold applyProtectPid at h
  split at h
  · cases h
  · rename_i v _
    split at h
    · cases h
    · rename_i hv
      split at h
      · cases h
      · rename_i hlen
        cases h
        refine { hw with protectPids := ?_, pids := ?_ }
        · rw [List.length_append, List.length_singleton]
          omega
        · intro hmem
          rcases List.mem_append.mp hmem with hold | hnew
          · exact hw.pids hold
          · have heq := List.mem_singleton.mp hnew
            have hnat : (UInt32.ofNat v.toNat).toNat = 0 := by rw [← heq]; rfl
            rw [UInt32.toNat_ofNat'] at hnat
            omega

theorem applyContainerUid_wf (hw : WellFormed cfg) (h : applyContainerUid cfg value = .ok cfg') :
    WellFormed cfg' := by
  unfold applyContainerUid at h
  split at h
  · cases h
  · split at h
    · cases h
    · split at h
      · cases h
      · split at h
        · cases h
        · cases h
          exact { hw with }

theorem ite_wf {p : Prop} [Decidable p] {a b : Applied} (ha : a = .ok cfg' → WellFormed cfg')
    (hb : b = .ok cfg' → WellFormed cfg') (h : (if p then a else b) = .ok cfg') : WellFormed cfg' := by
  split at h
  · exact ha h
  · exact hb h

theorem invalid_wf (h : Applied.invalid = .ok cfg') : WellFormed cfg' := by cases h

theorem applyMode_wf (hw : WellFormed cfg)
    (h : (if parseModeStrict value = true then Applied.ok { cfg with mode := value }
      else .invalid) = .ok cfg') :
    WellFormed cfg' := by
  split at h
  · rename_i hm
    cases h
    exact { hw with mode := hm }
  · cases h

/-- One line can put only valid values into the configuration. -/
theorem applyKey_wf {key : Text} (hw : WellFormed cfg) (h : applyKey cfg key value = .ok cfg') :
    WellFormed cfg' := by
  unfold applyKey at h
  revert h
  apply ite_wf (checked_wf hw)
  apply ite_wf (checked_wf hw)
  apply ite_wf (checked_wf hw)
  apply ite_wf invalid_wf
  apply ite_wf (checked_wf hw)
  refine ite_wf (fun h => applyPathList_wf h fun _ hl => { hw with allowVerity := hl }) ?_
  apply ite_wf (checked_wf hw)
  apply ite_wf (applyMode_wf hw)
  refine ite_wf (fun h => applyBool_wf h fun _ => { hw with }) ?_
  refine ite_wf (fun h => applyBool_wf h fun _ => { hw with }) ?_
  refine ite_wf (fun h => applyBool_wf h fun _ => { hw with }) ?_
  refine ite_wf (fun h => applyBool_wf h fun _ => { hw with }) ?_
  refine ite_wf (fun h => applyBool_wf h fun _ => { hw with }) ?_
  refine ite_wf (fun h => applyBool_wf h fun _ => hw) ?_
  refine ite_wf (fun h => applyBool_wf h fun _ => hw) ?_
  refine ite_wf (fun h => applyBool_wf h fun _ => hw) ?_
  apply ite_wf (checked_wf hw)
  apply ite_wf (checked_wf hw)
  apply ite_wf (checked_wf hw)
  apply ite_wf (checked_wf hw)
  refine ite_wf (fun h => applyBool_wf h fun _ => hw) ?_
  apply ite_wf (checked_wf hw)
  apply ite_wf (checked_wf hw)
  refine ite_wf (fun h => applyPath_wf h fun _ hv => { hw with policyPubkey := hv }) ?_
  refine ite_wf (fun h => applyPathList_wf h fun _ hl => { hw with trustLibs := hl }) ?_
  apply ite_wf (applyProtectPid_wf hw)
  apply ite_wf (applyContainerUid_wf hw)
  apply ite_wf (checked_wf hw)
  intro h
  cases h

end

theorem applyLine_wf {l : Loaded} (hw : WellFormed l.cfg) (line : Text) :
    WellFormed (applyLine l line).cfg := by
  unfold applyLine
  simp only
  split
  · exact hw
  · split
    · exact hw
    · split
      · exact hw
      · split
        · rename_i hok
          exact applyKey_wf hw hok
        · exact hw
        · exact hw

theorem readLine_wf {l : Loaded} (hw : WellFormed l.cfg) (text : Text) :
    WellFormed (readLine l text).1.cfg := by
  unfold readLine
  simp only
  split
  · exact hw
  · exact applyLine_wf hw _

theorem loadLines_wf (n : Nat) {l : Loaded} (hw : WellFormed l.cfg) (text : Text) :
    WellFormed (loadLines n l text).cfg := by
  induction n generalizing l text with
  | zero => exact hw
  | succ n ih =>
    cases text with
    | nil => exact hw
    | cons c text => exact ih (readLine_wf hw (c :: text)) _

/-- **Well-formed.** A configuration that is accepted has one of the three
modes, an absolute path for its key or none, and lists within their limits. -/
theorem loadStream_wf {data : Bytes} {cfg : Config} (h : loadStream data = some cfg) :
    WellFormed cfg := by
  unfold loadStream at h
  simp only at h
  split at h
  · cases h
  · rw [← Option.some.inj h]
    exact loadLines_wf _ configInit_wf _

end Lota.L6.ConfigFile

import Lota.Core.Decimal
import Lota.L6Agent.FullConfig

/-!
# Dumping the configuration (`agent/config.c`)

`config_dump` writes the settings as lines that `config_load` is to read back.
It leaves out the three sealing flags, spells every key in its long form, and
prints strings as they are stored.

* `loadText_render`: a dump is read line by line.
* `loadText_configDump`: what comes back of a dump whose lines fit.
* `config_dump_round_trip_iff`: which configurations come back as they were.
-/
namespace Lota.L6.FullConfig
open Lota.Core Lota.L6.ConfigFile

/-! ## The dump -/

/-- One line of the dump. -/
inductive Item where
  /-- A comment or an empty line. -/
  | text (line : String)
  | pair (key : String) (value : Text)

def Item.line : Item → Text
  | .text line => line.toList
  | .pair key value => key.toList ++ (' ' :: '=' :: ' ' :: value)

/-- `%d` -/
def fmtD (v : Int) : Text :=
  if v < 0 then '-' :: Nat.toDigits 10 (-v).toNat else Nat.toDigits 10 v.toNat

/-- `%u` -/
def fmtU (v : UInt32) : Text := Nat.toDigits 10 v.toNat

/-- `0x%08X` -/
def fmtHandle (v : UInt32) : Text :=
  let ds := (Nat.toDigits 16 v.toNat).map Char.toUpper
  '0' :: 'x' :: (List.replicate (8 - ds.length) '0' ++ ds)

def fmtBool (b : Bool) : Text := if b then "true".toList else "false".toList

/-- A string that is printed if it is not empty. -/
def optional (key : String) (value : Text) : List Item := if value = [] then [] else [.pair key value]

/-- A list that is printed under its title if it is not empty. -/
def listed (title key : String) (values : List Text) : List Item :=
  if values = [] then [] else [.text "", .text title] ++ values.map (.pair key)

/-- mirrors src/agent/config.c:738-746 -/
def verifierItems (cfg : LotaConfig) : List Item :=
  [.text "# LOTA Agent effective configuration", .text "", .text "# Verifier connection",
    .pair "server" cfg.server,
    .pair "port" (fmtD cfg.port)] ++
    (optional "ca_cert" cfg.caCert ++ optional "pin_sha256" cfg.pinSha256)

/-- mirrors src/agent/config.c:748-758 -/
def bpfItems (cfg : LotaConfig) : List Item :=
  [.text "", .text "# BPF / enforcement", .pair "bpf_path" cfg.bpfPath, .pair "mode" cfg.mode,
    .pair "strict_mmap" (fmtBool cfg.strictMmap), .pair "strict_exec" (fmtBool cfg.strictExec),
    .pair "block_ptrace" (fmtBool cfg.blockPtrace), .pair "strict_modules" (fmtBool cfg.strictModules),
    .pair "block_anon_exec" (fmtBool cfg.blockAnonExec)]

/-- mirrors src/agent/config.c:760-765 -/
def attestItems (cfg : LotaConfig) : List Item :=
  [.text "", .text "# Attestation", .pair "attest_interval" (fmtD cfg.attestInterval),
    .pair "aik_ttl" (fmtU cfg.aikTtl),
    .pair "aik_handle" (fmtHandle cfg.aikHandle)] ++ optional "kernel_path" cfg.kernelPath

/-- mirrors src/agent/config.c:767-778 -/
def daemonItems (cfg : LotaConfig) : List Item :=
  [.text "", .text "# Daemon", .pair "daemon" (fmtBool cfg.daemon), .pair "pid_file" cfg.pidFile,
    .text "",
    .text "# Policy signing"] ++
    (optional "signing_key" cfg.signingKey ++ (optional "policy_pubkey" cfg.policyPubkey ++
    [.text "", .text "# Logging", .pair "log_level" cfg.logLevel]))

/-- mirrors src/agent/config.c:780-805 -/
def listItems (cfg : LotaConfig) : List Item :=
  listed "# Trusted libraries" "trust_lib" cfg.trustLibs ++
  (listed "# Allowed fs-verity files" "allow_verity" cfg.allowVerity ++
  (listed "# Protected PIDs" "protect_pid" (cfg.protectPids.map fmtU) ++
  listed "# Container-accessible IPC listeners (per operator UID)" "container_listener_uid"
    (cfg.containerListenerUids.map fmtU)))

def dumpItems (cfg : LotaConfig) : List Item :=
  verifierItems cfg ++ (bpfItems cfg ++ (attestItems cfg ++ (daemonItems cfg ++ listItems cfg)))

def render (items : List Item) : Text := items.flatMap fun i => i.line ++ ['\n']

/-- mirrors src/agent/config.c:733-806 -/
def configDump (cfg : LotaConfig) : Text := render (dumpItems cfg)

/-! ## Reading a line back -/

/-- Characters that a key has none of. -/
def plain (c : Char) : Bool := !isSpace c && c ≠ '=' && c ≠ '#' && c ≠ '\n' && c ≠ '\x00'

/-- A line that is read as it was meant. -/
def Item.Readable : Item → Prop
  | .text line => (line.toList = [] ∨ line.toList.head? = some '#') ∧ '\n' ∉ line.toList ∧
    '\x00' ∉ line.toList ∧
      line.toList.length < maxLine - 1
  | .pair key value => key.toList ≠ [] ∧ key.toList.all plain = true ∧ Front value ∧ '\n' ∉ value ∧
    '\x00' ∉ value

def Item.fits (i : Item) : Bool := i.line.length + 1 < maxLine

/-- What the loader does with a line. -/
def apply (l : Loaded) : Item → Loaded
  | .text _ => l
  | .pair key value =>
    if (Item.pair key value).fits then applyPair l key.toList (trimEnd value) else l.fail

theorem takeLine_fits {line : Text} (hnl : '\n' ∉ line) {n : Nat} (h : line.length < n) (rest : Text) :
    takeLine n (line ++ '\n' :: rest) = (line ++ ['\n'], rest) := by
  induction line generalizing n with
  | nil =>
    cases n with
    | zero => cases h
    | succ n => simp [takeLine]
  | cons c line ih =>
    rw [List.mem_cons, not_or] at hnl
    cases n with
    | zero => cases h
    | succ n =>
      have hrest := ih hnl.2 (Nat.lt_of_succ_lt_succ h)
      simp [takeLine, Ne.symm hnl.1, hrest]

theorem takeLine_long {line : Text} (hnl : '\n' ∉ line) {n : Nat} (h : n ≤ line.length) (rest : Text) :
    takeLine n (line ++ rest) = (line.take n, line.drop n ++ rest) := by
  induction line generalizing n with
  | nil =>
    rw [Nat.le_zero.mp h]
    rfl
  | cons c line ih =>
    rw [List.mem_cons, not_or] at hnl
    cases n with
    | zero => rfl
    | succ n =>
      have hrest := ih hnl.2 (Nat.le_of_succ_le_succ h)
      simp [takeLine, Ne.symm hnl.1, hrest]

theorem cString_eq_self {s : Text} (h : '\x00' ∉ s) : cString s = s := by
  unfold cString
  rw [List.takeWhile_eq_self_iff]
  intro c hc
  simp only [decide_eq_true_eq]
  exact fun he => h (he ▸ hc)

theorem readLine_fits (l : Loaded) {line : Text} (hnl : '\n' ∉ line) (hnul : '\x00' ∉ line)
    (h : line.length < maxLine - 1) (rest : Text) :
    readLine l (line ++ '\n' :: rest) = (applyLine l (line ++ ['\n']), rest) := by
  have hc : cString (line ++ ['\n']) = line ++ ['\n'] := by
    apply cString_eq_self
    intro hm
    rcases List.mem_append.mp hm with hm | hm
    · exact hnul hm
    · exact absurd (List.mem_singleton.mp hm) (by decide)
  unfold readLine
  rw [takeLine_fits hnl h]
  simp only [hc]
  rw [if_neg (by simp)]

theorem readLine_long (l : Loaded) {line : Text} (hnl : '\n' ∉ line) (hnul : '\x00' ∉ line)
    (h : maxLine - 1 ≤ line.length) (rest : Text) :
    readLine l (line ++ '\n' :: rest) = (l.fail, rest) := by
  have hlen : (line.take (maxLine - 1)).length = maxLine - 1 := List.length_take_of_le h
  have hc : cString (line.take (maxLine - 1)) = line.take (maxLine - 1) :=
    cString_eq_self fun hm => hnul (List.mem_of_mem_take hm)
  have hne : line.take (maxLine - 1) ≠ [] := by
    intro h0
    rw [h0] at hlen
    exact absurd hlen (by decide)
  have hlast : (line.take (maxLine - 1)).getLast? ≠ some '\n' := by
    intro hl
    exact hnl (List.mem_of_mem_take (List.mem_of_getLast? hl))
  have hskip : (line.drop (maxLine - 1) ++ '\n' :: rest).dropWhile (· ≠ '\n') = '\n' :: rest := by
    rw [List.dropWhile_append_of_pos]
    · exact List.dropWhile_cons_of_neg (by simp)
    · intro c hm
      simp only [decide_eq_true_eq]
      exact fun he => hnl (he ▸ List.mem_of_mem_drop hm)
  unfold readLine
  rw [takeLine_long hnl h]
  simp only [hc]
  rw [if_pos ⟨hne, hlast, by simp [hlen]⟩, hskip, List.tail_cons]

theorem applyLine_text (l : Loaded) {line : String}
    (h : line.toList = [] ∨ line.toList.head? = some '#') :
    applyLine l (line.toList ++ ['\n']) = l := by
  unfold applyLine
  rw [trim_append_newline]
  simp only
  rw [if_pos]
  rcases h with h | h
  · rw [h]
    exact .inl rfl
  · -- the sign stays in front
    obtain ⟨cs, hcs⟩ := List.head?_eq_some_iff.mp h
    have hfront : Front line.toList := by
      intro c hc
      rw [h] at hc
      cases hc
      decide
    rw [trim_eq, hfront.dropWhile]
    obtain ⟨t, ht⟩ := prefix_trimEnd line.toList
    cases htrim : trimEnd line.toList with
    | nil => exact .inl rfl
    | cons c cs' =>
      rw [htrim, hcs] at ht
      cases ht
      exact .inr rfl

theorem plain_iff {c : Char} :
    plain c = true ↔ isSpace c = false ∧ c ≠ '=' ∧ c ≠ '#' ∧ c ≠ '\n' ∧ c ≠ '\x00' := by
  simp [plain, and_assoc]

/-- The line of a pair comes apart into the key and the value without the
spaces at its end. -/
theorem applyLine_pair (l : Loaded) {key : Text} {value : Text} (hkey : key ≠ [])
    (hplain : key.all plain = true)
    (hfront : Front value) :
    applyLine l ((key ++ (' ' :: '=' :: ' ' :: value)) ++ ['\n']) = applyPair l key
    (trimEnd value) := by
  have hp : ∀ c ∈ key, isSpace c = false ∧ c ≠ '=' ∧ c ≠ '#' ∧ c ≠ '\n' ∧ c ≠ '\x00' := by
    intro c hc
    exact plain_iff.mp (List.all_eq_true.mp hplain c hc)
  obtain ⟨k, ks, rfl⟩ : ∃ k ks, key = k :: ks := List.exists_cons_of_ne_nil hkey
  obtain ⟨hk, hkeq, hkhash, -, -⟩ := hp k (List.mem_cons_self ..)
  have hfrontKey : Front ((k :: ks) ++ (' ' :: '=' :: ' ' :: value)) := by
    intro c hc
    cases hc
    exact hk
  have hbackKey : Back (k :: ks) := fun c hc => (hp c (List.mem_of_getLast? hc)).1
  -- behind the sign: nothing, or a space and the value
  obtain ⟨w, htrim, hw⟩ : ∃ w, trim ((k :: ks) ++ (' ' :: '=' :: ' ' :: value)) = (k :: ks) ++
      (' ' :: '=' :: w) ∧ trim w = trimEnd value := by
    rw [trim_eq, hfrontKey.dropWhile]
    by_cases hv : trimEnd value = []
    · have hspaces : ∀ c ∈ ' ' :: value, isSpace c = true := by
        intro c hc
        rcases List.mem_cons.mp hc with rfl | hc
        · decide
        · exact List.rdropWhile_eq_nil_iff.mp hv c hc
      refine ⟨[], ?_, hv.symm⟩
      have hsplit : (k :: ks) ++ (' ' :: '=' :: ' ' :: value) = ((k :: ks) ++ [' ', '=']) ++
          (' ' :: value) := by simp
      rw [hsplit, trimEnd_append_space hspaces, trimEnd_eq_self.mpr]
      intro c hc
      simp only [List.getLast?_append, List.getLast?_cons_cons, List.getLast?_singleton, Option.some_or,
        Option.some.injEq] at hc
      rw [← hc]
      decide
    · refine ⟨' ' :: trimEnd value, ?_, ?_⟩
      · have hsplit : (k :: ks) ++ (' ' :: '=' :: ' ' :: value) = ((k :: ks) ++ [' ', '=', ' ']) ++
            value := by simp
        rw [hsplit, trimEnd_append hv]
        simp
      · rw [trim_eq, List.dropWhile_cons_of_pos (by decide), hfront.trimEnd.dropWhile]
        exact trimEnd_eq_self.mpr (trimEnd_back value)
  have htake : ((k :: ks) ++ (' ' :: '=' :: w)).takeWhile (· ≠ '=') = (k :: ks) ++ [' '] := by
    rw [List.takeWhile_append_of_pos fun c hc => by simpa using (hp c hc).2.1]
    simp
  have hdrop : ((k :: ks) ++ (' ' :: '=' :: w)).dropWhile (· ≠ '=') = '=' :: w := by
    rw [List.dropWhile_append_of_pos fun c hc => by simpa using (hp c hc).2.1]
    simp
  have hkeytrim : trim ((k :: ks) ++ [' ']) = k :: ks := by
    have hf : Front ((k :: ks) ++ [' ']) := by
      intro c hc
      cases hc
      exact hk
    have hspace : ∀ c ∈ [' '], isSpace c = true := by
      intro c hc
      rw [List.mem_singleton.mp hc]
      rfl
    rw [trim_eq, hf.dropWhile, trimEnd_append_space hspace, trimEnd_eq_self.mpr hbackKey]
  unfold applyLine
  rw [trim_append_newline, htrim]
  simp only [htake, hdrop, hkeytrim, List.tail_cons, hw]
  rw [if_neg (by simp [hkhash]), if_neg (by simp), if_neg (by simp)]

theorem line_newline {i : Item} (h : i.Readable) : '\n' ∉ i.line ∧ '\x00' ∉ i.line := by
  cases i with
  | text line => exact ⟨h.2.1, h.2.2.1⟩
  | pair key value =>
    obtain ⟨-, hplain, -, hnl, hnul⟩ := h
    have hp := fun c hc => plain_iff.mp (List.all_eq_true.mp hplain c hc)
    have hkn : '\n' ∉ key.toList := fun hc => (hp _ hc).2.2.2.1 rfl
    have hk0 : '\x00' ∉ key.toList := fun hc => (hp _ hc).2.2.2.2 rfl
    simp [Item.line, hkn, hk0, hnl, hnul]

theorem readLine_item (l : Loaded) {i : Item} (h : i.Readable) (rest : Text) :
    readLine l (i.line ++ '\n' :: rest) = (apply l i, rest) := by
  obtain ⟨hnl, hnul⟩ := line_newline h
  by_cases hfit : i.line.length < maxLine - 1
  · rw [readLine_fits l hnl hnul hfit]
    cases i with
    | text line =>
      rw [Item.line, applyLine_text l h.1]
      rfl
    | pair key value =>
      have hf : (Item.pair key value).fits = true := by
        simp only [Item.fits, decide_eq_true_eq]
        omega
      rw [Item.line, applyLine_pair l h.1 h.2.1 h.2.2.1, apply, if_pos hf]
  · rw [readLine_long l hnl hnul (Nat.not_lt.mp hfit)]
    cases i with
    | text line => exact absurd h.2.2.2 hfit
    | pair key value =>
      have hf : ¬ (Item.pair key value).fits = true := by
        simp only [Item.fits, decide_eq_true_eq]
        omega
      rw [apply, if_neg hf]

theorem loadLines_render {items : List Item} (h : ∀ i ∈ items, i.Readable) (l : Loaded) {n : Nat}
    (hn : (render items).length ≤ n) : loadLines n l (render items) = items.foldl apply l := by
  induction items generalizing l n with
  | nil => cases n <;> rfl
  | cons i items ih =>
    have hr : render (i :: items) = i.line ++ '\n' :: render items := by simp [render]
    rw [hr, List.length_append, List.length_cons] at hn
    rw [hr, List.foldl_cons]
    cases n with
    | zero => omega
    | succ n =>
      have hline := readLine_item l (h i (List.mem_cons_self ..)) (render items)
      have hrest :=
        ih (fun j hj => h j (List.mem_cons_of_mem _ hj)) (apply l i)
          (by omega : (render items).length ≤ n)
      obtain ⟨c, cs, hc⟩ : ∃ c cs, i.line ++ '\n' :: render items = c :: cs :=
        List.exists_cons_of_ne_nil (by simp)
      rw [hc] at hline ⊢
      rw [loadLines, hline]
      exact hrest

/-- **Line by line.** -/
theorem loadText_render {items : List Item} (h : ∀ i ∈ items, i.Readable) :
    loadText (render items) = items.foldl apply { cfg := configInit, errors := 0 } :=
  loadLines_render h _ (Nat.le_refl _)

/-! ## Numbers -/

theorem mem_toDigits {b n : Nat} (hb : 1 < b) {c : Char} (h : c ∈ Nat.toDigits b n) :
    ∃ d < b, c = Nat.digitChar d := by
  induction n using Nat.strongRecOn with
  | ind n ih =>
    by_cases hn : n < b
    · rw [Nat.toDigits_of_lt_base hn, List.mem_singleton] at h
      exact ⟨n, hn, h⟩
    · have hlt : n / b < n := Nat.div_lt_self (by omega) hb
      rw [Nat.toDigits_of_base_le hb (Nat.not_lt.mp hn), List.mem_append, List.mem_singleton] at h
      rcases h with h | h
      · exact ih (n / b) hlt h
      · exact ⟨n % b, Nat.mod_lt n (by omega), h⟩

/-- The digits of a number, in some spelling, have its value. -/
theorem digitsValue_toDigits {b : Nat} (hb : 1 < b) {f : Char → Char}
    (hf : ∀ d < b, digitValue (f (Nat.digitChar d)).toNat = d)
    (n : Nat) : digitsValue b ((Nat.toDigits b n).map f) = n := by
  induction n using Nat.strongRecOn with
  | ind n ih =>
    by_cases hn : n < b
    · rw [Nat.toDigits_of_lt_base hn]
      have hv := hf n hn
      simp only [List.map_cons, List.map_nil, digitsValue, List.foldl_cons, List.foldl_nil,
        Nat.zero_mul, Nat.zero_add]
      exact hv
    · have hlt : n / b < n := Nat.div_lt_self (by omega) hb
      have hrest := ih (n / b) hlt
      have hlast := hf (n % b) (Nat.mod_lt n (by omega))
      rw [Nat.toDigits_of_base_le hb (Nat.not_lt.mp hn), List.map_append, digitsValue,
        List.foldl_append]
      unfold digitsValue at hrest
      rw [hrest]
      show n / b * b + digitValue (f (Nat.digitChar (n % b))).toNat = n
      rw [hlast, Nat.mul_comm]
      exact Nat.div_add_mod n b

theorem digitChar_ten :
    ∀ d < 10, digitValue (Nat.digitChar d).toNat = d ∧ isDigit (Nat.digitChar d) = true ∧
    Nat.digitChar d ≠ '-' ∧ Nat.digitChar d ≠ '+' ∧ isSpace (Nat.digitChar d) = false ∧
    Nat.digitChar d ≠ '\n' ∧ Nat.digitChar d ≠ '\x00' := by decide

theorem digitChar_sixteen :
    ∀ d < 16, digitValue (Nat.digitChar d).toUpper.toNat = d ∧
    isHexDigit (Nat.digitChar d).toUpper = true ∧
    isSpace (Nat.digitChar d).toUpper = false ∧ (Nat.digitChar d).toUpper ≠ '\n' ∧
    (Nat.digitChar d).toUpper ≠ '\x00' := by
  decide

theorem mem_decimal {n : Nat} {c : Char} (h : c ∈ Nat.toDigits 10 n) :
    digitValue c.toNat < 10 ∧ isDigit c = true ∧ c ≠ '-' ∧
    c ≠ '+' ∧ isSpace c = false ∧ c ≠ '\n' ∧ c ≠ '\x00' := by
  obtain ⟨d, hd, rfl⟩ := mem_toDigits (by decide) h
  obtain ⟨hv, hrest⟩ := digitChar_ten d hd
  exact ⟨by omega, hrest⟩

theorem safeParseLong_toDigits {n : Nat} (h : n < 2 ^ 63) :
    safeParseLong (Nat.toDigits 10 n) = some (n : Int) := by
  have hne := toDigits_ne_nil n
  have hhead : ∀ c, (Nat.toDigits 10 n).head? = some c → c ≠ '-' ∧ c ≠ '+' := by
    intro c hc
    obtain ⟨-, -, hminus, hplus, -⟩ := mem_decimal (List.mem_of_head? hc)
    exact ⟨hminus, hplus⟩
  have hminus : (Nat.toDigits 10 n).head? ≠ some '-' := fun hc => (hhead _ hc).1 rfl
  have hplus : (Nat.toDigits 10 n).head? ≠ some '+' := fun hc => (hhead _ hc).2 rfl
  have hall : (Nat.toDigits 10 n).all isDigit = true :=
    List.all_eq_true.mpr fun c hc => (mem_decimal hc).2.1
  have hval : digitsValue 10 (Nat.toDigits 10 n) = n := by
    have := digitsValue_toDigits (by decide : 1 < 10) (f := id) (fun d hd => (digitChar_ten d hd).1) n
    rwa [List.map_id] at this
  unfold safeParseLong
  simp only [hminus, hplus, or_self, if_false, hne, hall, hval, Bool.true_eq_false]
  rw [if_neg (by omega)]

theorem safeParseUlongBase0_hex {ds : Text} (hne : ds ≠ []) (hall : ds.all isHexDigit = true) :
    safeParseUlongBase0 ('0' :: 'x' :: ds) = (some (digitsValue 16 ds)).filter (· < 2 ^ 64) := by
  have hhex : safeParseUlongBase0 ('0' :: 'x' :: ds) =
      (if ds ≠ [] ∧ ds.all isHexDigit = true then some (digitsValue 16 ds) else none).filter
      (· < 2 ^ 64) := rfl
  rw [hhex, if_pos ⟨hne, hall⟩]

theorem safeParseUlongBase0_fmtHandle (v : UInt32) :
    safeParseUlongBase0 (fmtHandle v) = some v.toNat := by
  have hv : v.toNat < 2 ^ 32 := v.toNat_lt
  have hzeros : ∀ (k : Nat) (ds : Text), digitsValue 16 (List.replicate k '0' ++ ds) =
      digitsValue 16 ds := by
    intro k ds
    induction k with
    | zero => rfl
    | succ k ih => exact ih
  have hval : digitsValue 16 ((Nat.toDigits 16 v.toNat).map Char.toUpper) = v.toNat :=
    digitsValue_toDigits (by decide) (fun d hd => (digitChar_sixteen d hd).1) v.toNat
  have hmem : ∀ c ∈ (Nat.toDigits 16 v.toNat).map Char.toUpper, isHexDigit c = true := by
    intro c hc
    obtain ⟨c', hc', rfl⟩ := List.mem_map.mp hc
    obtain ⟨d, hd, rfl⟩ := mem_toDigits (by decide) hc'
    exact (digitChar_sixteen d hd).2.1
  have hne : (Nat.toDigits 16 v.toNat).map Char.toUpper ≠ [] := by
    intro h
    rw [h] at hval
    rw [List.map_eq_nil_iff] at h
    by_cases hn : v.toNat < 16
    · rw [Nat.toDigits_of_lt_base hn] at h
      cases h
    · rw [Nat.toDigits_of_base_le (by decide) (by omega)] at h
      simp at h
  have hall : (List.replicate (8 - ((Nat.toDigits 16 v.toNat).map Char.toUpper).length) '0' ++
      (Nat.toDigits 16 v.toNat).map Char.toUpper).all isHexDigit = true := by
    rw [List.all_eq_true]
    intro c hc
    rcases List.mem_append.mp hc with hc | hc
    · rw [List.eq_of_mem_replicate hc]
      decide
    · exact hmem c hc
  unfold fmtHandle
  rw [safeParseUlongBase0_hex (by simp [hne]) hall, hzeros, hval]
  simp only [Option.filter_some, decide_eq_true_eq]
  rw [if_pos (by omega)]

/-! ## What the lines set -/

theorem fits_iff {key : String} {value : Text} :
    (Item.pair key value).fits = true ↔ key.toList.length + value.length ≤ 1019 := by
  simp only [Item.fits, Item.line, List.length_append, List.length_cons, decide_eq_true_eq, maxLine]
  omega

theorem fits_short {key : String} {value : Text} (hkey : key.toList.length ≤ 32)
    (hv : value.length < 256) : (Item.pair key value).fits = true := by
  rw [fits_iff]
  omega

/-- The lines lead from one configuration to the other, without an error if
they fit. -/
def Runs (items : List Item) (c c' : LotaConfig) : Prop :=
  ∀ e, (items.foldl apply ⟨c, e⟩).cfg = c' ∧
    ((∀ i ∈ items, i.fits = true) → (items.foldl apply ⟨c, e⟩).errors = e)

namespace Runs

variable {c c' c'' : LotaConfig} {key : String} {value : Text}

theorem nil : Runs [] c c := fun _ => ⟨rfl, fun _ => rfl⟩

theorem append {xs ys : List Item} (hx : Runs xs c c') (hy : Runs ys c' c'') :
    Runs (xs ++ ys) c c'' := by
  intro e
  obtain ⟨hcfg, herr⟩ := hx e
  rw [List.foldl_append]
  have hmid : xs.foldl apply ⟨c, e⟩ = ⟨c', (xs.foldl apply ⟨c, e⟩).errors⟩ := by rw [← hcfg]
  obtain ⟨hcfg', herr'⟩ := hy (xs.foldl apply ⟨c, e⟩).errors
  rw [← hmid] at hcfg' herr'
  refine ⟨hcfg', fun hf => ?_⟩
  rw [herr' fun i hi => hf i (List.mem_append_right _ hi)]
  exact herr fun i hi => hf i (List.mem_append_left _ hi)

theorem text {line : String} {items : List Item} (h : Runs items c c') :
    Runs (.text line :: items) c c' := by
  intro e
  obtain ⟨hcfg, herr⟩ := h e
  exact ⟨hcfg, fun hf => herr fun i hi => hf i (List.mem_cons_of_mem _ hi)⟩

theorem cons {i : Item} {items : List Item} (hi : Runs [i] c c') (h : Runs items c' c'') :
    Runs (i :: items) c c'' :=
  append hi h

/-- A line that does not fit sets nothing. -/
theorem pair (h : applyKey c key.toList (trimEnd value) = .ok c') :
    Runs [.pair key value] c (if (Item.pair key value).fits then c' else c) := by
  intro e
  show (apply ⟨c, e⟩ (.pair key value)).cfg = _ ∧ (_ → (apply ⟨c, e⟩ (.pair key value)).errors = e)
  by_cases hf : (Item.pair key value).fits = true
  · simp only [apply, hf, if_true, applyPair, h, implies_true, and_self]
  · rw [apply, if_neg hf, if_neg hf]
    exact ⟨rfl, fun hall => absurd (hall _ (List.mem_singleton.mpr rfl)) hf⟩

theorem pair_fits (hf : (Item.pair key value).fits = true)
    (h : applyKey c key.toList (trimEnd value) = .ok c') : Runs [.pair key value] c c' := by
  have := pair h
  rwa [if_pos hf] at this

/-- The entries of a list, one by one; those of the long lines are left out. -/
theorem entries {α : Type} {fmt : α → Text} {f : List α → LotaConfig} {all : List α}
    (hstep : ∀ done v rest, done ++ v :: rest = all →
      Runs [.pair key (fmt v)] (f (done.filter fun v => (Item.pair key (fmt v)).fits))
        (f ((done ++ [v]).filter fun v => (Item.pair key (fmt v)).fits)))
    {vs done : List α} (hall : done ++ vs = all) :
    Runs (vs.map fun v => .pair key (fmt v)) (f (done.filter fun v => (Item.pair key (fmt v)).fits))
      (f (all.filter fun v => (Item.pair key (fmt v)).fits)) := by
  induction vs generalizing done with
  | nil =>
    rw [List.append_nil] at hall
    rw [hall]
    exact nil
  | cons v vs ih =>
    refine cons (hstep done v vs hall) (ih ?_)
    rw [List.append_assoc]
    exact hall

theorem listed {α : Type} {fmt : α → Text} (f : List α → LotaConfig) (h0 : f [] = c)
    {title : String} {all : List α}
    (hstep : ∀ done v rest, done ++ v :: rest = all →
      applyKey (f (done.filter fun v => (Item.pair key (fmt v)).fits)) key.toList (trimEnd (fmt v)) =
        .ok (f ((done.filter fun v => (Item.pair key (fmt v)).fits) ++ [v]))) :
    Runs (FullConfig.listed title key (all.map fmt)) c
    (f (all.filter fun v => (Item.pair key (fmt v)).fits)) := by
  unfold FullConfig.listed
  rw [← h0]
  by_cases hall : all = []
  · rw [hall]
    exact nil
  rw [if_neg (by simpa using hall), List.map_map]
  refine text (text (entries (fun done v rest hsplit => ?_) (List.nil_append all)))
  have hrun := pair (hstep done v rest hsplit)
  rw [List.filter_append]
  by_cases hf : (Item.pair key (fmt v)).fits = true
  · rw [if_pos hf] at hrun
    simpa only [List.filter_cons, List.filter_nil, hf, if_true] using hrun
  · rw [if_neg hf] at hrun
    simpa only [List.filter_cons, List.filter_nil, hf, Bool.false_eq_true, if_false,
      List.append_nil] using hrun

end Runs

section
variable {c : LotaConfig} {value : Text}

theorem applyPath_stored (h : StoredPath value) (set : Text → LotaConfig) :
    FullConfig.applyPath (trimEnd value) set = .ok (set value) := by
  unfold FullConfig.applyPath
  rw [trimEnd_eq_self.mpr h.value.back, if_pos h.valid, setStr_of_lt h.value.lt_pathMax]

theorem decimal_back (n : Nat) : Back (Nat.toDigits 10 n) :=
  fun _ hc => (mem_decimal (List.mem_of_getLast? hc)).2.2.2.2.1

theorem applyNumber_fmtD {lo hi v : Int} (hlo : 0 ≤ lo) (hhi : hi < 2 ^ 63) (h : lo ≤ v ∧ v ≤ hi)
    (set : Int → LotaConfig) : applyNumber lo hi (trimEnd (fmtD v)) set = .ok (set v) := by
  have hv : ((v.toNat : Nat) : Int) = v := Int.toNat_of_nonneg (by omega)
  unfold applyNumber fmtD
  rw [if_neg (by omega), trimEnd_eq_self.mpr (decimal_back _), safeParseLong_toDigits (by omega), hv]
  simp only
  rw [if_neg (by omega)]

theorem safeParseLong_fmtU (v : UInt32) : safeParseLong (trimEnd (fmtU v)) = some (v.toNat : Int) := by
  have hv : v.toNat < 2 ^ 32 := v.toNat_lt
  rw [fmtU, trimEnd_eq_self.mpr (decimal_back _), safeParseLong_toDigits (by omega)]

theorem applyBool_fmtBool (b : Bool) (set : Bool → LotaConfig) :
    FullConfig.applyBool (trimEnd (fmtBool b)) set = .ok (set b) := by
  cases b <;> rfl

theorem hex_back (v : UInt32) : Back (fmtHandle v) := by
  intro c hc
  have hmem := List.mem_of_getLast? hc
  unfold fmtHandle at hmem
  simp only [List.mem_cons, List.mem_append] at hmem
  rcases hmem with rfl | rfl | hc | hc
  · decide
  · decide
  · rw [List.eq_of_mem_replicate hc]
    decide
  · obtain ⟨c', hc', rfl⟩ := List.mem_map.mp hc
    obtain ⟨d, hd, rfl⟩ := mem_toDigits (by decide) hc'
    exact (digitChar_sixteen d hd).2.2.1

theorem applyHandle_fmtHandle {v : UInt32} (h : v ≠ 0) (set : UInt32 → LotaConfig) :
    applyHandle (trimEnd (fmtHandle v)) set = .ok (set v) := by
  have hv : v.toNat < 2 ^ 32 := v.toNat_lt
  have hne : v.toNat ≠ 0 := fun h0 => h (UInt32.toNat_inj.mp h0)
  unfold applyHandle
  rw [trimEnd_eq_self.mpr (hex_back v), safeParseUlongBase0_fmtHandle]
  simp only
  rw [if_neg (by omega), UInt32.ofNat_toNat]

theorem length_toDigits {n : Nat} (h : n < 2 ^ 32) {b : Nat} (hb : 10 ≤ b) :
    (Nat.toDigits b n).length ≤ 10 := by
  rw [Nat.length_toDigits_le_iff (by omega) (by decide)]
  calc n < 2 ^ 32 := h
    _ ≤ 10 ^ 10 := by decide
    _ ≤ b ^ 10 := Nat.pow_le_pow_left hb 10

theorem length_fmtU (n : UInt32) : (fmtU n).length < 256 :=
  Nat.lt_of_le_of_lt (length_toDigits n.toNat_lt (Nat.le_refl 10)) (by decide)

theorem length_fmtD {n : Int} (h0 : 0 ≤ n) (h : n < 2 ^ 32) : (fmtD n).length < 256 := by
  unfold fmtD
  rw [if_neg (by omega)]
  exact Nat.lt_of_le_of_lt (length_toDigits (by omega) (Nat.le_refl 10)) (by decide)

theorem length_fmtHandle (n : UInt32) : (fmtHandle n).length < 256 := by
  have hlen := length_toDigits n.toNat_lt (by decide : 10 ≤ 16)
  simp only [fmtHandle, List.length_cons, List.length_append, List.length_replicate, List.length_map]
  omega

theorem setStr_trimEnd {size : Nat} (h : Stored value size) :
    setStr size (trimEnd value) = trimEnd value :=
  setStr_of_lt (Nat.lt_of_le_of_lt (prefix_trimEnd value).length_le h.length)

end

/-- A path comes back if its line fits. -/
def kept (key : String) (value default : Text) : Text :=
  if (Item.pair key value).fits then value else default

/-- What a dump leaves of a configuration. -/
def reread (cfg : LotaConfig) : LotaConfig :=
  { cfg with
    server := trimEnd cfg.server
    caCert := kept "ca_cert" cfg.caCert []
    pinSha256 := trimEnd cfg.pinSha256
    bpfPath := kept "bpf_path" cfg.bpfPath configInit.bpfPath
    kernelPath := kept "kernel_path" cfg.kernelPath []
    sealAikAuth := false
    sealAikAuthStrict := false
    sealPersistentPrimary := false
    pidFile := kept "pid_file" cfg.pidFile configInit.pidFile
    signingKey := kept "signing_key" cfg.signingKey []
    policyPubkey := kept "policy_pubkey" cfg.policyPubkey []
    trustLibs := cfg.trustLibs.filter fun v => (Item.pair "trust_lib" v).fits
    allowVerity := cfg.allowVerity.filter fun v => (Item.pair "allow_verity" v).fits
    logLevel := trimEnd cfg.logLevel }

section
variable {cfg : LotaConfig}

theorem keyIs_toList (key : String) (names : List String) :
    keyIs key.toList names = names.any (key = ·) := by
  unfold keyIs
  simp only [String.toList_inj]

/-! ### What each key sets -/

/-- The settings of a dump. -/
inductive Key where
  | server | port | caCert | pinSha256 | allowVerity | bpfPath | mode | strictMmap
  | strictExec | blockPtrace
  | strictModules | blockAnonExec | attestInterval | aikTtl | aikHandle | kernelPath | daemon
  | pidFile | signingKey
  | policyPubkey | trustLibs | protectPids | containerListenerUids | logLevel

def Key.name : Key → String
  | .server => "server"
  | .port => "port"
  | .caCert => "ca_cert"
  | .pinSha256 => "pin_sha256"
  | .allowVerity => "allow_verity"
  | .bpfPath => "bpf_path"
  | .mode => "mode"
  | .strictMmap => "strict_mmap"
  | .strictExec => "strict_exec"
  | .blockPtrace => "block_ptrace"
  | .strictModules => "strict_modules"
  | .blockAnonExec => "block_anon_exec"
  | .attestInterval => "attest_interval"
  | .aikTtl => "aik_ttl"
  | .aikHandle => "aik_handle"
  | .kernelPath => "kernel_path"
  | .daemon => "daemon"
  | .pidFile => "pid_file"
  | .signingKey => "signing_key"
  | .policyPubkey => "policy_pubkey"
  | .trustLibs => "trust_lib"
  | .protectPids => "protect_pid"
  | .containerListenerUids => "container_listener_uid"
  | .logLevel => "log_level"

/-- How a value is checked and stored. -/
inductive Setter where
  | string (size : Nat) (set : LotaConfig → Text → LotaConfig)
  | number (lo hi : Int) (set : LotaConfig → Int → LotaConfig)
  | path (set : LotaConfig → Text → LotaConfig)
  | flag (set : LotaConfig → Bool → LotaConfig)
  | paths (limit : Nat) (get : LotaConfig → List Text) (set : LotaConfig → List Text → LotaConfig)
  | other (apply : LotaConfig → Text → Applied)

def Setter.apply (c : LotaConfig) (w : Text) : Setter → Applied
  | .string size set => .ok (set c (setStr size w))
  | .number lo hi set => applyNumber lo hi w (set c)
  | .path set => applyPath w (set c)
  | .flag set => applyBool w (set c)
  | .paths limit get set => applyPathList limit (get c) w (set c)
  | .other apply => apply c w

def Key.setter : Key → Setter
  | .server => .string 256 fun c v => { c with server := v }
  | .port => .number 1 65535 fun c v => { c with port := v }
  | .caCert => .path fun c v => { c with caCert := v }
  | .pinSha256 => .string 128 fun c v => { c with pinSha256 := v }
  | .allowVerity => .paths maxVerity LotaConfig.allowVerity fun c l => { c with allowVerity := l }
  | .bpfPath => .path fun c v => { c with bpfPath := v }
  | .mode =>
    .other fun c w => if parseModeStrict w then .ok { c with mode := setStr 32 w } else .invalid
  | .strictMmap => .flag fun c b => { c with strictMmap := b }
  | .strictExec => .flag fun c b => { c with strictExec := b }
  | .blockPtrace => .flag fun c b => { c with blockPtrace := b }
  | .strictModules => .flag fun c b => { c with strictModules := b }
  | .blockAnonExec => .flag fun c b => { c with blockAnonExec := b }
  | .attestInterval => .number 0 (2 ^ 31 - 1) fun c v => { c with attestInterval := v }
  | .aikTtl => .number 0 (2 ^ 32 - 1) fun c v => { c with aikTtl := UInt32.ofNat v.toNat }
  | .aikHandle => .other fun c w => applyHandle w fun v => { c with aikHandle := v }
  | .kernelPath => .path fun c v => { c with kernelPath := v }
  | .daemon => .flag fun c b => { c with daemon := b }
  | .pidFile => .path fun c v => { c with pidFile := v }
  | .signingKey => .path fun c v => { c with signingKey := v }
  | .policyPubkey => .path fun c v => { c with policyPubkey := v }
  | .trustLibs => .paths maxLibs LotaConfig.trustLibs fun c l => { c with trustLibs := l }
  | .protectPids => .other applyProtectPid
  | .containerListenerUids => .other applyContainerUid
  | .logLevel => .string 16 fun c v => { c with logLevel := v }

/-- **One key.** The comparisons before it fail. -/
theorem applyKey_name (k : Key) (c : LotaConfig) (w : Text) :
    applyKey c k.name.toList w = k.setter.apply c w := by
  cases k <;>
    simp only [Key.name, Key.setter, Setter.apply, applyKey, keyIs_toList, List.any_cons,
      List.any_nil, String.reduceEq,
      decide_false, decide_true, Bool.or_false, Bool.or_self, Bool.false_eq_true, if_false, if_true]

theorem Key.name_short (k : Key) : k.name.toList.length ≤ 32 := by
  cases k <;> decide

theorem applyKey_setter {k : Key} {s : Setter} (hk : k.setter = s) (c : LotaConfig) (w : Text) :
    applyKey c k.name.toList w = s.apply c w := hk ▸ applyKey_name k c w

/-! ### One line at a time -/

section
variable {c : LotaConfig} {key : String} {v : Text}

theorem optional_run {c' : LotaConfig} (h0 : v = [] → c = c') (h : Runs [.pair key v] c c') :
    Runs (optional key v) c c' := by
  unfold optional
  by_cases hv : v = []
  · rw [if_pos hv, h0 hv]
    exact .nil
  · rw [if_neg hv]
    exact h

/-- A string is stored without the spaces at its end. -/
theorem string_run {k : Key} {size : Nat} {set : LotaConfig → Text → LotaConfig}
    (hk : k.setter = .string size set)
    (h : Stored v size) (hsize : size ≤ 256) : Runs [.pair k.name v] c (set c (trimEnd v)) := by
  refine .pair_fits (fits_short k.name_short (Nat.lt_of_lt_of_le h.length hsize)) ?_
  rw [applyKey_setter hk, Setter.apply, setStr_trimEnd h]

theorem path_run {k : Key} {f : LotaConfig → Text → LotaConfig} {d : Text} (hk : k.setter = .path f)
    (h : StoredPath v)
    (h0 : f c d = c) : Runs [.pair k.name v] c (f c (kept k.name v d)) := by
  have hrun : Runs [.pair k.name v] c (if (Item.pair k.name v).fits then f c v else f c d) := by
    rw [h0]
    exact .pair ((applyKey_setter hk c _).trans (applyPath_stored h (f c)))
  rwa [← apply_ite (f c)] at hrun

/-- A path that is printed if there is one. -/
theorem optional_path_run {k : Key} {f : LotaConfig → Text → LotaConfig} (hk : k.setter = .path f)
    (h : StoredPath v)
    (h0 : f c [] = c) : Runs (optional k.name v) c (f c (kept k.name v [])) := by
  refine optional_run (fun hv => ?_) (path_run hk h h0)
  rw [hv, kept, ite_self, h0]

theorem flag_run {k : Key} {set : LotaConfig → Bool → LotaConfig}
    (hk : k.setter = .flag set) {b : Bool} : Runs [.pair k.name (fmtBool b)] c (set c b) := by
  have hb : (fmtBool b).length < 256 := by cases b <;> decide
  exact .pair_fits (fits_short k.name_short hb)
    ((applyKey_setter hk c _).trans (applyBool_fmtBool b (set c)))

theorem number_run {k : Key} {lo hi : Int} {set : LotaConfig → Int → LotaConfig}
    (hk : k.setter = .number lo hi set)
    (hlo : 0 ≤ lo) (hhi : hi < 2 ^ 32) {n : Int} (h : lo ≤ n ∧ n ≤ hi) :
    Runs [.pair k.name (fmtD n)] c (set c n) :=
  .pair_fits (fits_short k.name_short (length_fmtD (by omega) (by omega)))
    ((applyKey_setter hk c _).trans (applyNumber_fmtD hlo (by omega) h (set c)))

theorem aikTtl_run {n : UInt32} : Runs [.pair "aik_ttl" (fmtU n)] c { c with aikTtl := n } := by
  have hn : n.toNat < 2 ^ 32 := n.toNat_lt
  refine .pair_fits (fits_short (by decide) (length_fmtU n)) ((applyKey_name .aikTtl c _).trans ?_)
  rw [Key.setter, Setter.apply, applyNumber, safeParseLong_fmtU]
  simp only
  rw [if_neg (by omega), Int.toNat_natCast, UInt32.ofNat_toNat]

theorem aikHandle_run {n : UInt32} (h : n ≠ 0) :
    Runs [.pair "aik_handle" (fmtHandle n)] c { c with aikHandle := n } := by
  refine .pair_fits (fits_short (by decide) (length_fmtHandle n))
    ((applyKey_name .aikHandle c _).trans ?_)
  rw [Key.setter, Setter.apply, applyHandle_fmtHandle h]

theorem mode_run (h : parseModeStrict v = true) : Runs [.pair "mode" v] c { c with mode := v } := by
  have hclosed : ∀ w, parseModeStrict w = true → trimEnd w = w ∧ setStr 32 w = w ∧ w.length < 256 := by
    intro w hw
    simp only [parseModeStrict, Bool.or_eq_true, decide_eq_true_eq] at hw
    rcases hw with (rfl | rfl) | rfl <;> exact ⟨rfl, rfl, by decide⟩
  obtain ⟨htrim, hset, hlen⟩ := hclosed v h
  refine .pair_fits (fits_short (by decide) hlen) ((applyKey_name .mode c _).trans ?_)
  rw [Key.setter, Setter.apply, htrim, hset, if_pos h]

theorem applyProtectPid_fmtU {n : UInt32} (hlen : c.protectPids.length < maxProtectedPids) (h : n ≠ 0) :
    applyProtectPid c (trimEnd (fmtU n)) = .ok { c with protectPids := c.protectPids ++ [n] } := by
  have hn : n.toNat < 2 ^ 32 := n.toNat_lt
  have hne : n.toNat ≠ 0 := fun h0 => h (UInt32.toNat_inj.mp h0)
  rw [applyProtectPid, safeParseLong_fmtU]
  simp only
  rw [if_neg (by omega), if_neg (by omega), Int.toNat_natCast, UInt32.ofNat_toNat]

theorem applyContainerUid_fmtU {n : UInt32}
    (hlen : c.containerListenerUids.length < maxContainerListeners)
    (h : n ∉ c.containerListenerUids) : applyContainerUid c (trimEnd (fmtU n)) =
      .ok { c with containerListenerUids := c.containerListenerUids ++ [n] } := by
  have hn : n.toNat < 2 ^ 32 := n.toNat_lt
  rw [applyContainerUid, safeParseLong_fmtU]
  simp only
  rw [if_neg (by omega), if_neg (by omega), Int.toNat_natCast, UInt32.ofNat_toNat, if_neg h]

end

/-! ### The groups of the dump -/

/-- The settings of the verifier connection, taken over. -/
def withVerifier (cfg c : LotaConfig) : LotaConfig :=
  { c with
    server := trimEnd cfg.server
    port := cfg.port
    caCert := kept "ca_cert" cfg.caCert []
    pinSha256 := trimEnd cfg.pinSha256 }

theorem verifierItems_run (hl : Loadable cfg) {c : LotaConfig} (hca : c.caCert = [])
    (hpin : c.pinSha256 = []) : Runs (verifierItems cfg) c (withVerifier cfg c) := by
  unfold verifierItems
  have hpairs : Runs [.pair "server" cfg.server, .pair "port" (fmtD cfg.port)] c
      { c with server := trimEnd cfg.server, port := cfg.port } :=
    .cons (string_run (k := .server) rfl hl.server (by decide))
      (number_run (k := .port) rfl (by decide) (by decide) hl.port)
  refine .append (.text (.text (.text hpairs)))
    (.append (optional_path_run (k := .caCert) rfl hl.caCert ?_) ?_)
  · rw [← hca]
  · refine optional_run (fun hv => ?_) (string_run (k := .pinSha256) rfl hl.pinSha256 (by decide))
    have hnil : trimEnd cfg.pinSha256 = c.pinSha256 := by
      rw [hv, hpin]
      rfl
    rw [withVerifier, hnil]
    rfl

def withBpf (cfg c : LotaConfig) : LotaConfig :=
  { c with
    bpfPath := kept "bpf_path" cfg.bpfPath c.bpfPath
    mode := cfg.mode
    strictMmap := cfg.strictMmap
    strictExec := cfg.strictExec
    blockPtrace := cfg.blockPtrace
    strictModules := cfg.strictModules
    blockAnonExec := cfg.blockAnonExec }

theorem bpfItems_run (hl : Loadable cfg) (c : LotaConfig) : Runs (bpfItems cfg) c (withBpf cfg c) := by
  unfold bpfItems
  refine .text (.text ?_)
  refine .cons (path_run (k := .bpfPath) rfl hl.bpfPath rfl) ?_
  refine .cons (mode_run hl.mode) ?_
  refine .cons (flag_run (k := .strictMmap) rfl) ?_
  refine .cons (flag_run (k := .strictExec) rfl) ?_
  refine .cons (flag_run (k := .blockPtrace) rfl) ?_
  refine .cons (flag_run (k := .strictModules) rfl) ?_
  exact flag_run (k := .blockAnonExec) rfl

def withAttest (cfg c : LotaConfig) : LotaConfig :=
  { c with
    attestInterval := cfg.attestInterval
    aikTtl := cfg.aikTtl
    aikHandle := cfg.aikHandle
    kernelPath := kept "kernel_path" cfg.kernelPath [] }

theorem attestItems_run (hl : Loadable cfg) {c : LotaConfig} (hkernel : c.kernelPath = []) :
    Runs (attestItems cfg) c (withAttest cfg c) := by
  unfold attestItems
  have hpairs :
      Runs [.pair "attest_interval" (fmtD cfg.attestInterval), .pair "aik_ttl" (fmtU cfg.aikTtl),
      .pair "aik_handle" (fmtHandle cfg.aikHandle)] c
      { c with attestInterval := cfg.attestInterval, aikTtl := cfg.aikTtl,
               aikHandle := cfg.aikHandle } :=
    .cons (number_run (k := .attestInterval) rfl (by decide) (by decide) hl.attestInterval)
      (.cons aikTtl_run (aikHandle_run hl.aikHandle))
  refine .append (.text (.text hpairs)) (optional_path_run (k := .kernelPath) rfl hl.kernelPath ?_)
  rw [← hkernel]

def withDaemon (cfg c : LotaConfig) : LotaConfig :=
  { c with
    daemon := cfg.daemon
    pidFile := kept "pid_file" cfg.pidFile c.pidFile
    signingKey := kept "signing_key" cfg.signingKey []
    policyPubkey := kept "policy_pubkey" cfg.policyPubkey []
    logLevel := trimEnd cfg.logLevel }

theorem daemonItems_run (hl : Loadable cfg) {c : LotaConfig} (hsign : c.signingKey = [])
    (hpub : c.policyPubkey = []) : Runs (daemonItems cfg) c (withDaemon cfg c) := by
  unfold daemonItems
  have hpairs :
      Runs [.pair "daemon" (fmtBool cfg.daemon), .pair "pid_file" cfg.pidFile, .text "",
        .text "# Policy signing"] c
      { c with daemon := cfg.daemon, pidFile := kept "pid_file" cfg.pidFile c.pidFile } :=
    .cons (flag_run (k := .daemon) rfl)
      (.cons (path_run (k := .pidFile) rfl hl.pidFile rfl) (.text (.text .nil)))
  refine .append (.text (.text hpairs))
    (.append (optional_path_run (k := .signingKey) rfl hl.signingKey ?_)
    (.append (optional_path_run (k := .policyPubkey) rfl hl.policyPubkey ?_) (.text (.text ?_))))
  · rw [← hsign]
  · rw [← hpub]
  · exact string_run (k := .logLevel) rfl hl.logLevel (by decide)

def withLists (cfg c : LotaConfig) : LotaConfig :=
  { c with
    trustLibs := cfg.trustLibs.filter fun v => (Item.pair "trust_lib" v).fits
    allowVerity := cfg.allowVerity.filter fun v => (Item.pair "allow_verity" v).fits
    protectPids := cfg.protectPids
    containerListenerUids := cfg.containerListenerUids }

theorem length_lt_of_split {α : Type} {done rest all : List α} {v : α} {limit : Nat}
    (h : done ++ v :: rest = all)
    (hlen : all.length ≤ limit) : done.length < limit := by
  rw [← h, List.length_append, List.length_cons] at hlen
  omega

theorem mem_of_split {α : Type} {done rest all : List α} {v : α} (h : done ++ v :: rest = all) :
    v ∈ all := by
  rw [← h]
  simp

section
variable {c : LotaConfig} {title : String}

theorem paths_run {k : Key} {limit : Nat} {get : LotaConfig → List Text}
    {set : LotaConfig → List Text → LotaConfig}
    (hk : k.setter = .paths limit get set) (hget : ∀ l, get (set c l) = l)
    (hset : ∀ l l', set (set c l) l' = set c l')
    (h0 : set c [] = c) {all : List Text} (h : all.length ≤ limit ∧ ∀ v ∈ all, StoredPath v) :
    Runs (listed title k.name all) c (set c (all.filter fun v => (Item.pair k.name v).fits)) := by
  have hrun : Runs (listed title k.name (all.map id)) c
      (set c (all.filter fun v => (Item.pair k.name v).fits)) := by
    refine .listed (set c) h0 fun done v rest hsplit => ?_
    have hlen : (done.filter fun v => (Item.pair k.name v).fits).length < limit :=
      Nat.lt_of_le_of_lt (List.length_filter_le _ _) (length_lt_of_split hsplit h.1)
    simp only [id]
    rw [applyKey_setter hk, Setter.apply, hget, applyPathList, if_neg (by omega),
      applyPath_stored (h.2 v (mem_of_split hsplit)), hset]
  rwa [List.map_id] at hrun

/-- Numbers are short, so every one of them is read. -/
theorem numbers_run {key : String} (f : List UInt32 → LotaConfig) (h0 : f [] = c)
    (hlen : key.toList.length ≤ 32)
    {all : List UInt32} (h : ∀ done v rest, done ++ v :: rest = all →
      applyKey (f done) key.toList (trimEnd (fmtU v)) = .ok (f (done ++ [v]))) :
    Runs (listed title key (all.map fmtU)) c (f all) := by
  have hfit : ∀ l : List UInt32, (l.filter fun v => (Item.pair key (fmtU v)).fits) = l :=
    fun l => List.filter_eq_self.mpr fun v _ => fits_short hlen (length_fmtU v)
  have hrun : Runs (listed title key (all.map fmtU)) c
      (f (all.filter fun v => (Item.pair key (fmtU v)).fits)) := by
    refine .listed f h0 fun done v rest hsplit => ?_
    rw [hfit]
    exact h done v rest hsplit
  rwa [hfit] at hrun

theorem pids_run (hl : Loadable cfg) (h0 : c.protectPids = []) :
    Runs (listed title "protect_pid" (cfg.protectPids.map fmtU)) c
    { c with protectPids := cfg.protectPids } := by
  refine numbers_run (fun l => { c with protectPids := l }) (by rw [← h0]) (by decide)
    fun done v rest hsplit => ?_
  have hlt := length_lt_of_split hsplit hl.protectPids.1
  have hne : v ≠ 0 := fun hz => hl.protectPids.2 (hz ▸ mem_of_split hsplit)
  exact (applyKey_name .protectPids _ _).trans (applyProtectPid_fmtU hlt hne)

theorem uids_run (hl : Loadable cfg) (h0 : c.containerListenerUids = []) :
    Runs (listed title "container_listener_uid" (cfg.containerListenerUids.map fmtU)) c
      { c with containerListenerUids := cfg.containerListenerUids } := by
  refine numbers_run (fun l => { c with containerListenerUids := l }) (by rw [← h0]) (by decide)
    fun done v rest hsplit => ?_
  have hlt := length_lt_of_split hsplit hl.containerListenerUids.1
  have hnew : v ∉ done := by
    have hnodup := hl.containerListenerUids.2
    rw [← hsplit, List.nodup_append] at hnodup
    exact fun hmem => hnodup.2.2 v hmem v (List.mem_cons_self ..) rfl
  exact (applyKey_name .containerListenerUids _ _).trans (applyContainerUid_fmtU hlt hnew)

theorem listItems_run (hl : Loadable cfg) (hlibs : c.trustLibs = []) (hverity : c.allowVerity = [])
    (hpids : c.protectPids = []) (huids : c.containerListenerUids = []) :
    Runs (listItems cfg) c (withLists cfg c) := by
  unfold listItems
  refine .append (paths_run (k := .trustLibs) rfl (fun _ => rfl) (fun _ _ => rfl) ?_ hl.trustLibs)
    (.append (paths_run (k := .allowVerity) rfl (fun _ => rfl) (fun _ _ => rfl) ?_ hl.allowVerity)
      (.append (pids_run hl hpids) (uids_run hl huids)))
  · rw [← hlibs]
  · rw [← hverity]

end

/-! ## The whole dump -/

theorem reread_eq : reread cfg =
    withLists cfg (withDaemon cfg (withAttest cfg (withBpf cfg (withVerifier cfg configInit)))) := by
  unfold reread
  rfl

theorem dumpItems_run (hl : Loadable cfg) : Runs (dumpItems cfg) configInit (reread cfg) := by
  unfold dumpItems
  rw [reread_eq]
  refine .append (verifierItems_run hl rfl rfl) (.append (bpfItems_run hl _) ?_)
  refine .append (attestItems_run hl rfl) (.append (daemonItems_run hl rfl rfl) ?_)
  exact listItems_run hl rfl rfl rfl rfl

/-- A key in its long form. -/
def goodKey (key : String) : Bool := key.toList ≠ [] && (key.toList.all plain && key.toList.length ≤ 32)

/-- Text that starts with no space and fits one line. -/
def Printable (v : Text) : Prop := Front v ∧ '\n' ∉ v ∧ '\x00' ∉ v

theorem Stored.printable {v : Text} {size : Nat} (h : Stored v size) : Printable v :=
  ⟨h.front, h.newline, h.nul⟩

theorem StoredPath.printable {v : Text} (h : StoredPath v) : Printable v :=
  ⟨h.value.front, h.value.newline, h.value.nul⟩

theorem decimal_printable (n : Nat) : Printable (Nat.toDigits 10 n) := by
  refine ⟨fun c hc => (mem_decimal (List.mem_of_head? hc)).2.2.2.2.1, fun hc => ?_, fun hc => ?_⟩
  · exact (mem_decimal hc).2.2.2.2.2.1 rfl
  · exact (mem_decimal hc).2.2.2.2.2.2 rfl

theorem fmtD_printable {n : Int} (h : 0 ≤ n) : Printable (fmtD n) := by
  unfold fmtD
  rw [if_neg (by omega)]
  exact decimal_printable _

theorem fmtHandle_printable (n : UInt32) : Printable (fmtHandle n) := by
  have hmem : ∀ c ∈ fmtHandle n, c ≠ '\n' ∧ c ≠ '\x00' := by
    intro c hc
    unfold fmtHandle at hc
    simp only [List.mem_cons, List.mem_append] at hc
    rcases hc with rfl | rfl | hc | hc
    · decide
    · decide
    · rw [List.eq_of_mem_replicate hc]
      decide
    · obtain ⟨c', hc', rfl⟩ := List.mem_map.mp hc
      obtain ⟨d, hd, rfl⟩ := mem_toDigits (by decide) hc'
      exact (digitChar_sixteen d hd).2.2.2
  refine ⟨fun c hc => ?_, fun hc => (hmem _ hc).1 rfl, fun hc => (hmem _ hc).2 rfl⟩
  cases hc
  decide

theorem closed_printable {v : Text}
    (h : ((v.head?.all fun c => !isSpace c) && decide ('\n' ∉ v ∧ '\x00' ∉ v)) = true) :
    Printable v := by
  simp only [Bool.and_eq_true, decide_eq_true_eq] at h
  refine ⟨fun c hc => ?_, h.2⟩
  have := h.1
  rw [hc] at this
  simpa using this

theorem fmtBool_printable (b : Bool) : Printable (fmtBool b) := by
  cases b <;> exact closed_printable (by decide)

theorem mode_printable {v : Text} (h : parseModeStrict v = true) : Printable v ∧ v.length < 256 := by
  simp only [parseModeStrict, Bool.or_eq_true, decide_eq_true_eq] at h
  rcases h with (rfl | rfl) | rfl <;> exact ⟨closed_printable (by decide), by decide⟩

/-- The paths of a configuration, each under its key. -/
def pathSettings (cfg : LotaConfig) : List (String × Text) :=
  [("ca_cert", cfg.caCert), ("bpf_path", cfg.bpfPath), ("kernel_path", cfg.kernelPath),
    ("pid_file", cfg.pidFile),
    ("signing_key", cfg.signingKey), ("policy_pubkey", cfg.policyPubkey)] ++
  (cfg.trustLibs.map (Prod.mk "trust_lib") ++ cfg.allowVerity.map (Prod.mk "allow_verity"))

theorem pathSettings_stored (hl : Loadable cfg) :
    ∀ p ∈ pathSettings cfg, goodKey p.1 = true ∧ StoredPath p.2 := by
  simp only [pathSettings, List.forall_mem_append, List.forall_mem_cons, List.forall_mem_map]
  exact ⟨⟨⟨by decide, hl.caCert⟩, ⟨by decide, hl.bpfPath⟩, ⟨by decide, hl.kernelPath⟩,
    ⟨by decide, hl.pidFile⟩, ⟨by decide, hl.signingKey⟩, ⟨by decide, hl.policyPubkey⟩, by simp⟩,
    fun v hv => ⟨by decide, hl.trustLibs.2 v hv⟩, fun v hv => ⟨by decide, hl.allowVerity.2 v hv⟩⟩

section
variable {P : Item → Prop} {key : String}

theorem forall_optional {v : Text} (h : v ≠ [] → P (.pair key v)) : ∀ i ∈ optional key v, P i := by
  unfold optional
  by_cases hv : v = []
  · simp [hv]
  · simpa [hv] using h hv

theorem forall_listed {title : String} {values : List Text} (htext : P (.text "") ∧ P (.text title))
    (h : ∀ v ∈ values, P (.pair key v)) : ∀ i ∈ listed title key values, P i := by
  unfold listed
  by_cases hv : values = []
  · simp [hv]
  · simpa [hv, htext] using h

/-- Comments and short settings have `P`. -/
structure Covers (P : Item → Prop) : Prop where
  text : ∀ line, (Item.text line).Readable → P (.text line)
  short : ∀ key v, goodKey key = true → Printable v → v.length < 256 → P (.pair key v)

/-- An empty line or a comment. -/
def isTitle (line : String) : Bool :=
  line.toList.head?.all (· = '#') &&
    (line.toList.all (fun c => c ≠ '\n' && c ≠ '\x00') && line.toList.length ≤ 64)

theorem Item.Readable.of_isTitle {line : String} (h : isTitle line = true) :
    (Item.text line).Readable := by
  simp only [isTitle, Bool.and_eq_true, List.all_eq_true, decide_eq_true_eq, ne_eq, decide_not,
    Bool.not_eq_true', decide_eq_false_iff_not] at h
  obtain ⟨hhead, hchars, hlen⟩ := h
  refine ⟨?_, fun hc => (hchars _ hc).1 rfl, fun hc => (hchars _ hc).2 rfl,
    Nat.lt_of_le_of_lt hlen (by decide)⟩
  cases hline : line.toList with
  | nil => exact .inl rfl
  | cons c cs =>
    rw [hline] at hhead
    exact .inr (congrArg some (by simpa using hhead))

namespace Covers
variable (hP : Covers P)
include hP

theorem title {line : String} (h : isTitle line = true) : P (.text line) := hP.text line (.of_isTitle h)

theorem blank : P (.text "") := hP.title rfl

theorem string {v : Text} {size : Nat} (hkey : goodKey key = true) (hv : Stored v size)
    (hsize : size ≤ 256) : P (.pair key v) :=
  hP.short key v hkey hv.printable (Nat.lt_of_lt_of_le hv.length hsize)

theorem flag (b : Bool) (hkey : goodKey key = true) : P (.pair key (fmtBool b)) :=
  hP.short key _ hkey (fmtBool_printable b) (by cases b <;> decide)

theorem number {n : Int} (hkey : goodKey key = true) (hn : 0 ≤ n ∧ n < 2 ^ 32) :
    P (.pair key (fmtD n)) :=
  hP.short key _ hkey (fmtD_printable hn.1) (length_fmtD hn.1 hn.2)

theorem unsigned (n : UInt32) (hkey : goodKey key = true) : P (.pair key (fmtU n)) :=
  hP.short key _ hkey (decimal_printable _) (length_fmtU n)

theorem listed {title : String} (htitle : isTitle title = true) {values : List Text}
    (h : ∀ v ∈ values, P (.pair key v)) : ∀ i ∈ FullConfig.listed title key values, P i :=
  forall_listed ⟨hP.blank, hP.title htitle⟩ h

theorem numbers {title : String} (htitle : isTitle title = true) (hkey : goodKey key = true)
    (l : List UInt32) : ∀ i ∈ FullConfig.listed title key (l.map fmtU), P i := by
  refine hP.listed htitle fun v hv => ?_
  obtain ⟨n, -, rfl⟩ := List.mem_map.mp hv
  exact hP.unsigned n hkey

theorem verifierItems (hl : Loadable cfg) (hca : P (.pair "ca_cert" cfg.caCert)) :
    ∀ i ∈ FullConfig.verifierItems cfg, P i := by
  have hport := hl.port
  simp only [FullConfig.verifierItems, List.forall_mem_append, List.forall_mem_cons]
  exact ⟨⟨hP.title rfl, hP.blank, hP.title rfl, hP.string rfl hl.server (by decide),
    hP.number rfl (by omega), by simp⟩,
    forall_optional fun _ => hca, forall_optional fun _ => hP.string rfl hl.pinSha256 (by decide)⟩

theorem bpfItems (hl : Loadable cfg) (hbpf : P (.pair "bpf_path" cfg.bpfPath)) :
    ∀ i ∈ FullConfig.bpfItems cfg, P i := by
  have hmode := mode_printable hl.mode
  simp only [FullConfig.bpfItems, List.forall_mem_cons]
  exact ⟨hP.blank, hP.title rfl, hbpf, hP.short _ _ rfl hmode.1 hmode.2, hP.flag _ rfl,
    hP.flag _ rfl, hP.flag _ rfl, hP.flag _ rfl, hP.flag _ rfl, by simp⟩

theorem attestItems (hl : Loadable cfg) (hkernel : P (.pair "kernel_path" cfg.kernelPath)) :
    ∀ i ∈ FullConfig.attestItems cfg, P i := by
  have hinterval := hl.attestInterval
  simp only [FullConfig.attestItems, List.forall_mem_append, List.forall_mem_cons]
  exact ⟨⟨hP.blank, hP.title rfl, hP.number rfl (by omega), hP.unsigned _ rfl,
    hP.short _ _ rfl (fmtHandle_printable _) (length_fmtHandle _), by
      simp⟩, forall_optional fun _ => hkernel⟩

theorem daemonItems (hl : Loadable cfg) (hpid : P (.pair "pid_file" cfg.pidFile))
    (hsign : P (.pair "signing_key" cfg.signingKey))
    (hpub : P (.pair "policy_pubkey" cfg.policyPubkey)) :
    ∀ i ∈ FullConfig.daemonItems cfg, P i := by
  simp only [FullConfig.daemonItems, List.forall_mem_append, List.forall_mem_cons]
  exact ⟨⟨hP.blank, hP.title rfl, hP.flag _ rfl, hpid, hP.blank, hP.title rfl, by simp⟩,
    forall_optional fun _ => hsign,
    forall_optional fun _ => hpub, hP.blank, hP.title rfl, hP.string rfl hl.logLevel (by decide), by
      simp⟩

theorem listItems (hlibs : ∀ v ∈ cfg.trustLibs, P (.pair "trust_lib" v))
    (hverity : ∀ v ∈ cfg.allowVerity, P (.pair "allow_verity" v)) :
    ∀ i ∈ FullConfig.listItems cfg, P i := by
  simp only [FullConfig.listItems, List.forall_mem_append]
  exact ⟨hP.listed rfl hlibs, hP.listed rfl hverity, hP.numbers rfl rfl _, hP.numbers rfl rfl _⟩

end Covers

/-- A line of the dump is a comment, a short setting or a path. -/
theorem forall_dumpItems (hl : Loadable cfg) (hP : Covers P)
    (hpath : ∀ p ∈ pathSettings cfg, P (.pair p.1 p.2)) : ∀ i ∈ dumpItems cfg, P i := by
  simp only [pathSettings, List.forall_mem_append, List.forall_mem_cons, List.forall_mem_map] at hpath
  obtain ⟨⟨hca, hbpf, hkernel, hpid, hsign, hpub, -⟩, hlibs, hverity⟩ := hpath
  simp only [dumpItems, List.forall_mem_append]
  exact ⟨hP.verifierItems hl hca, hP.bpfItems hl hbpf, hP.attestItems hl hkernel,
    hP.daemonItems hl hpid hsign hpub, hP.listItems hlibs hverity⟩

end

theorem dumpItems_readable (hl : Loadable cfg) : ∀ i ∈ dumpItems cfg, i.Readable := by
  have hpair : ∀ key v, goodKey key = true → Printable v → (Item.pair key v).Readable := by
    intro key v hkey hv
    simp only [goodKey, Bool.and_eq_true, decide_eq_true_eq] at hkey
    exact ⟨hkey.1, hkey.2.1, hv⟩
  refine forall_dumpItems hl ⟨fun _ h => h, fun key v hkey hv _ => hpair key v hkey hv⟩ fun p hp => ?_
  obtain ⟨hkey, hv⟩ := pathSettings_stored hl p hp
  exact hpair p.1 p.2 hkey hv.printable

/-- Only the line of a path can be too long. -/
theorem dumpItems_fit (hl : Loadable cfg)
    (h : ∀ p ∈ pathSettings cfg, p.1.toList.length + p.2.length ≤ 1019) :
    ∀ i ∈ dumpItems cfg, i.fits = true := by
  refine forall_dumpItems hl ⟨fun line hr => ?_, fun key v hkey _ hv => ?_⟩ fun p hp =>
    fits_iff.mpr (h p hp)
  · have hlen : line.toList.length < maxLine - 1 := hr.2.2.2
    exact decide_eq_true (Nat.add_lt_of_lt_sub hlen)
  · simp only [goodKey, Bool.and_eq_true, decide_eq_true_eq] at hkey
    exact fits_short hkey.2.2 hv

/-- **What comes back.** -/
theorem loadText_configDump (hl : Loadable cfg) : (loadText (configDump cfg)).cfg = reread cfg := by
  rw [configDump, loadText_render (dumpItems_readable hl)]
  exact (dumpItems_run hl 0).1

/-- No sealing flag is set, the strings that are not checked do not end in a
space, and every path fits a line with its key. -/
structure RoundTrips (cfg : LotaConfig) : Prop where
  unsealed : cfg.sealAikAuth = false ∧ cfg.sealAikAuthStrict = false ∧ cfg.sealPersistentPrimary = false
  ends : Back cfg.server ∧ Back cfg.pinSha256 ∧ Back cfg.logLevel
  paths : ∀ p ∈ pathSettings cfg, p.1.toList.length + p.2.length ≤ 1019

theorem kept_eq_self {key : String} {v d : Text} (hd : (Item.pair key d).fits = true) :
    kept key v d = v ↔ (Item.pair key v).fits = true := by
  unfold kept
  by_cases hv : (Item.pair key v).fits = true
  · simp [hv]
  · rw [if_neg hv]
    constructor
    · intro he
      rw [← he] at hv
      exact absurd hd hv
    · exact fun h => absurd h hv

theorem pathSettings_fit : (∀ p ∈ pathSettings cfg, p.1.toList.length + p.2.length ≤ 1019) ↔
    (∀ p ∈ pathSettings cfg, (Item.pair p.1 p.2).fits = true) := by
  simp only [fits_iff]

theorem unsealed_eq_self (hauth : cfg.sealAikAuth = false) (hstrict : cfg.sealAikAuthStrict = false)
    (hprimary : cfg.sealPersistentPrimary = false) :
    { cfg with sealAikAuth := false, sealAikAuthStrict := false, sealPersistentPrimary := false } =
    cfg := by
  cases cfg
  subst hauth hstrict hprimary
  rfl

theorem reread_eq_self : reread cfg = cfg ↔ RoundTrips cfg := by
  have hcert := @kept_eq_self "ca_cert" cfg.caCert [] (by decide)
  have hbpf := @kept_eq_self "bpf_path" cfg.bpfPath configInit.bpfPath (by decide)
  have hkernel := @kept_eq_self "kernel_path" cfg.kernelPath [] (by decide)
  have hpid := @kept_eq_self "pid_file" cfg.pidFile configInit.pidFile (by decide)
  have hsign := @kept_eq_self "signing_key" cfg.signingKey [] (by decide)
  have hpub := @kept_eq_self "policy_pubkey" cfg.policyPubkey [] (by decide)
  have hpaths : (∀ p ∈ pathSettings cfg, p.1.toList.length + p.2.length ≤ 1019) ↔
      ((Item.pair "ca_cert" cfg.caCert).fits = true ∧ (Item.pair "bpf_path" cfg.bpfPath).fits = true ∧
        (Item.pair "kernel_path" cfg.kernelPath).fits = true ∧
        (Item.pair "pid_file" cfg.pidFile).fits = true ∧
        (Item.pair "signing_key" cfg.signingKey).fits = true ∧
        (Item.pair "policy_pubkey" cfg.policyPubkey).fits = true) ∧
      (∀ v ∈ cfg.trustLibs, (Item.pair "trust_lib" v).fits = true) ∧
      ∀ v ∈ cfg.allowVerity, (Item.pair "allow_verity" v).fits = true := by
    rw [pathSettings_fit]
    simp only [pathSettings, List.forall_mem_append, List.forall_mem_cons, List.forall_mem_map,
      List.not_mem_nil, false_imp_iff, implies_true, and_true]
  constructor
  · intro h
    have hfield : ∀ {α : Type} (get : LotaConfig → α), get (reread cfg) = get cfg :=
      fun get => congrArg get h
    refine ⟨⟨(hfield (·.sealAikAuth)).symm, (hfield (·.sealAikAuthStrict)).symm,
      (hfield (·.sealPersistentPrimary)).symm⟩,
      ⟨trimEnd_eq_self.mp (hfield (·.server)), trimEnd_eq_self.mp (hfield (·.pinSha256)),
        trimEnd_eq_self.mp (hfield (·.logLevel))⟩,
        hpaths.mpr ⟨⟨hcert.mp (hfield (·.caCert)), hbpf.mp (hfield (·.bpfPath)),
        hkernel.mp (hfield (·.kernelPath)), hpid.mp (hfield (·.pidFile)),
        hsign.mp (hfield (·.signingKey)),
        hpub.mp (hfield (·.policyPubkey))⟩, List.filter_eq_self.mp (hfield (·.trustLibs)),
        List.filter_eq_self.mp (hfield (·.allowVerity))⟩⟩
  · rintro ⟨⟨hauth, hstrict, hprimary⟩, ⟨hserver, hpin, hlog⟩, hfits⟩
    obtain ⟨⟨h1, h2, h3, h4, h5, h6⟩, hlibs, hverity⟩ := hpaths.mp hfits
    unfold reread
    rw [trimEnd_eq_self.mpr hserver, trimEnd_eq_self.mpr hpin, trimEnd_eq_self.mpr hlog,
      hcert.mpr h1, hbpf.mpr h2,
      hkernel.mpr h3, hpid.mpr h4, hsign.mpr h5, hpub.mpr h6, List.filter_eq_self.mpr hlibs,
      List.filter_eq_self.mpr hverity]
    exact unsealed_eq_self hauth hstrict hprimary

/-- **The round trip.** Whatever file it came from, a configuration comes back
from its dump exactly if no sealing flag is set, no unchecked string ends in a
space, and every path fits its line; and then the dump has no errors. -/
theorem config_dump_round_trip_iff (text : Text) :
    ((loadText (configDump (loadText text).cfg)).cfg = (loadText text).cfg ↔
      RoundTrips (loadText text).cfg) ∧
      (RoundTrips (loadText text).cfg → (loadText (configDump (loadText text).cfg)).errors = 0) := by
  have hl := loadText_loadable text
  constructor
  · rw [loadText_configDump hl]
    exact reread_eq_self
  · intro h
    rw [configDump, loadText_render (dumpItems_readable hl)]
    exact (dumpItems_run hl 0).2 (dumpItems_fit hl h.paths)

/-- A flag that a file sets and a dump leaves out. -/
theorem dump_loses_sealing :
    (loadText "seal_aik_auth = true\n".toList).errors = 0 ∧
      (loadText (configDump (loadText "seal_aik_auth = true\n".toList).cfg)).cfg ≠
        (loadText "seal_aik_auth = true\n".toList).cfg := by
  have hload : (loadText "seal_aik_auth = true\n".toList).errors = 0 ∧
      (loadText "seal_aik_auth = true\n".toList).cfg.sealAikAuth = true := by decide +kernel
  refine ⟨hload.1, fun h => ?_⟩
  rw [loadText_configDump (loadText_loadable _)] at h
  exact absurd (hload.2.symm.trans (congrArg LotaConfig.sealAikAuth h).symm) (by decide)

end

end Lota.L6.FullConfig

import Lota.Core.PrefixCode
import Lota.Core.Sha256
import Lota.Core.SortedSet
import Lota.L6Agent.ProtectedSet

/-!
# The policy digest (`agent/startup_policy.c`)

At startup the agent hashes the policy it enforces: mode, enforcement flags,
the fs-verity digests it allows, the protected processes and the trusted
libraries. The digest is bound into every token. Allowed digests are sorted and
kept with their repeats; processes and libraries are sorted and hashed without
repeats. The agent keeps a snapshot of the policy in that canonical form, so
that the digest can be computed again.

* `policyMessage_inj`, `policyMessage_eq_iff`: the bytes that are hashed
  determine the policy, up to order and repeats.
* `recompute_snapshot`: what the snapshot hashes to.
-/
namespace Lota.L6.Policy
open Lota.Core

inductive Errno where
  | einval | enospc | enotsup | eperm | enametoolong | eoverflow | enoent
  /-- What a call outside the agent reports. -/
  | os (code : Nat)
  deriving DecidableEq, Repr

/-- mirrors include/lota.h:150 -/
def maxProtectedPids : Nat := 1024

/-- mirrors include/lota.h:157 -/
def maxTrustedLibs : Nat := 512

def pathMax : Nat := 4096

/-- mirrors include/lota.h:95 -/
def verityDigestSize : Nat := 64

/-- A string in a `char[PATH_MAX]`. -/
@[ext] structure CPath where
  bytes : Bytes
  noNul : 0 ∉ bytes
  fits : bytes.length < pathMax

instance : DecidableEq CPath := fun a b => decidable_of_iff (a.bytes = b.bytes) CPath.ext_iff.symm

/-- mirrors include/lota.h:103-106 -/
@[ext] structure VerityDigestKey where
  len : UInt32
  digest : Blob verityDigestSize
  deriving DecidableEq

/-- mirrors src/agent/startup_policy.h:10-33 -/
structure AgentStartupPolicy where
  mode : Int32
  strictMmap : Bool
  strictExec : Bool
  blockPtrace : Bool
  strictModules : Bool
  blockAnonExec : Bool
  protectPids : List UInt32
  trustLibs : List CPath
  allowVerity : List CPath
  allowMutableRootfs : Bool
  /-- `allow_verity_count` is an `int`. -/
  allowVerityCount : allowVerity.length < 2 ^ 31

/-! ## The orders -/

/-- mirrors src/agent/startup_policy.c:237-246 -/
def u32Cmp (a b : UInt32) : Ordering := if a < b then .lt else if b < a then .gt else .eq

/-- `strcmp`: the terminator is smaller than any other byte.
mirrors src/agent/startup_policy.c:248-259 -/
def cstrPtrCmp (a b : CPath) : Ordering := List.compareLex compare a.bytes b.bytes

/-- Length first, then `memcmp` over the length.
mirrors src/agent/startup_policy.c:223-235 -/
def verityDigestKeyCmp (a b : VerityDigestKey) : Ordering :=
  (compare a.len b.len).then
    (List.compareLex compare (a.digest.toList.take a.len.toNat) (b.digest.toList.take a.len.toNat))

theorem u32Cmp_eq : u32Cmp = compare := by
  funext a b
  show _ = compareOfLessAndEq a b
  unfold u32Cmp compareOfLessAndEq
  by_cases hab : a < b
  · rw [if_pos hab, if_pos hab]
  · rw [if_neg hab, if_neg hab]
    by_cases heq : a = b
    · subst heq
      rw [if_pos rfl, if_neg hab]
    · rw [if_neg heq, if_pos (UInt32.lt_of_le_of_ne (UInt32.not_lt.mp hab) (Ne.symm heq))]

instance : Std.TransCmp u32Cmp := u32Cmp_eq ▸ inferInstance

instance : Std.LawfulEqCmp u32Cmp := u32Cmp_eq ▸ inferInstance

theorem cstrPtrCmp_eq : cstrPtrCmp = compareOn CPath.bytes := rfl

instance : Std.TransCmp cstrPtrCmp := cstrPtrCmp_eq ▸ inferInstance

instance : Std.LawfulEqCmp cstrPtrCmp where
  compare_self {a} := show List.compareLex compare a.bytes a.bytes = .eq from Std.ReflCmp.compare_self
  eq_of_compare h := CPath.ext (Std.LawfulEqCmp.eq_of_compare h)

theorem verityDigestKeyCmp_eq : verityDigestKeyCmp =
    compareLex (compareOn VerityDigestKey.len)
    (compareOn fun k => k.digest.toList.take k.len.toNat) := by
  funext a b
  unfold verityDigestKeyCmp compareLex compareOn
  cases h : compare a.len b.len with
  | lt => rfl
  | gt => rfl
  | eq =>
    show List.compareLex compare (a.digest.toList.take a.len.toNat) (b.digest.toList.take a.len.toNat) =
      List.compareLex compare (a.digest.toList.take a.len.toNat) (b.digest.toList.take b.len.toNat)
    rw [Std.LawfulEqCmp.eq_of_compare h]

instance : Std.TransCmp verityDigestKeyCmp := verityDigestKeyCmp_eq ▸ inferInstance

/-- What a key of the only accepted length says. -/
def VerityDigestKey.Sha512 (k : VerityDigestKey) : Prop := k.len = UInt32.ofNat verityDigestSize

instance (k : VerityDigestKey) : Decidable k.Sha512 := inferInstanceAs (Decidable (_ = _))

theorem VerityDigestKey.Sha512.take {k : VerityDigestKey} (h : k.Sha512) :
    k.digest.toList.take k.len.toNat = k.digest.toList := by
  rw [h]
  exact List.take_of_length_le (le_of_eq k.digest.toList_length)

/-- Keys of the accepted length compare equal only if they are. -/
theorem eq_of_verityDigestKeyCmp {a b : VerityDigestKey} (ha : a.Sha512) (hb : b.Sha512)
    (h : verityDigestKeyCmp a b = .eq) : a = b := by
  rw [verityDigestKeyCmp_eq] at h
  obtain ⟨hlen, hdigest⟩ := Ordering.then_eq_eq.mp h
  refine VerityDigestKey.ext (Std.LawfulEqCmp.eq_of_compare hlen) (List.Vector.toList_injective ?_)
  have hd : a.digest.toList.take a.len.toNat = b.digest.toList.take b.len.toNat :=
    Std.LawfulEqCmp.eq_of_compare hdigest
  rwa [ha.take, hb.take] at hd

/-! ## What is hashed -/

/-- `flags |= 1u << bit` where `on`. -/
def flagBit (on : Bool) (bit : UInt32) : UInt32 := if on then 1 <<< bit else 0

/-- mirrors src/agent/startup_policy.c:293-305 -/
def policyFlags (policy : AgentStartupPolicy) : UInt32 :=
  flagBit policy.strictMmap 0 ||| flagBit policy.strictExec 1 ||| flagBit policy.blockPtrace 2 |||
  flagBit policy.strictModules 3 ||| flagBit policy.blockAnonExec 4 ||| flagBit true 5

/-- mirrors src/agent/startup_policy.c:343-357 -/
def digestEntry (k : VerityDigestKey) : Bytes := toLE 4 k.len.toNat ++ k.digest.toList.take k.len.toNat

def pidEntry (pid : UInt32) : Bytes := toLE 4 pid.toNat

def libEntry (lib : CPath) : Bytes := sized 4 lib.bytes

section
variable {α : Type} [DecidableEq α]

/-- How many entries differ from their left neighbour once sorted, then these
entries. mirrors src/agent/startup_policy.c:360-396 and 399-439 -/
def setBytes (cmp : α → α → Ordering) (enc : α → Bytes) (l : List α) : Bytes :=
  if l.length > 0 then
    let sorted := qsort cmp l
    toLE 4 (countNew none sorted) ++ (newEntries none sorted).flatMap enc
  else toLE 4 0

theorem setBytes_eq (cmp : α → α → Ordering) (enc : α → Bytes) (l : List α) :
    setBytes cmp enc l = counted 4 enc (sortUnique cmp l) := by
  cases l with
  | nil => simp [setBytes, counted, sortUnique, qsort, newEntries]
  | cons a l =>
    have hpos : (a :: l).length > 0 := Nat.succ_pos l.length
    simp only [setBytes, if_pos hpos, countNew_eq]
    rfl

end

/-- mirrors src/agent/startup_policy.c:316-440 -/
def policyMessage (policy : AgentStartupPolicy) (digests : List VerityDigestKey) : Bytes :=
  ascii "LOTA_POLICY_V1" ++ (toLE 4 policy.mode.toUInt32.toNat ++ (toLE 4 (policyFlags policy).toNat ++
  ((toLE 4 digests.length ++ digests.flatMap digestEntry) ++
  (setBytes u32Cmp pidEntry policy.protectPids ++ setBytes cstrPtrCmp libEntry policy.trustLibs))))

/-- `lib` is what an allocation or a call into OpenSSL reports when it fails.
mirrors src/agent/startup_policy.c:261-473 -/
def computePolicyDigest (lib : Option Errno) (policy : AgentStartupPolicy)
    (digests : List VerityDigestKey) : Except Errno (Blob 32) :=
  if policy.protectPids.length > maxProtectedPids then .error .enospc
  else if policy.trustLibs.length > maxTrustedLibs then .error .enospc
  else
    match lib with
    | some e => .error e
    | none =>
      if digests.all (fun k => decide k.Sha512) then .ok (sha256 (policyMessage policy digests))
        else .error .einval

theorem computePolicyDigest_ok {lib : Option Errno} {policy : AgentStartupPolicy}
    {digests : List VerityDigestKey}
    {d : Blob 32} : computePolicyDigest lib policy digests = .ok d ↔
      policy.protectPids.length ≤ maxProtectedPids ∧ policy.trustLibs.length ≤ maxTrustedLibs ∧
      lib = none ∧ (∀ k ∈ digests, k.Sha512) ∧ d = sha256 (policyMessage policy digests) := by
  unfold computePolicyDigest
  by_cases hp : policy.protectPids.length > maxProtectedPids
  · simp [hp]
  · by_cases hl : policy.trustLibs.length > maxTrustedLibs
    · simp [hp, hl]
    · rw [if_neg hp, if_neg hl]
      cases lib with
      | some e => simp
      | none =>
        have hall : digests.all (fun k => decide k.Sha512) = true ↔ ∀ k ∈ digests, k.Sha512 := by simp
        by_cases hk : ∀ k ∈ digests, k.Sha512
        · simp only [if_pos (hall.mpr hk), Except.ok.injEq]
          exact ⟨fun h => ⟨Nat.not_lt.mp hp, Nat.not_lt.mp hl, trivial, hk, h.symm⟩,
            fun h => h.2.2.2.2.symm⟩
        · simp [hk]

/-- What two policies with one digest share. The allowed digests count with
their repeats. -/
structure SamePolicy (p q : AgentStartupPolicy) (ps qs : List VerityDigestKey) : Prop where
  mode : p.mode = q.mode
  strictMmap : p.strictMmap = q.strictMmap
  strictExec : p.strictExec = q.strictExec
  blockPtrace : p.blockPtrace = q.blockPtrace
  strictModules : p.strictModules = q.strictModules
  blockAnonExec : p.blockAnonExec = q.blockAnonExec
  allowed : ps.Perm qs
  protectPids : ∀ pid, pid ∈ p.protectPids ↔ pid ∈ q.protectPids
  trustLibs : ∀ lib, lib ∈ p.trustLibs ↔ lib ∈ q.trustLibs

theorem flags_inj (a b c d e a' b' c' d' e' : Bool)
    (h : flagBit a 0 ||| flagBit b 1 ||| flagBit c 2 ||| flagBit d 3 ||| flagBit e 4 |||
      flagBit true 5 =
      flagBit a' 0 ||| flagBit b' 1 ||| flagBit c' 2 ||| flagBit d' 3 ||| flagBit e' 4 |||
      flagBit true 5) :
    a = a' ∧ b = b' ∧ c = c' ∧ d = d' ∧ e = e' := by
  revert a b c d e a' b' c' d' e'
  decide +kernel

theorem mode_inj {m n : Int32} (h : m.toUInt32.toNat = n.toUInt32.toNat) : m = n := by
  cases m
  cases n
  exact congrArg Int32.ofUInt32 (UInt32.toNat_inj.mp h)

theorem prefixFree_digestEntry : PrefixFree VerityDigestKey.Sha512 digestEntry := by
  intro k m xs ys hk hm h
  unfold digestEntry at h
  rw [hk.take, hm.take, List.append_assoc, List.append_assoc] at h
  obtain ⟨hlen, h⟩ := append_word_inj k.len.toNat_lt m.len.toNat_lt h
  obtain ⟨hdigest, h⟩ := append_blob_inj h
  exact ⟨VerityDigestKey.ext (UInt32.toNat_inj.mp hlen) hdigest, h⟩

theorem prefixFree_pidEntry : PrefixFree (fun _ => True) pidEntry := by
  intro a b xs ys _ _ h
  obtain ⟨hab, h⟩ := append_word_inj a.toNat_lt b.toNat_lt h
  exact ⟨UInt32.toNat_inj.mp hab, h⟩

theorem prefixFree_libEntry : PrefixFree (fun _ => True) libEntry := by
  intro a b xs ys _ _ h
  have hlen (p : CPath) : p.bytes.length < 256 ^ 4 := by
    have hp : p.bytes.length < 4096 := p.fits
    omega
  obtain ⟨hab, h⟩ := prefixFree_sized 4 (hlen a) (hlen b) h
  exact ⟨CPath.ext hab, h⟩

/-- The limits that the digest is computed under. -/
structure WithinCaps (p : AgentStartupPolicy) (ps : List VerityDigestKey) : Prop where
  pids : p.protectPids.length ≤ maxProtectedPids
  libs : p.trustLibs.length ≤ maxTrustedLibs
  sha512 : ∀ k ∈ ps, k.Sha512
  count : ps.length < 2 ^ 31

/-- **Message.** The hashed bytes determine the policy. -/
theorem policyMessage_inj {p q : AgentStartupPolicy} {ps qs : List VerityDigestKey}
    (hp : WithinCaps p ps)
    (hq : WithinCaps q qs) (h : policyMessage p ps = policyMessage q qs) :
    ps = qs ∧ SamePolicy p q ps qs := by
  unfold policyMessage at h
  rw [setBytes_eq, setBytes_eq, setBytes_eq, setBytes_eq] at h
  obtain ⟨hmode, h⟩ :=
    append_word_inj p.mode.toUInt32.toNat_lt q.mode.toUInt32.toNat_lt (List.append_cancel_left h)
  obtain ⟨hflags, h⟩ := append_word_inj (policyFlags p).toNat_lt (policyFlags q).toNat_lt h
  obtain ⟨f0, f1, f2, f3, f4⟩ := flags_inj _ _ _ _ _ _ _ _ _ _ (UInt32.toNat_inj.mp hflags)
  have hps := hp.count
  have hqs := hq.count
  obtain ⟨hdigests, h⟩ := prefixFree_digestEntry.counted 4 ⟨by omega, hp.sha512⟩ ⟨by omega, hq.sha512⟩ h
  have hpl : (sortUnique u32Cmp p.protectPids).length < 256 ^ 4 :=
    Nat.lt_of_le_of_lt ((sortUnique_length_le _).trans hp.pids) (by decide)
  have hql : (sortUnique u32Cmp q.protectPids).length < 256 ^ 4 :=
    Nat.lt_of_le_of_lt ((sortUnique_length_le _).trans hq.pids) (by decide)
  obtain ⟨hpids, h⟩ :=
    prefixFree_pidEntry.counted 4 ⟨hpl, fun _ _ => trivial⟩ ⟨hql, fun _ _ => trivial⟩ h
  have hpt : (sortUnique cstrPtrCmp p.trustLibs).length < 256 ^ 4 :=
    Nat.lt_of_le_of_lt ((sortUnique_length_le _).trans hp.libs) (by decide)
  have hqt : (sortUnique cstrPtrCmp q.trustLibs).length < 256 ^ 4 :=
    Nat.lt_of_le_of_lt ((sortUnique_length_le _).trans hq.libs) (by decide)
  -- nothing follows the libraries
  rw [← List.append_nil (counted 4 libEntry (sortUnique cstrPtrCmp p.trustLibs)),
    ← List.append_nil (counted 4 libEntry (sortUnique cstrPtrCmp q.trustLibs))] at h
  obtain ⟨hlibs, -⟩ :=
    prefixFree_libEntry.counted 4 ⟨hpt, fun _ _ => trivial⟩ ⟨hqt, fun _ _ => trivial⟩ h
  exact ⟨hdigests, mode_inj hmode, f0, f1, f2, f3, f4, hdigests ▸ List.Perm.refl ps,
    sortUnique_eq_iff.mp hpids, sortUnique_eq_iff.mp hlibs⟩

/-- Order and repeats of processes and libraries do not enter the message. -/
theorem policyMessage_congr {p q : AgentStartupPolicy} {ps qs : List VerityDigestKey}
    (h : SamePolicy p q ps qs) : policyMessage p ps = policyMessage q ps := by
  unfold policyMessage policyFlags
  rw [setBytes_eq, setBytes_eq, setBytes_eq, setBytes_eq, sortUnique_eq_iff.mpr h.protectPids,
    sortUnique_eq_iff.mpr h.trustLibs, h.mode, h.strictMmap, h.strictExec, h.blockPtrace,
    h.strictModules, h.blockAnonExec]

theorem WithinCaps.qsort {p : AgentStartupPolicy} {ps : List VerityDigestKey} (h : WithinCaps p ps) :
    WithinCaps p (qsort verityDigestKeyCmp ps) where
  pids := h.pids
  libs := h.libs
  sha512 k hk := h.sha512 k ((qsort_perm _ ps).mem_iff.mp hk)
  count := (qsort_perm verityDigestKeyCmp ps).length_eq ▸ h.count

/-- **Faithful message.** With the allowed digests sorted, two policies hash the
same bytes exactly if they are the same. -/
theorem policyMessage_eq_iff {p q : AgentStartupPolicy} {ps qs : List VerityDigestKey}
    (hp : WithinCaps p ps)
    (hq : WithinCaps q qs) :
    policyMessage p (qsort verityDigestKeyCmp ps) = policyMessage q (qsort verityDigestKeyCmp qs) ↔
      SamePolicy p q ps qs := by
  have hsort := qsort_eq_iff (l := ps) (m := qs) fun a ha b hb =>
    eq_of_verityDigestKeyCmp (hp.sha512 a ha) (hq.sha512 b hb)
  constructor
  · intro h
    obtain ⟨hdigests, hsame⟩ := policyMessage_inj hp.qsort hq.qsort h
    exact { hsame with allowed := hsort.mp hdigests }
  · intro h
    rw [hsort.mpr h.allowed]
    exact policyMessage_congr { h with allowed := List.Perm.refl _ }

/-! ## The canonical snapshot -/

/-- mirrors src/agent/startup_policy.c:84-135 -/
def canonicalizeU32Set (pids : List UInt32) : List UInt32 := sortUnique u32Cmp pids

/-- mirrors src/agent/startup_policy.c:137-191 -/
def canonicalizeTrustLibs (libs : List CPath) : List CPath := sortUnique cstrPtrCmp libs

/-- The set that the requests start from is the one of the snapshot. -/
theorem protectedSet_canonicalize (pids : List UInt32) :
    ProtectedSet.canonicalizeU32Set pids = canonicalizeU32Set pids := by
  have hs : (ProtectedSet.canonicalizeU32Set pids).Pairwise (· < ·) := ProtectedSet.canonicalize_spec
  refine List.Perm.eq_of_pairwise ?_ (hs.imp fun h => ?_) (sortUnique_sorted pids) ?_
  · intro a b _ _ hab hba
    exact Std.LawfulEqCmp.eq_of_compare (eq_of_isLE_isLE hab hba)
  · simp [u32Cmp, h]
  · refine (List.perm_ext_iff_of_nodup (hs.imp UInt32.ne_of_lt) (sortUnique_nodup pids)).mpr fun x => ?_
    rw [ProtectedSet.mem_canonicalize, mem_sortUnique]

/-- mirrors src/agent/agent.h:75-93 -/
structure PolicySnapshot where
  mode : Int32
  strictMmap : Bool
  strictExec : Bool
  blockPtrace : Bool
  strictModules : Bool
  blockAnonExec : Bool
  verityDigests : List VerityDigestKey
  /-- sorted, unique -/
  protectPids : List UInt32
  /-- sorted, unique -/
  trustLibs : List CPath

/-- mirrors src/agent/startup_policy.c:705-786 -/
def persistSnapshot (policy : AgentStartupPolicy) (digests : List VerityDigestKey) :
    PolicySnapshot where
  mode := policy.mode
  strictMmap := policy.strictMmap
  strictExec := policy.strictExec
  blockPtrace := policy.blockPtrace
  strictModules := policy.strictModules
  blockAnonExec := policy.blockAnonExec
  verityDigests := digests
  protectPids := canonicalizeU32Set policy.protectPids
  trustLibs := canonicalizeTrustLibs policy.trustLibs

/-- The policy that is hashed again: its list of paths is not read.
mirrors src/agent/startup_policy.c:199-216 -/
def PolicySnapshot.policy (snap : PolicySnapshot) (protectPids : List UInt32) : AgentStartupPolicy where
  mode := snap.mode
  strictMmap := snap.strictMmap
  strictExec := snap.strictExec
  blockPtrace := snap.blockPtrace
  strictModules := snap.strictModules
  blockAnonExec := snap.blockAnonExec
  protectPids := protectPids
  trustLibs := snap.trustLibs
  allowVerity := []
  allowMutableRootfs := false
  allowVerityCount := by decide

/-- mirrors src/agent/startup_policy.c:193-221 -/
def agentComputePolicyDigestForProtectPids (lib : Option Errno) (snapshot : Option PolicySnapshot)
    (protectPids : List UInt32) : Except Errno (Blob 32) :=
  match snapshot with
  | none => .error .einval
  | some snap => computePolicyDigest lib (snap.policy protectPids) snap.verityDigests

/-- **Recomputing.** The snapshot of a policy and its own processes hash to the
digest of the policy. -/
theorem recompute_snapshot {policy : AgentStartupPolicy} {digests : List VerityDigestKey}
    {lib : Option Errno}
    {d : Blob 32} (h : computePolicyDigest lib policy digests = .ok d) :
    agentComputePolicyDigestForProtectPids none (some (persistSnapshot policy digests))
      (persistSnapshot policy digests).protectPids = .ok d := by
  obtain ⟨hp, hl, -, hk, rfl⟩ := computePolicyDigest_ok.mp h
  refine computePolicyDigest_ok.mpr ⟨(sortUnique_length_le _).trans hp,
    (sortUnique_length_le _).trans hl, rfl, hk, ?_⟩
  have hsame :
      SamePolicy policy
      ((persistSnapshot policy digests).policy (persistSnapshot policy digests).protectPids)
      digests digests :=
    ⟨rfl, rfl, rfl, rfl, rfl, rfl, List.Perm.refl _, fun _ => (mem_sortUnique u32Cmp).symm,
      fun _ => (mem_sortUnique cstrPtrCmp).symm⟩
  exact congrArg sha256 (policyMessage_congr hsame)

end Lota.L6.Policy

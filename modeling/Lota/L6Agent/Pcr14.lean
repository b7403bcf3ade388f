import Lota.Core.Bytes
import Lota.Core.Sha256
import Lota.L3Verifier.BootCommitment

/-!
# PCR 14 in the agent (`agent/tpm.c`)

At every start the agent reads the TPM's reset and restart counters, derives
the values PCR 14 can hold, and extends the boot commitment when PCR 14 is
untouched or holds only the initramfs lock. A snapshot on disk lets it name
the cause when PCR 14 holds something else.

The TPM follows its specification: an extend that succeeds replaces the
register by the hash of register and digest, one that fails changes nothing.
The counters do not move during a call. Every call to the TPM and to the file
system may fail.

* `clockState_load`: the snapshot that was saved is loaded again.
* `pcrExtend_cases`: the retries extend the register once or not at all.
* `bootCommitmentDigest_eq` and the lemmas after it: the agent's derivations
  are the verifier's.
* `extend_cases`: everything a call can do.
* `boot_commitment_agrees`: after a call that succeeds PCR 14 holds the value
  the verifier derives, and a refusal changes nothing.
-/
namespace Lota.L6.Pcr14
open Lota.Core Lota.L1.Report Lota.L3.BootCommitment

inductive Errno where
  | einval | ebadmsg | enokey | enoent | eio | eagain | enodev | enomem | tpmLocked | tpmAuthFail
  | tpmPolicyFail
  /-- Any other. -/
  | sys (errno : Nat)
  deriving DecidableEq, Repr

/-! ## Calls to the TPM -/

/-- The TPM's own codes, as far as the agent tells them apart. -/
inductive TpmCode where
  | lockout | retry | yielded | testing | nvRate | nvUnavailable | sessionMemory | objectMemory | memory
  | handle | referenceH0 | authFail | badAuth | nvAuthorization | value | size | policyFail
  | pcrChanged | other
  deriving DecidableEq, Repr

/-- A `TSS2_RC`. -/
inductive Rc where
  | success | tctiNoConnection | tctiIoError | tctiTryAgain | esysBadReference | esysMemory
  | tpm (code : TpmCode)
  /-- Of another layer. -/
  | otherLayer
  deriving DecidableEq, Repr

/-- mirrors src/agent/tpm.c:141-162 -/
def Rc.isTransient : Rc → Bool
  | .tctiTryAgain => true
  | .tpm code => match code with
    | .retry | .yielded | .testing | .nvRate | .nvUnavailable | .sessionMemory | .objectMemory
    | .memory => true
    | _ => false
  | _ => false

/-- mirrors src/agent/tpm.c:180-244 -/
def Rc.toErrno : Rc → Except Errno Unit
  | .success => .ok ()
  | .tctiNoConnection | .tctiIoError => .error .enodev
  | .tctiTryAgain => .error .eagain
  | .esysBadReference => .error .einval
  | .esysMemory => .error .enomem
  | .otherLayer => .error .eio
  | .tpm code => match code with
    | .lockout => .error .tpmLocked
    | .retry | .yielded | .testing | .nvRate | .nvUnavailable | .sessionMemory
    | .objectMemory | .memory =>
      .error .eagain
    | .handle | .referenceH0 => .error .enoent
    | .authFail | .badAuth | .nvAuthorization => .error .tpmAuthFail
    | .value | .size => .error .einval
    | .policyFail | .pcrChanged => .error .tpmPolicyFail
    | .other => .error .eio

structure Tpm where
  pcr14 : Hash
  resetCount : UInt32
  restartCount : UInt32
  /-- ghost: how often PCR 14 was extended -/
  extendCount : Nat
  deriving DecidableEq

/-- mirrors src/agent/tpm.c:1912-1930 -/
def sha256TwoBlock (a b : Hash) : Hash := sha256 (a.toList ++ b.toList)

/-- One `Esys_PCR_Extend` that comes back with `rc`. -/
def Tpm.pcrExtend (tpm : Tpm) (digest : Hash) (rc : Rc) : Tpm :=
  if rc = .success then { tpm with pcr14 := sha256TwoBlock tpm.pcr14 digest,
                                   extendCount := tpm.extendCount + 1 } else tpm

def retryMaxAttempts : Nat := 6
def retryBudgetMs : Nat := 2000

/-- mirrors src/agent/tpm.c:265-271 -/
def backoffMs (attempt : Nat) : Nat := min (25 * 2 ^ min attempt 7) 4000

/-- `TPM_CALL_RETRY` around the extend; the attempts come back with `rcs`.
mirrors src/agent/tpm.c:321-349 -/
def callRetry (digest : Hash) (rcs : Nat → Rc) (tpm : Tpm) (attempt budgetMs : Nat) :
    (left : Nat) → Tpm × Rc
  | 0 => (tpm.pcrExtend digest (rcs attempt), rcs attempt)
  | left + 1 =>
    if (rcs attempt).isTransient = true ∧ budgetMs + backoffMs attempt ≤ retryBudgetMs then
      callRetry digest rcs (tpm.pcrExtend digest (rcs attempt)) (attempt + 1)
      (budgetMs + backoffMs attempt) left
    else (tpm.pcrExtend digest (rcs attempt), rcs attempt)

/-- mirrors src/agent/tpm.c:1680-1724 -/
def tpmPcrExtend (tpm : Tpm) (digest : Hash) (rcs : Nat → Rc) : Tpm × Except Errno Unit :=
  let r := callRetry digest rcs tpm 0 0 retryMaxAttempts
  (r.1, r.2.toErrno)

/-! ## Derivations -/

/-- mirrors src/agent/tpm.c:1756-1765 -/
def be32 (x : UInt32) : Bytes :=
  [((x >>> 24) &&& 0xff).toUInt8, ((x >>> 16) &&& 0xff).toUInt8, ((x >>> 8) &&& 0xff).toUInt8,
    (x &&& 0xff).toUInt8]

def tpmBootCommitmentTag : String := "LOTA-PCR14-BOOT-COMMITMENT-v1"
def tpmInitramfsLockTag : String := "LOTA-PCR14-INITRAMFS-LOCK-v1"

/-- mirrors src/agent/tpm.c:1750-1783 -/
def bootCommitmentDigest (selfHash : Hash) (resetCount restartCount : UInt32) : Hash :=
  sha256 (ascii tpmBootCommitmentTag ++ selfHash.toList ++ be32 resetCount ++ be32 restartCount)

/-- mirrors src/agent/tpm.c:1785-1804 and src/initramfs/lota-pcr14-lock.c:98-118 -/
def initramfsLockDigest : Hash := sha256 (ascii tpmInitramfsLockTag)

/-- mirrors src/agent/tpm.c:1937-1948 -/
def expectedPcr14 (selfHash : Hash) (resetCount restartCount : UInt32) : Hash :=
  sha256TwoBlock (Blob.zero 32) (bootCommitmentDigest selfHash resetCount restartCount)

/-- mirrors src/agent/tpm.c:1955-1965 -/
def lockPcr14Value : Hash := sha256TwoBlock (Blob.zero 32) initramfsLockDigest

/-- mirrors src/agent/tpm.c:1973-1990 -/
def expectedLockedPcr14 (selfHash : Hash) (resetCount restartCount : UInt32) : Hash :=
  sha256TwoBlock lockPcr14Value (bootCommitmentDigest selfHash resetCount restartCount)

/-! ## The snapshot -/

def clockStateMagic : UInt32 := 0x4C434C4B
def clockStateVersion : UInt32 := 1
def clockStateSize : Nat := 120
def flagInitramfsLock : UInt8 := 1

/-- mirrors src/agent/tpm.h:180-192 -/
structure ClockState where
  resetCount : UInt32
  restartCount : UInt32
  pcr14 : Hash
  selfHash : Hash
  savedAt : Int64
  flags : UInt8
  deriving DecidableEq

/-- What `tpm_clock_state_save` writes. -/
def ClockState.wire (st : ClockState) : Bytes :=
  toLE 4 clockStateMagic.toNat ++ (toLE 4 clockStateVersion.toNat ++ (toLE 4 st.resetCount.toNat ++
    (toLE 4 st.restartCount.toNat ++ (st.pcr14.toList ++ (st.selfHash.toList ++
    (toLE 8 st.savedAt.toUInt64.toNat ++ (toLE 1 st.flags.toNat ++ List.replicate 31 0)))))))

/-- The `struct lota_clock_state` at the front. -/
def readClockState : Reader (UInt32 × UInt32 × ClockState) := do
  let magic ← readU32LE
  let version ← readU32LE
  let resetCount ← readU32LE
  let restartCount ← readU32LE
  let pcr14 ← readBlob 32
  let selfHash ← readBlob 32
  let savedAt ← readU64LE
  let flags ← readU8
  let _ ← readFull 31
  pure (magic, version,
    { resetCount, restartCount, pcr14, selfHash, savedAt := savedAt.toInt64, flags })

/-- mirrors src/agent/tpm.c:1806-1848; `io` is the error of the open or the
read of a file that is there. -/
def clockStateLoad (io : Except Errno Unit) (file : Option Bytes) : Except Errno ClockState :=
  match file with
  | none => .error .enoent
  | some bytes =>
    match io with
    | .error e => .error e
    | .ok () =>
      match readClockState.run bytes with
      | .error _ => .error .einval
      | .ok ((magic, version, st), _) =>
        if magic ≠ clockStateMagic then .error .einval
        else if version ≠ clockStateVersion then .error .einval
        else .ok st

/-! ## The boot commitment -/

/-- What the journal says of a refusal. -/
inductive Cause where
  | clearedWithoutReset | noSnapshot | tamperedBeforeStart | binaryChanged
  | mutatedInSession | rolledBack
  deriving DecidableEq, Repr

/-- The calls the agent makes, with what they come back with. -/
structure Call where
  initialized : Bool
  /-- `boot_commitment_locked` before the call. -/
  wasLocked : Bool
  /-- `tpm_read_signed_clockinfo` -/
  signedClock : Except Errno Unit
  /-- `Esys_ReadClock` -/
  readClock : Except Errno Unit
  /-- `tpm_read_pcr` -/
  readPcr : Except Errno Unit
  extendRcs : Nat → Rc
  loadIo : Except Errno Unit
  save : Except Errno Unit
  time : Int64

structure Outcome where
  result : Except Errno Unit
  cause : Option Cause
  tpm : Tpm
  clockFile : Option Bytes
  /-- `boot_commitment_locked`, which the report's flag is taken from. -/
  locked : Bool

/-- The counters, from a signed quote or, without an AIK, from the clock.
mirrors src/agent/tpm.c:2156-2187 -/
def readCounters (c : Call) (tpm : Tpm) : Except Errno (UInt32 × UInt32) :=
  match c.signedClock with
  | .ok () => .ok (tpm.resetCount, tpm.restartCount)
  | .error .enokey =>
    match c.readClock with
    | .ok () => .ok (tpm.resetCount, tpm.restartCount)
    | .error e => .error e
  | .error e => .error e

/-- A save that fails is only reported. -/
def saveSnapshot (c : Call) (file : Option Bytes) (st : ClockState) : Option Bytes :=
  match c.save with
  | .ok () => some st.wire
  | .error _ => file

/-- mirrors src/agent/tpm.c:2353-2465 -/
def attributeCause (prev : Option ClockState) (selfHash current : Hash) (resetCount : UInt32) : Cause :=
  match prev with
  | none => .noSnapshot
  | some prev =>
    if prev.resetCount < resetCount then .tamperedBeforeStart
    else if prev.resetCount = resetCount then
      if current = prev.pcr14 ∧ prev.selfHash ≠ selfHash then .binaryChanged else .mutatedInSession
    else .rolledBack

/-- Extend the commitment and save the snapshot. -/
def extendCommitment (c : Call) (tpm : Tpm) (file : Option Bytes) (commit : Hash) (st : ClockState)
    (locked : Bool) : Outcome :=
  match tpmPcrExtend tpm commit c.extendRcs with
  | (tpm, .error e) => { result := .error e, cause := none, tpm, clockFile := file, locked := false }
  | (tpm, .ok ()) =>
    { result := .ok (), cause := none, tpm, clockFile := saveSnapshot c file st, locked }

/-- mirrors src/agent/tpm.c:2131-2466 -/
def tpmExtendBootCommitment (c : Call) (selfHash : Hash) (tpm : Tpm) (file : Option Bytes) : Outcome :=
  let stop (e : Errno) (cause : Option Cause) : Outcome :=
    { result := .error e, cause, tpm, clockFile := file, locked := false }
  if c.initialized = false then { stop .einval none with locked := c.wasLocked }
  else match readCounters c tpm with
  | .error e => stop e none
  | .ok (resetCount, restartCount) =>
    let commit := bootCommitmentDigest selfHash resetCount restartCount
    let snap (pcr14 : Hash) (flags : UInt8) : ClockState :=
      { resetCount, restartCount, pcr14, selfHash, savedAt := c.time, flags }
    match c.readPcr with
    | .error e => stop e none
    | .ok () =>
      let prev := (clockStateLoad c.loadIo file).toOption
      let locked := snap (expectedLockedPcr14 selfHash resetCount restartCount) flagInitramfsLock
      let unlocked := snap (expectedPcr14 selfHash resetCount restartCount) 0
      if tpm.pcr14 = lockPcr14Value then extendCommitment c tpm file commit locked true
      else if tpm.pcr14 = locked.pcr14 then
        { result := .ok (), cause := none, tpm, clockFile := saveSnapshot c file locked,
          locked := true }
      else if tpm.pcr14 = Blob.zero 32 then
        if prev.any (·.resetCount = resetCount) then stop .ebadmsg (some .clearedWithoutReset)
        else extendCommitment c tpm file commit unlocked false
      else if tpm.pcr14 = unlocked.pcr14 then
        { result := .ok (), cause := none, tpm, clockFile := saveSnapshot c file unlocked,
          locked := false }
      else stop .ebadmsg (some (attributeCause prev selfHash tpm.pcr14 resetCount))

/-! ## The agent's derivations are the verifier's -/

theorem toUInt8_eq {x : UInt32} {n : Nat} (h : x.toNat = n) : (x &&& 0xff).toUInt8 = UInt8.ofNat n := by
  apply UInt8.toNat_inj.mp
  have hand : (x &&& 0xff).toNat = x.toNat % 256 := by
    rw [UInt32.toNat_and]
    exact Nat.and_two_pow_sub_one_eq_mod x.toNat 8
  rw [UInt32.toNat_toUInt8, hand, UInt8.toNat_ofNat', h]
  omega

theorem be32_eq (x : UInt32) : be32 x = toBE 4 x.toNat := by
  have h8 : (x >>> 8).toNat = x.toNat / 256 := by
    rw [UInt32.toNat_shiftRight]
    exact Nat.shiftRight_eq_div_pow x.toNat 8
  have h16 : (x >>> 16).toNat = x.toNat / 256 / 256 := by
    rw [UInt32.toNat_shiftRight, Nat.div_div_eq_div_mul]
    exact Nat.shiftRight_eq_div_pow x.toNat 16
  have h24 : (x >>> 24).toNat = x.toNat / 256 / 256 / 256 := by
    rw [UInt32.toNat_shiftRight, Nat.div_div_eq_div_mul, Nat.div_div_eq_div_mul]
    exact Nat.shiftRight_eq_div_pow x.toNat 24
  unfold be32
  rw [toUInt8_eq h24, toUInt8_eq h16, toUInt8_eq h8, toUInt8_eq rfl]
  rfl

theorem bootCommitmentDigest_eq (selfHash : Hash) (resetCount restartCount : UInt32) :
    bootCommitmentDigest selfHash resetCount restartCount = bootCommit selfHash resetCount
    restartCount := by
  unfold bootCommitmentDigest bootCommit
  rw [be32_eq, be32_eq]
  rfl

theorem lockPcr14Value_eq (resetCount restartCount : UInt32) :
    lockPcr14Value = deriveInitramfsLockPCR14 resetCount restartCount := rfl

theorem expectedPcr14_eq (selfHash : Hash) (resetCount restartCount : UInt32) :
    expectedPcr14 selfHash resetCount restartCount = deriveBootCommitmentPCR14 selfHash resetCount
    restartCount := by
  unfold expectedPcr14 deriveBootCommitmentPCR14
  rw [bootCommitmentDigest_eq]
  rfl

theorem expectedLockedPcr14_eq (selfHash : Hash) (resetCount restartCount : UInt32) :
    expectedLockedPcr14 selfHash resetCount restartCount =
      deriveLockedBootCommitmentPCR14 selfHash resetCount restartCount := by
  unfold expectedLockedPcr14 deriveLockedBootCommitmentPCR14
  rw [bootCommitmentDigest_eq, lockPcr14Value_eq resetCount restartCount]
  rfl

/-! ## The snapshot is read back -/

theorem readClockState_wire (st : ClockState) :
    readClockState.run st.wire = .ok ((clockStateMagic, clockStateVersion, st), []) := by
  unfold readClockState ClockState.wire
  rw [Reader.bind_run (readU32LE_append clockStateMagic _),
    Reader.bind_run (readU32LE_append clockStateVersion _),
    Reader.bind_run (readU32LE_append st.resetCount _),
    Reader.bind_run (readU32LE_append st.restartCount _),
    Reader.bind_run (readBlob_append st.pcr14 _), Reader.bind_run (readBlob_append st.selfHash _),
    Reader.bind_run (readU64LE_append st.savedAt.toUInt64 _),
    Reader.bind_run (readU8_append st.flags _)]
  have htail : (readFull 31).run (List.replicate 31 0) = .ok (List.replicate 31 0, []) :=
    readFull_append List.length_replicate []
  rw [Reader.bind_run htail]
  simp

/-- The snapshot that was saved is loaded again. -/
theorem clockState_load (st : ClockState) : clockStateLoad (.ok ()) (some st.wire) = .ok st := by
  unfold clockStateLoad
  simp only [readClockState_wire, ne_eq, not_true_eq_false, if_false]

/-! ## One call -/

theorem transient_ne_success {rc : Rc} (h : rc.isTransient = true) : rc ≠ .success := by
  rintro rfl
  cases h

theorem callRetry_cases (digest : Hash) (rcs : Nat → Rc) (tpm : Tpm) (attempt budgetMs left : Nat) :
    ∃ rc, callRetry digest rcs tpm attempt budgetMs left = (tpm.pcrExtend digest rc, rc) := by
  induction left generalizing attempt budgetMs with
  | zero => exact ⟨rcs attempt, rfl⟩
  | succ left ih =>
    unfold callRetry
    split
    · next h =>
      have hsame : tpm.pcrExtend digest (rcs attempt) = tpm := if_neg (transient_ne_success h.1)
      rw [hsame]
      exact ih (attempt + 1) (budgetMs + backoffMs attempt)
    · exact ⟨rcs attempt, rfl⟩

theorem toErrno_ok {rc : Rc} (h : rc.toErrno = .ok ()) : rc = .success := by
  cases rc with
  | success => rfl
  | tpm code => cases code <;> cases h
  | _ => cases h

/-- The retries extend the register once or not at all. -/
theorem pcrExtend_cases (tpm : Tpm) (digest : Hash) (rcs : Nat → Rc) :
    tpmPcrExtend tpm digest rcs =
      ({ tpm with pcr14 := sha256TwoBlock tpm.pcr14 digest, extendCount := tpm.extendCount + 1 },
        .ok ()) ∨
    ∃ e, tpmPcrExtend tpm digest rcs = (tpm, .error e) := by
  obtain ⟨rc, hrc⟩ := callRetry_cases digest rcs tpm 0 0 retryMaxAttempts
  unfold tpmPcrExtend
  simp only [hrc]
  cases he : rc.toErrno with
  | ok u =>
    have := toErrno_ok he
    rw [this]
    exact .inl rfl
  | error e =>
    refine .inr ⟨e, ?_⟩
    have hne : rc ≠ .success := by
      rintro rfl
      cases he
    rw [Tpm.pcrExtend, if_neg hne]

theorem readCounters_ok {c : Call} {tpm : Tpm} {r : UInt32 × UInt32} (h : readCounters c tpm = .ok r) :
    r = (tpm.resetCount, tpm.restartCount) := by
  unfold readCounters at h
  split at h
  · exact (Except.ok.inj h).symm
  · split at h
    · exact (Except.ok.inj h).symm
    · cases h
  · cases h

/-- The register and the snapshot are as before. -/
structure Unchanged (tpm : Tpm) (file : Option Bytes) (o : Outcome) : Prop where
  tpm : o.tpm = tpm
  clockFile : o.clockFile = file

/-- The register holds the commitment to these counters, on top of the lock
where the agent reports it, and took at most one extend to get there. -/
structure Committed (selfHash : Hash) (tpm : Tpm) (o : Outcome) : Prop where
  result : o.result = .ok ()
  pcr14 : o.tpm.pcr14 =
    if o.locked then expectedLockedPcr14 selfHash tpm.resetCount tpm.restartCount
    else expectedPcr14 selfHash tpm.resetCount tpm.restartCount
  resetCount : o.tpm.resetCount = tpm.resetCount
  restartCount : o.tpm.restartCount = tpm.restartCount
  extendCount : o.tpm.extendCount ≤ tpm.extendCount + 1

theorem extendCommitment_cases (c : Call) (selfHash : Hash) (tpm : Tpm) (file : Option Bytes)
    (st : ClockState)
    (locked : Bool) (h : tpm.pcr14 = if locked then lockPcr14Value else Blob.zero 32) :
    let o := extendCommitment c tpm file
      (bootCommitmentDigest selfHash tpm.resetCount tpm.restartCount) st locked
    Committed selfHash tpm o ∨ Unchanged tpm file o ∧ ∃ e, o.result = .error e := by
  unfold extendCommitment
  rcases pcrExtend_cases tpm (bootCommitmentDigest selfHash tpm.resetCount tpm.restartCount)
    c.extendRcs with
    hext | ⟨e, hext⟩
  · simp only [hext]
    refine .inl ⟨rfl, ?_, rfl, rfl, Nat.le_refl _⟩
    cases locked with
    | true =>
      rw [if_pos rfl] at h ⊢
      rw [expectedLockedPcr14, ← h]
    | false =>
      rw [if_neg Bool.false_ne_true] at h ⊢
      rw [expectedPcr14, ← h]
  · simp only [hext]
    exact .inr ⟨⟨rfl, rfl⟩, e, rfl⟩

/-- A call commits, or it fails and leaves everything as it was. -/
theorem extend_cases (c : Call) (selfHash : Hash) (tpm : Tpm) (file : Option Bytes) :
    let o := tpmExtendBootCommitment c selfHash tpm file
    Committed selfHash tpm o ∨ Unchanged tpm file o ∧ ∃ e, o.result = .error e := by
  unfold tpmExtendBootCommitment
  simp only
  split
  · exact .inr ⟨⟨rfl, rfl⟩, _, rfl⟩
  split
  · exact .inr ⟨⟨rfl, rfl⟩, _, rfl⟩
  next resetCount restartCount hcounters =>
  cases readCounters_ok hcounters
  split
  · exact .inr ⟨⟨rfl, rfl⟩, _, rfl⟩
  split
  · next h => exact extendCommitment_cases c selfHash tpm file _ true h
  split
  · next h => exact .inl ⟨rfl, h, rfl, rfl, Nat.le_succ _⟩
  split
  · next h =>
    split
    · exact .inr ⟨⟨rfl, rfl⟩, _, rfl⟩
    · exact extendCommitment_cases c selfHash tpm file _ false h
  split
  · next h => exact .inl ⟨rfl, h, rfl, rfl, Nat.le_succ _⟩
  · exact .inr ⟨⟨rfl, rfl⟩, _, rfl⟩

/-- A cause in the journal comes with a refusal. -/
theorem refused_of_cause {c : Call} {selfHash : Hash} {tpm : Tpm} {file : Option Bytes} {cause : Cause}
    (h : (tpmExtendBootCommitment c selfHash tpm file).cause = some cause) :
    (tpmExtendBootCommitment c selfHash tpm file).result = .error .ebadmsg := by
  have hext (commit : Hash) (st : ClockState) (locked : Bool) :
      (extendCommitment c tpm file commit st locked).cause = none := by
    unfold extendCommitment
    split <;> rfl
  unfold tpmExtendBootCommitment at h ⊢
  simp only at h ⊢
  split at h
  · cases h
  next h1 =>
  rw [if_neg h1]
  split at h
  · cases h
  split at h
  · cases h
  split at h
  · rw [hext] at h
    cases h
  next h2 =>
  rw [if_neg h2]
  split at h
  · cases h
  next h3 =>
  rw [if_neg h3]
  split at h
  · split at h
    · next h4 h5 => rw [if_pos h4, if_pos h5]
    · rw [hext] at h
      cases h
  next h4 =>
  rw [if_neg h4]
  split at h
  · cases h
  · next h5 => rw [if_neg h5]

/-- **Agent and verifier agree on PCR 14.** After a call that succeeds PCR 14
holds what the verifier derives for the agent's hash and the counters, with
the lock when the agent reports it. It was extended at most once, and a
refusal leaves it and the snapshot as they were. -/
theorem boot_commitment_agrees (c : Call) (selfHash : Hash) (tpm : Tpm) (file : Option Bytes) :
    ((tpmExtendBootCommitment c selfHash tpm file).result = .ok () →
      (tpmExtendBootCommitment c selfHash tpm file).tpm.pcr14 =
        if (tpmExtendBootCommitment c selfHash tpm file).locked then
          deriveLockedBootCommitmentPCR14 selfHash tpm.resetCount tpm.restartCount
        else deriveBootCommitmentPCR14 selfHash tpm.resetCount tpm.restartCount) ∧
    (tpmExtendBootCommitment c selfHash tpm file).tpm.extendCount ≤ tpm.extendCount + 1 ∧
    ((tpmExtendBootCommitment c selfHash tpm file).result = .error .ebadmsg →
      (tpmExtendBootCommitment c selfHash tpm file).tpm.pcr14 = tpm.pcr14 ∧
      (tpmExtendBootCommitment c selfHash tpm file).clockFile = file) := by
  rcases extend_cases c selfHash tpm file with h | ⟨h, e, he⟩
  · refine ⟨fun _ => ?_, h.extendCount, fun hbad => ?_⟩
    · rw [h.pcr14, expectedLockedPcr14_eq, expectedPcr14_eq]
    · rw [h.result] at hbad
      cases hbad
  · refine ⟨fun hok => ?_, ?_, fun _ => ⟨?_, h.clockFile⟩⟩
    · rw [he] at hok
      cases hok
    · rw [h.tpm]
      exact Nat.le_succ _
    · rw [h.tpm]

end Lota.L6.Pcr14

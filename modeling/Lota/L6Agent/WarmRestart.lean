import Lota.Core.Machine
import Lota.L3Verifier.SkewScan
import Lota.L6Agent.Pcr14

/-!
# Warm restarts (`agent/tpm.c`, `verifier/verify/baseline.go`)

A boot session: the initramfs lock where there is one, then any number of
agent starts with one binary and of suspend/resume cycles. Each resume adds
one to the TPM's restart counter. PCR 14 is extended by the first start only;
a later start has to find the value of that first extend. The verifier looks
a bounded number of restarts back for it, the agent does not.

* `start_commits`: a start succeeds when no resume came since the first one.
* `warm_restart`: over every session in which all starts are such, every start
  succeeds and every quote within the bound is accepted.
* `restart_after_resume`: a start after a resume is refused.
-/
namespace Lota.L6.WarmRestart
open Lota.Core Lota.L1.Report Lota.L3.BootCommitment Lota.L6.Pcr14

/-! ## The session -/

/-- The helper in the initramfs, and whether it exits with success.
mirrors src/initramfs/lota-pcr14-lock.c:336-372 -/
def initramfsLock (tpm : Tpm) : Tpm × Bool :=
  if tpm.pcr14 = Blob.zero 32 then (tpm.pcrExtend initramfsLockDigest .success, true)
  else if tpm.pcr14 = sha256TwoBlock (Blob.zero 32) initramfsLockDigest then (tpm, true)
  else (tpm, false)

structure Session where
  tpm : Tpm
  clockFile : Option Bytes
  /-- `boot_commitment_locked` of the agent that runs. -/
  locked : Bool
  /-- ghost: the resumes since the first start that succeeded -/
  resumes : Option Nat

inductive Event where
  | start (c : Call)
  | resume

/-- The output of a start is its result. -/
def step (selfHash : Hash) (s : Session) : Event → Session × Option (Except Errno Unit)
  | .start c =>
    let o := tpmExtendBootCommitment c selfHash s.tpm s.clockFile
    ({ tpm := o.tpm
       clockFile := o.clockFile
       locked := o.locked
       resumes := if o.result.isOk then some (s.resumes.getD 0) else s.resumes }, some o.result)
  | .resume =>
    ({ s with
       tpm := { s.tpm with restartCount := s.tpm.restartCount + 1 }
       resumes := s.resumes.map (· + 1) }, none)

def machine (selfHash : Hash) : Machine Session Event (Option (Except Errno Unit)) := ⟨step selfHash⟩

/-- After a cold boot, with the snapshot that earlier boots have left. -/
def booted (lock : Bool) (resetCount restartCount : UInt32) (clockFile : Option Bytes) : Session where
  tpm :=
    let fresh : Tpm := { pcr14 := Blob.zero 32, resetCount, restartCount, extendCount := 0 }
    if lock then (initramfsLock fresh).1 else fresh
  clockFile
  locked := false
  resumes := none

/-- The snapshot, when there is one, is of another boot. -/
def OfOtherBoot (resetCount : UInt32) (clockFile : Option Bytes) : Prop :=
  ∀ st, clockStateLoad (.ok ()) clockFile = .ok st → st.resetCount ≠ resetCount

/-- The TPM and the file system do what they are asked to. -/
structure Works (c : Call) : Prop where
  initialized : c.initialized = true
  clock : c.signedClock = .ok () ∨ c.signedClock = .error .enokey ∧ c.readClock = .ok ()
  readPcr : c.readPcr = .ok ()
  extend : ∀ tpm digest, (tpmPcrExtend tpm digest c.extendRcs).2 = .ok ()
  load : c.loadIo = .ok ()
  save : c.save = .ok ()

/-- What can happen: calls work and no boot commitment hashes to zero; a resume
adds one to the counter. -/
def Legal (selfHash : Hash) (s : Session) : Event → Prop
  | .start c => Works c ∧
    deriveBootCommitmentPCR14 selfHash s.tpm.resetCount s.tpm.restartCount ≠ Blob.zero 32
  | .resume => s.tpm.restartCount.toNat + 1 < 2 ^ 32

/-- No start comes after a resume that came after the first start. -/
def NoResumeBefore (s : Session) : Event → Prop
  | .start _ => s.resumes = none ∨ s.resumes = some 0
  | .resume => True

/-- The verifier's match of PCR 14 for a quote that is made now. -/
def quoteMatch (selfHash : Hash) (maxRestartSkew : UInt32) (s : Session) :
    Option (Hash × UInt32 × Bool) :=
  if s.locked then
    matchLockedBootCommitmentPCR14 selfHash s.tpm.resetCount s.tpm.restartCount s.tpm.pcr14
      maxRestartSkew
  else matchBootCommitmentPCR14 selfHash s.tpm.resetCount s.tpm.restartCount s.tpm.pcr14 maxRestartSkew

/-- Every start of the run succeeds, and a quote made in any state of the run
is accepted while the resumes since the first start are within the bound. -/
def WarmRestarts (selfHash : Hash) (maxRestartSkew : UInt32) (s : Session) (evs : List Event) : Prop :=
  ∀ before after, evs = before ++ after →
    (∀ c rest, after = .start c :: rest →
      (step selfHash ((machine selfHash).run s before) (.start c)).2 = some (.ok ())) ∧
    ∀ k, ((machine selfHash).run s before).resumes = some k → k ≤ maxRestartSkew.toNat →
      ∃ expected drift, quoteMatch selfHash maxRestartSkew ((machine selfHash).run s before) =
      some (expected, drift, true)

/-! ## Starts -/

theorem readCounters_works {c : Call} (h : Works c) (tpm : Tpm) :
    readCounters c tpm = .ok (tpm.resetCount, tpm.restartCount) := by
  unfold readCounters
  rcases h.clock with hs | ⟨hs, hr⟩
  · simp only [hs]
  · simp only [hs, hr]

theorem extendCommitment_works {c : Call} (h : Works c) (tpm : Tpm) (file : Option Bytes)
    (commit : Hash)
    (st : ClockState) (locked : Bool) :
    (extendCommitment c tpm file commit st locked).result = .ok () := by
  unfold extendCommitment
  have hext := h.extend tpm commit
  rcases hr : tpmPcrExtend tpm commit c.extendRcs with ⟨tpm', r⟩
  rw [hr] at hext
  simp only at hext
  subst hext
  rfl

/-- The register holds one of the values an agent of this boot can find. -/
def Startable (selfHash : Hash) (s : Session) : Prop :=
  s.tpm.pcr14 = lockPcr14Value ∨
    s.tpm.pcr14 = expectedLockedPcr14 selfHash s.tpm.resetCount s.tpm.restartCount ∨
  (s.tpm.pcr14 = Blob.zero 32 ∧ OfOtherBoot s.tpm.resetCount s.clockFile) ∨
  (s.tpm.pcr14 = expectedPcr14 selfHash s.tpm.resetCount s.tpm.restartCount ∧
    s.tpm.pcr14 ≠ Blob.zero 32)

theorem prev_of_otherBoot {io : Except Errno Unit} {resetCount : UInt32} {clockFile : Option Bytes}
    (hio : io = .ok ())
    (h : OfOtherBoot resetCount clockFile) :
    (clockStateLoad io clockFile).toOption.any (·.resetCount = resetCount) = false := by
  subst hio
  cases hl : clockStateLoad (.ok ()) clockFile with
  | error e => rfl
  | ok st => exact decide_eq_false (h st hl)

/-- A start that finds one of these values succeeds. -/
theorem start_result {selfHash : Hash} {s : Session} {c : Call} (hw : Works c)
    (hs : Startable selfHash s) :
    (tpmExtendBootCommitment c selfHash s.tpm s.clockFile).result = .ok () := by
  unfold tpmExtendBootCommitment
  simp only [hw.initialized, readCounters_works hw, hw.readPcr, Bool.true_eq_false, if_false]
  split
  · exact extendCommitment_works hw ..
  next hlock =>
  split
  · rfl
  next hlocked =>
  split
  · next hzero =>
    rcases hs with h | h | ⟨-, h⟩ | ⟨-, h⟩
    · exact absurd h hlock
    · exact absurd h hlocked
    · rw [if_neg (by simp [prev_of_otherBoot hw.load h])]
      exact extendCommitment_works hw ..
    · exact absurd hzero h
  next hzero =>
  split
  · rfl
  next hexp =>
  rcases hs with h | h | ⟨h, -⟩ | ⟨h, -⟩
  · exact absurd h hlock
  · exact absurd h hlocked
  · exact absurd h hzero
  · exact absurd h hexp

/-- A start leaves the counters as they are. -/
theorem start_counters (selfHash : Hash) (s : Session) (c : Call) :
    (step selfHash s (.start c)).1.tpm.resetCount = s.tpm.resetCount ∧
      (step selfHash s (.start c)).1.tpm.restartCount = s.tpm.restartCount := by
  rcases extend_cases c selfHash s.tpm s.clockFile with h | ⟨h, -⟩
  · exact ⟨h.resetCount, h.restartCount⟩
  · exact ⟨congrArg Tpm.resetCount h.tpm, congrArg Tpm.restartCount h.tpm⟩

theorem start_resumes {selfHash : Hash} {s : Session} {c : Call}
    (h : (tpmExtendBootCommitment c selfHash s.tpm s.clockFile).result = .ok ()) :
    (step selfHash s (.start c)).1.resumes = some (s.resumes.getD 0) := by
  simp only [step, h, Except.isOk, Except.toBool, if_true]

/-! ## Runs -/

/-- Before the first start the register holds zero or the lock; after it, the
commitment to the counter of then. -/
def Held (selfHash : Hash) (s : Session) : Prop :=
  match s.resumes with
  | none => s.tpm.pcr14 = lockPcr14Value ∨ s.tpm.pcr14 = Blob.zero 32 ∧
    OfOtherBoot s.tpm.resetCount s.clockFile
  | some k => ∃ first : UInt32, first.toNat + k = s.tpm.restartCount.toNat ∧
      s.tpm.pcr14 = if s.locked then expectedLockedPcr14 selfHash s.tpm.resetCount first
        else expectedPcr14 selfHash s.tpm.resetCount first

theorem held_booted {selfHash : Hash} {lock : Bool} {resetCount restartCount : UInt32}
    {clockFile : Option Bytes}
    (h : OfOtherBoot resetCount clockFile) :
    Held selfHash (booted lock resetCount restartCount clockFile) := by
  cases lock with
  | true => exact .inl rfl
  | false => exact .inr ⟨rfl, h⟩

theorem startable_of_held {selfHash : Hash} {s : Session} {c : Call} (h : Held selfHash s)
    (hl : Legal selfHash s (.start c)) (hn : NoResumeBefore s (.start c)) : Startable selfHash s := by
  have hnonzero := hl.2
  unfold Held at h
  rcases hn with hr | hr
  · simp only [hr] at h
    rcases h with h | h
    · exact .inl h
    · exact .inr (.inr (.inl h))
  · simp only [hr] at h
    obtain ⟨first, hfirst, hpcr⟩ := h
    have hsame : first = s.tpm.restartCount := UInt32.toNat_inj.mp (by omega)
    rw [hsame] at hpcr
    cases hlk : s.locked with
    | true =>
      rw [hlk, if_pos rfl] at hpcr
      exact .inr (.inl hpcr)
    | false =>
      rw [hlk, if_neg Bool.false_ne_true] at hpcr
      refine .inr (.inr (.inr ⟨hpcr, ?_⟩))
      rwa [hpcr, expectedPcr14_eq]

/-- **Step.** A step that meets the conditions keeps the register, and a start
succeeds. -/
theorem start_commits {selfHash : Hash} {s : Session} {c : Call} (h : Held selfHash s)
    (hl : Legal selfHash s (.start c)) (hn : NoResumeBefore s (.start c)) :
    (step selfHash s (.start c)).2 = some (.ok ()) ∧ Held selfHash (step selfHash s (.start c)).1 := by
  have hok := start_result hl.1 (startable_of_held h hl hn)
  refine ⟨congrArg some hok, ?_⟩
  rcases extend_cases c selfHash s.tpm s.clockFile with hc | ⟨-, e, he⟩
  · have hzero : s.resumes.getD 0 = 0 := by
      rcases hn with hr | hr
      · rw [hr]
        rfl
      · rw [hr]
        rfl
    unfold Held
    simp only [start_resumes hok, hzero]
    obtain ⟨hreset, hrestart⟩ := start_counters selfHash s c
    refine ⟨s.tpm.restartCount, congrArg UInt32.toNat hrestart.symm, ?_⟩
    rw [hreset]
    exact hc.pcr14
  · rw [hok] at he
    cases he

theorem step_holds {selfHash : Hash} {s : Session} {ev : Event} (h : Held selfHash s)
    (hp : Legal selfHash s ev ∧ NoResumeBefore s ev) : Held selfHash (step selfHash s ev).1 := by
  cases ev with
  | start c => exact (start_commits h hp.1 hp.2).2
  | resume =>
    unfold Held at h ⊢
    cases hr : s.resumes with
    | none =>
      simp only [hr] at h
      simp only [step, hr, Option.map_none]
      exact h
    | some k =>
      simp only [hr] at h
      simp only [step, hr, Option.map_some]
      obtain ⟨first, hfirst, hpcr⟩ := h
      refine ⟨first, ?_, hpcr⟩
      rw [toNat_succ hp.1]
      omega

/-- A quote is accepted while the resumes are within the bound. -/
theorem quote_accepted {selfHash : Hash} {maxRestartSkew : UInt32} {s : Session} {k : Nat}
    (h : Held selfHash s)
    (hr : s.resumes = some k) (hk : k ≤ maxRestartSkew.toNat) :
    ∃ expected drift, quoteMatch selfHash maxRestartSkew s = some (expected, drift, true) := by
  unfold Held at h
  simp only [hr] at h
  obtain ⟨first, hfirst, hpcr⟩ := h
  unfold quoteMatch
  cases hlk : s.locked with
  | true =>
    rw [hlk, if_pos rfl, expectedLockedPcr14_eq] at hpcr
    exact scan_finds hfirst hpcr.symm hk
  | false =>
    rw [hlk, if_neg Bool.false_ne_true, expectedPcr14_eq] at hpcr
    exact scan_finds hfirst hpcr.symm hk

/-- **Warm restarts.** In every boot session, with or without the initramfs
lock, in which no start comes after a resume that came after the first start,
every start succeeds, and a quote made at any time is accepted while the
resumes since the first start are within the verifier's bound. -/
theorem warm_restart (selfHash : Hash) (lock : Bool) (resetCount restartCount maxRestartSkew : UInt32)
    (clockFile : Option Bytes) (hfile : OfOtherBoot resetCount clockFile) (evs : List Event)
    (hlegal : (machine selfHash).AllSteps (Legal selfHash)
      (booted lock resetCount restartCount clockFile) evs)
    (hno : (machine selfHash).AllSteps NoResumeBefore
      (booted lock resetCount restartCount clockFile) evs) :
    WarmRestarts selfHash maxRestartSkew (booted lock resetCount restartCount clockFile) evs := by
  intro before after hsplit
  subst hsplit
  obtain ⟨hl1, hl2⟩ := Machine.allSteps_append.mp hlegal
  obtain ⟨hn1, hn2⟩ := Machine.allSteps_append.mp hno
  have hboth := Machine.allSteps_and hl1 hn1
  have hheld :
      Held selfHash ((machine selfHash).run (booted lock resetCount restartCount clockFile) before) :=
    Machine.run_inv (J := Held selfHash) (fun _ _ hs hp => step_holds hs hp) (held_booted hfile) hboth
  refine ⟨fun c rest hafter => ?_, fun k hr hk => quote_accepted hheld hr hk⟩
  subst hafter
  exact (start_commits hheld hl2.1 hn2.1).1

/-- A start with a TPM and a file system that work. -/
def goodCall : Call where
  initialized := true
  wasLocked := false
  signedClock := .ok ()
  readClock := .ok ()
  readPcr := .ok ()
  extendRcs := fun _ => .success
  loadIo := .ok ()
  save := .ok ()
  time := 0

theorem goodCall_works : Works goodCall where
  initialized := rfl
  clock := .inl rfl
  readPcr := rfl
  extend _ _ := rfl
  load := rfl
  save := rfl

/-- A boot without the lock, the first on this host. -/
def firstBoot : Session := booted false 1 0 none

theorem firstBoot_nonzero : deriveBootCommitmentPCR14 (Blob.zero 32) 1 0 ≠ Blob.zero 32 := by
  decide +kernel

theorem noFile_otherBoot : OfOtherBoot 1 none := fun _ h => by cases h

theorem legal_start {s : Session} (hreset : s.tpm.resetCount = 1) (hrestart : s.tpm.restartCount = 0) :
    Legal (Blob.zero 32) s (.start goodCall) := by
  refine ⟨goodCall_works, ?_⟩
  rw [hreset, hrestart]
  exact firstBoot_nonzero

theorem legal_resume {s : Session} (h : s.tpm.restartCount = 0) : Legal (Blob.zero 32) s .resume := by
  show s.tpm.restartCount.toNat + 1 < 2 ^ 32
  rw [h]
  decide

/-- The session after the first start. -/
def afterStart : Session := (machine (Blob.zero 32)).run firstBoot [.start goodCall]

theorem afterStart_counters : afterStart.tpm.resetCount = 1 ∧ afterStart.tpm.restartCount = 0 :=
  start_counters (Blob.zero 32) firstBoot goodCall

theorem afterStart_resumes : afterStart.resumes = some 0 :=
  start_resumes (start_result goodCall_works (.inr (.inr (.inl ⟨rfl, noFile_otherBoot⟩))))

theorem warm_restart_twice :
    WarmRestarts (Blob.zero 32) 64 firstBoot [.start goodCall, .start goodCall, .resume] := by
  obtain ⟨hreset, hrestart⟩ := afterStart_counters
  have hthird := (start_counters (Blob.zero 32) afterStart goodCall).2.trans hrestart
  exact warm_restart (Blob.zero 32) false 1 0 64 none noFile_otherBoot _
    ⟨legal_start rfl rfl, legal_start hreset hrestart, legal_resume hthird, trivial⟩
    ⟨.inl rfl, .inr afterStart_resumes, trivial, trivial⟩

/-- The host is suspended and resumed once, and then the agent restarts. -/
def afterResume : Session := (machine (Blob.zero 32)).run firstBoot [.start goodCall, .resume]

theorem afterResume_cause :
    (tpmExtendBootCommitment goodCall (Blob.zero 32) afterResume.tpm afterResume.clockFile).cause =
      some .mutatedInSession := by decide +kernel

theorem resumedBoot_nonzero : deriveBootCommitmentPCR14 (Blob.zero 32) 1 1 ≠ Blob.zero 32 := by
  decide +kernel

theorem resume_counters (selfHash : Hash) (s : Session) :
    ((machine selfHash).run s [.resume]).tpm.resetCount = s.tpm.resetCount ∧
      ((machine selfHash).run s [.resume]).tpm.restartCount = s.tpm.restartCount + 1 := ⟨rfl, rfl⟩

theorem afterResume_legal : Legal (Blob.zero 32) afterResume (.start goodCall) := by
  obtain ⟨hreset, hrestart⟩ := afterStart_counters
  have hrun : afterResume = (machine (Blob.zero 32)).run afterStart [.resume] := by
    rw [afterStart, ← Machine.run_append, afterResume, List.singleton_append]
  obtain ⟨hreset', hrestart'⟩ := resume_counters (Blob.zero 32) afterStart
  refine ⟨goodCall_works, ?_⟩
  rw [hrun, hreset', hrestart', hreset, hrestart]
  exact resumedBoot_nonzero

/-- A start after one resume is refused, with the journal saying that another
writer has changed PCR 14. -/
theorem restart_after_resume :
    OfOtherBoot 1 none ∧
    (machine (Blob.zero 32)).AllSteps (Legal (Blob.zero 32)) firstBoot
    [.start goodCall, .resume, .start goodCall] ∧
    (tpmExtendBootCommitment goodCall (Blob.zero 32) afterResume.tpm afterResume.clockFile).cause =
      some .mutatedInSession ∧
    ¬ WarmRestarts (Blob.zero 32) 64 firstBoot [.start goodCall, .resume, .start goodCall] := by
  obtain ⟨-, hrestart⟩ := afterStart_counters
  refine ⟨noFile_otherBoot, ⟨legal_start rfl rfl, legal_resume hrestart, afterResume_legal,
    trivial⟩, afterResume_cause, ?_⟩
  intro h
  have hok := (h [.start goodCall, .resume] [.start goodCall] rfl).1 goodCall [] rfl
  have hres :
      (tpmExtendBootCommitment goodCall (Blob.zero 32) afterResume.tpm
        afterResume.clockFile).result = .ok () :=
    Option.some.inj hok
  rw [refused_of_cause afterResume_cause] at hres
  cases hres

end Lota.L6.WarmRestart

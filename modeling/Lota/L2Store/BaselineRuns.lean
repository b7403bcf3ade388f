import Lota.Core.Machine
import Lota.L2Store.BaselineStorer

/-!
# Runs of calls on a baseline store

Two machines over `BaselineStorer`: `calls` takes single calls with any
arguments and faults, `verifierCalls` the calls in the order `VerifyReport`
makes them.

Results:
* `stored_pins_stay`: what a call stored for a client stays until it is
  cleared, in every run that meets `NoRepin`. The SQLite store needs no
  condition; in memory no call may pin the all-zero hash or write boot
  registers next to other ones of a client without a row.
* `stores_agree`: started empty, the two stores cannot be told apart by
  runs that meet `SameEncoding`.
-/
namespace Lota.L2.BaselineRuns
open Lota.Core Lota.L1.Report Lota.L2.Baseline Lota.L2.SqliteBaseline

/-! ## Single calls -/

inductive Op where
  | checkAndUpdate (clientID : String) (pcr14 : Hash)
  | checkAndUpdateAgentHash (clientID : String) (currentPCR14 agentHash : Hash)
  | checkAndUpdateBootPCRs (clientID : String) (boot : BootBaseline)
  | checkAndUpdateAttestation (clientID : String) (pcr14 agentHash : Hash) (boot : Option BootBaseline)
  | clearBaseline (clientID : String)
  deriving DecidableEq

/-- A call with its clock reading and its faults. -/
structure Call where
  op : Op
  now : Time := 0
  faults : Faults := {}
  deriving DecidableEq

inductive Reply where
  | client (result : TOFUResult) (baseline : Option ClientBaseline)
  | boot (result : TOFUResult) (baseline : Option BootBaseline)
  | outcome (o : AttestationOutcome)
  | done

def call (s : BaselineStorer) (x : Call) : BaselineStorer × Reply :=
  match x.op with
  | .checkAndUpdate c q =>
    let r := s.checkAndUpdate x.faults c q x.now
    (r.1, .client r.2.1 r.2.2)
  | .checkAndUpdateAgentHash c q a =>
    let r := s.checkAndUpdateAgentHash x.faults c q a x.now
    (r.1, .client r.2.1 r.2.2)
  | .checkAndUpdateBootPCRs c b =>
    let r := s.checkAndUpdateBootPCRs x.faults c b x.now
    (r.1, .boot r.2.1 r.2.2)
  | .checkAndUpdateAttestation c q a boot =>
    let r := s.checkAndUpdateAttestation x.faults c q a boot x.now
    (r.1, .outcome r.2)
  | .clearBaseline c => (s.clearBaseline x.faults c, .done)

def calls : Machine BaselineStorer Call Reply := ⟨call⟩

/-- The call left agent hash `h` in the row of client `c`. -/
def StoresHash (c : String) (h : Hash) (op : Op) (reply : Reply) : Prop :=
  match op, reply with
  | .checkAndUpdateAgentHash c' _ a, .client r _ => c' = c ∧ a = h ∧ r.refused = false
  | .checkAndUpdateAttestation c' _ a _, .outcome o => c' = c ∧ a = h ∧ o.refused = false
  | _, _ => False

/-- The call left boot registers `b` with client `c`. -/
def StoresBoot (c : String) (b : BootPCRs) (op : Op) (reply : Reply) : Prop :=
  match op, reply with
  | .checkAndUpdateBootPCRs c' b', .boot r _ => c' = c ∧ b'.pcrs = b ∧ r.refused = false
  | .checkAndUpdateAttestation c' _ _ (some b'), .outcome o => c' = c ∧ b'.pcrs = b ∧ o.refused = false
  | _, _ => False

/-- The step condition. In memory, no call pins the all-zero agent hash, and
the combined call brings no boot registers for a client that has no row but
other boot registers. -/
def NoRepin (s : BaselineStorer) (x : Call) : Prop :=
  match s, x.op with
  | .memory m, .checkAndUpdateAgentHash c _ a => a ≠ Blob.zero 32 ∨ (m.pins c).agentHash ≠ none
  | .memory m, .checkAndUpdateAttestation c _ a boot =>
    (a ≠ Blob.zero 32 ∨ (m.pins c).agentHash ≠ none) ∧
      (m.baselines.lookup c = none → (m.pins c).conflict (boot.map BootBaseline.pcrs) = false)
  | _, _ => True

/-- Two stores whose pins of all clients but `c'` agree, and the pins of
`c'` are kept. -/
theorem keeps_update {P : String → Pins Hash BootPCRs} {c c' : String} {p : Pins Hash BootPCRs}
    (h : Pins.Keeps (P c') p) : Pins.Keeps (P c) (Function.update P c' p c) := by
  by_cases hc : c = c'
  · subst hc
    rwa [Function.update_self]
  · rw [Function.update_of_ne hc]
    exact Pins.Keeps.refl _

/-- In SQLite the boot registers are columns of the row. -/
theorem sqlite_boot_in_row {db : SQLiteBaselineStore} {c : String}
    (h : (SQLiteBaselineStore.pins db c).pcr14 = none) :
    (SQLiteBaselineStore.pins db c).boot = none := by
  unfold SQLiteBaselineStore.pins at h ⊢
  cases hr : db.lookup c with
  | none => rfl
  | some row => rw [hr] at h; cases h

theorem conflict_of_norow {s : BaselineStorer} {x : Call} (hs : NoRepin s x) {c : String} {q a : Hash}
    {boot : Option BootBaseline} (hx : x.op = .checkAndUpdateAttestation c q a boot)
    (hrow : (s.pins c).pcr14 = none) : (s.pins c).conflict (boot.map BootBaseline.pcrs) = false := by
  unfold NoRepin at hs
  cases s with
  | memory m =>
    rw [hx] at hs
    apply hs.2
    simpa [BaselineStorer.pins, BaselineStore.pins] using hrow
  | sqlite db =>
    have hb : (BaselineStorer.pins (.sqlite db) c).boot = none := sqlite_boot_in_row hrow
    unfold Pins.conflict
    rw [hb]
    cases boot <;> rfl

theorem zeroSafe_of_noRepin {s : BaselineStorer} {x : Call} (hs : NoRepin s x) {c : String} {q a : Hash}
    (hx : x.op = .checkAndUpdateAgentHash c q a ∨ ∃ boot,
      x.op = .checkAndUpdateAttestation c q a boot) :
    s.ZeroSafe c a := by
  unfold NoRepin at hs
  cases s with
  | memory m =>
    rcases hx with hx | ⟨boot, hx⟩
    · rw [hx] at hs; exact hs
    · rw [hx] at hs; exact hs.1
  | sqlite db => trivial

/-- **Step.** A call that meets the condition keeps every pin of a client it
does not clear. -/
theorem call_keeps {s : BaselineStorer} {x : Call} {c : String} (hs : NoRepin s x)
    (hc : x.op ≠ .clearBaseline c) : Pins.Keeps (s.pins c) ((call s x).1.pins c) := by
  unfold call
  cases hx : x.op with
  | checkAndUpdate c' q =>
    rcases s.checkAndUpdate_pins x.faults c' q x.now with ⟨h, -⟩ | ⟨h, -⟩
    · rw [h]; exact Pins.Keeps.refl _
    · rw [h]; exact keeps_update (Pins.check_keeps _ q)
  | checkAndUpdateAgentHash c' q a =>
    have hz := zeroSafe_of_noRepin hs (.inl hx)
    rcases s.checkAndUpdateAgentHash_pins x.faults c' q a x.now hz with ⟨h, -⟩ | ⟨h, -⟩
    · rw [h]; exact Pins.Keeps.refl _
    · rw [h]; exact keeps_update (Pins.checkAgentHash_keeps (s.pins_wf c') q a)
  | checkAndUpdateBootPCRs c' b =>
    rcases s.checkAndUpdateBootPCRs_pins x.faults c' b x.now with ⟨h, -⟩ | ⟨h, -⟩
    · rw [h]; exact Pins.Keeps.refl _
    · rw [h]; exact keeps_update (Pins.checkBoot_keeps _ _)
  | checkAndUpdateAttestation c' q a boot =>
    have hz := zeroSafe_of_noRepin hs (.inr ⟨boot, hx⟩)
    rcases s.checkAndUpdateAttestation_pins x.faults c' q a boot x.now hz with ⟨h, -⟩ | ⟨h, -⟩
    · rw [h]; exact Pins.Keeps.refl _
    · rw [h]
      exact keeps_update (Pins.attest_keeps (s.pins_wf c') q a _ (conflict_of_norow hs hx))
  | clearBaseline c' =>
    have hne : c ≠ c' := by
      intro h
      exact hc (h ▸ hx)
    rcases s.clearBaseline_pins x.faults c' with ⟨h, -⟩ | h
    · rw [h]; exact Pins.Keeps.refl _
    · rw [h, Function.update_of_ne hne]; exact Pins.Keeps.refl _

theorem call_stores_hash {s : BaselineStorer} {x : Call} {c : String} {h : Hash} (hs : NoRepin s x)
    (hst : StoresHash c h x.op (call s x).2) : ((call s x).1.pins c).agentHash = some h := by
  unfold call at hst ⊢
  cases hx : x.op with
  | checkAndUpdateAgentHash c' q a =>
    simp only [hx, StoresHash] at hst
    obtain ⟨rfl, rfl, hr⟩ := hst
    rcases s.checkAndUpdateAgentHash_pins x.faults c' q a x.now (zeroSafe_of_noRepin hs (.inl hx)) with
      ⟨-, he, -⟩ | ⟨hp, he⟩
    · rw [he] at hr; cases hr
    · rw [hp, Function.update_self]
      rw [he] at hr
      exact Pins.checkAgentHash_accepted hr
  | checkAndUpdateAttestation c' q a boot =>
    simp only [hx, StoresHash] at hst
    obtain ⟨rfl, rfl, hr⟩ := hst
    rcases s.checkAndUpdateAttestation_pins x.faults c' q a boot x.now
      (zeroSafe_of_noRepin hs (.inr ⟨boot, hx⟩))
      with ⟨-, he, -⟩ | ⟨hp, he⟩
    · rw [AttestationOutcome.refused, he] at hr; cases hr
    · rw [hp, Function.update_self]
      rw [refused_of_seen he] at hr
      exact (Pins.attest_accepted hr).1
  | checkAndUpdate c' q => rw [hx] at hst; cases hst
  | checkAndUpdateBootPCRs c' b => rw [hx] at hst; cases hst
  | clearBaseline c' => rw [hx] at hst; cases hst

theorem call_stores_boot {s : BaselineStorer} {x : Call} {c : String} {b : BootPCRs} (hs : NoRepin s x)
    (hst : StoresBoot c b x.op (call s x).2) : ((call s x).1.pins c).boot = some b := by
  unfold call at hst ⊢
  cases hx : x.op with
  | checkAndUpdateBootPCRs c' b' =>
    simp only [hx, StoresBoot] at hst
    obtain ⟨rfl, rfl, hr⟩ := hst
    rcases s.checkAndUpdateBootPCRs_pins x.faults c' b' x.now with ⟨-, he, -⟩ | ⟨hp, he, -⟩
    · rw [he] at hr; cases hr
    · rw [hp, Function.update_self]
      rw [he] at hr
      exact Pins.checkBoot_accepted hr
  | checkAndUpdateAttestation c' q a boot =>
    cases boot with
    | none => rw [hx] at hst; cases hst
    | some b' =>
      simp only [hx, StoresBoot] at hst
      obtain ⟨rfl, rfl, hr⟩ := hst
      rcases s.checkAndUpdateAttestation_pins x.faults c' q a (some b') x.now
        (zeroSafe_of_noRepin hs (.inr ⟨some b', hx⟩)) with ⟨-, he, -⟩ | ⟨hp, he⟩
      · rw [AttestationOutcome.refused, he] at hr; cases hr
      · rw [hp, Function.update_self]
        rw [refused_of_seen he] at hr
        exact (Pins.attest_accepted hr).2
  | checkAndUpdate c' q => rw [hx] at hst; cases hst
  | checkAndUpdateAgentHash c' q a => rw [hx] at hst; cases hst
  | clearBaseline c' => rw [hx] at hst; cases hst

/-- **Run.** Pins of a client that is not cleared are kept. -/
theorem run_keeps {s : BaselineStorer} {xs : List Call} {c : String} (hs : calls.AllSteps NoRepin s xs)
    (hc : ∀ x ∈ xs, x.op ≠ .clearBaseline c) : Pins.Keeps (s.pins c) ((calls.run s xs).pins c) := by
  induction xs generalizing s with
  | nil => exact Pins.Keeps.refl _
  | cons x xs ih =>
    have h1 := call_keeps hs.1 (hc x (List.mem_cons_self ..))
    have h2 := ih hs.2 fun y hy => hc y (List.mem_cons_of_mem _ hy)
    exact h1.trans h2

/-- **Stored pins stay.** In a run whose calls all meet `NoRepin`, the agent
hash and the boot registers that a call stored for a client are the stored
ones until the client is cleared. -/
theorem stored_pins_stay (s : BaselineStorer) (before after : List Call) (x : Call) (c : String)
    (hs : calls.AllSteps NoRepin s (before ++ x :: after)) (hc : ∀ y ∈ after, y.op ≠ .clearBaseline c) :
    (∀ h, StoresHash c h x.op (call (calls.run s before) x).2 →
      (calls.run s (before ++ x :: after)).storedAgentHash c = some h) ∧
    (∀ b, StoresBoot c b x.op (call (calls.run s before) x).2 →
      ((calls.run s (before ++ x :: after)).getBootBaseline {} c).map BootBaseline.pcrs = some b) := by
  obtain ⟨-, hx, hafter⟩ := Machine.allSteps_append.mp hs
  have hrun : calls.run s (before ++ x :: after) = calls.run (call (calls.run s before) x).1 after := by
    rw [Machine.run_append]
    rfl
  have hkeep := run_keeps hafter hc
  rw [hrun]
  refine ⟨fun h hst => ?_, fun b hst => ?_⟩
  · exact BaselineStorer.storedAgentHash_of_pins (hkeep.agentHash h (call_stores_hash hx hst))
  · rw [BaselineStorer.getBootBaseline_pcrs]
    exact hkeep.boot b (call_stores_boot hx hst)

def sampleHash (b : UInt8) : Hash := List.Vector.replicate 32 b

def sampleBoot (b : UInt8) : BootBaseline where
  pcr0 := sampleHash b
  pcr1 := sampleHash b
  pcr7 := sampleHash b

def attestCall (a : Hash) (boot : Option BootBaseline) : Call where
  op := .checkAndUpdateAttestation "client" (sampleHash 1) a boot

def bootCall (b : BootBaseline) : Call where
  op := .checkAndUpdateBootPCRs "client" b

/-- In memory, agent hash 2 and boot registers 3 stay through a call that
presents PCR 14 alone. -/
theorem stored_pins_stay_memory :
    let xs := [attestCall (sampleHash 2) (some (sampleBoot 3)),
      { op := .checkAndUpdate "client" (sampleHash 9), now := 5 }]
    (calls.run (.memory {}) xs).storedAgentHash "client" = some (sampleHash 2) ∧
    ((calls.run (.memory {}) xs).getBootBaseline {} "client").map BootBaseline.pcrs =
      some (sampleBoot 3).pcrs := by
  have hstay :=
    stored_pins_stay (.memory {}) [] [{ op := .checkAndUpdate "client" (sampleHash 9), now := 5 }]
    (attestCall (sampleHash 2) (some (sampleBoot 3))) "client"
    ⟨⟨.inl (by decide), fun _ => by decide⟩, trivial, trivial⟩ (by decide)
  exact ⟨hstay.1 _ ⟨rfl, rfl, rfl⟩, hstay.2 _ ⟨rfl, rfl, rfl⟩⟩

/-- In memory a stored all-zero agent hash is replaced by the next one
presented, and stored boot registers are replaced by the first combined
call. -/
theorem memory_repins :
    (StoresHash "client" (Blob.zero 32) (attestCall (Blob.zero 32) none).op
        (call (.memory {}) (attestCall (Blob.zero 32) none)).2 ∧
      (calls.run (.memory {}) [attestCall (Blob.zero 32) none,
        attestCall (sampleHash 2) none]).storedAgentHash "client" ≠ some (Blob.zero 32)) ∧
    (StoresBoot "client" (sampleBoot 3).pcrs (bootCall (sampleBoot 3)).op
        (call (.memory {}) (bootCall (sampleBoot 3))).2 ∧
      ((calls.run (.memory {}) [bootCall (sampleBoot 3),
        attestCall (sampleHash 2) (some (sampleBoot 4))]).getBootBaseline
        {} "client").map BootBaseline.pcrs ≠
          some (sampleBoot 3).pcrs) :=
  ⟨⟨⟨rfl, rfl, rfl⟩, by decide⟩, ⟨⟨rfl, rfl, rfl⟩, by decide⟩⟩

/-! ## Calls in the order the verifier makes them -/

inductive VerifierOp where
  /-- PCR 14, then the boot registers when they are quoted and PCR 14 passed. -/
  | legacy (clientID : String) (pcr14 : Hash) (boot : Option BootBaseline) (now bootNow : Time)
  | attestation (clientID : String) (pcr14 agentHash : Hash) (boot : Option BootBaseline) (now : Time)
  | clearBaseline (clientID : String)
  | getBootBaseline (clientID : String)

/-- Results and values, without times and counters. -/
inductive Seen where
  | legacy (result : TOFUResult) (client : Option (Hash × Hash))
    (boot : Option (TOFUResult × Option BootPCRs))
  | attestation (seen : TOFUResult × TOFUResult × Option (Hash × Hash) × Option BootPCRs)
  | cleared
  | boot (baseline : Option BootPCRs)

def verifierCall (s : BaselineStorer) : VerifierOp → BaselineStorer × Seen
  | .legacy c q boot now bootNow =>
    let r := s.checkAndUpdate {} c q now
    let client := r.2.2.map ClientBaseline.values
    if r.2.1.refused then (r.1, .legacy r.2.1 client none)
    else match boot with
    | none => (r.1, .legacy r.2.1 client none)
    | some b =>
      let r' := r.1.checkAndUpdateBootPCRs {} c b bootNow
      (r'.1, .legacy r.2.1 client (some (r'.2.1, r'.2.2.map BootBaseline.pcrs)))
  | .attestation c q a boot now =>
    let r := s.checkAndUpdateAttestation {} c q a boot now
    (r.1, .attestation r.2.seen)
  | .clearBaseline c => (s.clearBaseline {} c, .cleared)
  | .getBootBaseline c => (s, .boot ((s.getBootBaseline {} c).map BootBaseline.pcrs))

def verifierCalls : Machine BaselineStorer VerifierOp Seen := ⟨verifierCall⟩

/-- The same on pins, as one store for all clients. -/
def pinsCall (P : String → Pins Hash BootPCRs) : VerifierOp → (String → Pins Hash BootPCRs) × Seen
  | .legacy c q boot _ _ =>
    let r := (P c).check q
    let client := r.2.2.map clientValues
    if r.2.1.refused then (Function.update P c r.1, .legacy r.2.1 client none)
    else match boot with
    | none => (Function.update P c r.1, .legacy r.2.1 client none)
    | some b =>
      let r' := r.1.checkBoot b.pcrs
      (Function.update P c r'.1, .legacy r.2.1 client (some (r'.2.1, r'.2.2)))
  | .attestation c q a boot _ =>
    let r := (P c).attest q a (boot.map BootBaseline.pcrs)
    (Function.update P c r.1, .attestation r.2.seen)
  | .clearBaseline c => (Function.update P c {}, .cleared)
  | .getBootBaseline c => (P, .boot (P c).boot)

/-- The step condition under which the two encodings of a client say the
same: in memory, no all-zero agent hash is pinned and no client with boot
registers is cleared. -/
def SameEncoding (s : BaselineStorer) (op : VerifierOp) : Prop :=
  match s, op with
  | .memory m, .attestation c _ a _ _ => a ≠ Blob.zero 32 ∨ (m.pins c).agentHash ≠ none
  | .memory m, .clearBaseline c => m.bootBaselines.lookup c = none
  | _, _ => True

theorem check_row {p : Pins Hash BootPCRs} {q : Hash} : (p.check q).1.pcr14 ≠ none := by
  unfold Pins.check
  split
  · simp
  · rename_i h
    simp [h]

def isSQLite : BaselineStorer → Bool
  | .memory _ => false
  | .sqlite _ => true

/-- A store stays of its kind. -/
theorem verifierCall_kind (s : BaselineStorer) (op : VerifierOp) :
    isSQLite (verifierCall s op).1 = isSQLite s := by
  have hboot : ∀ (t : BaselineStorer) c b now, isSQLite (t.checkAndUpdateBootPCRs {} c b now).1 =
      isSQLite t := by
    intro t c b now
    cases t <;> rfl
  have hcheck : ∀ (t : BaselineStorer) c q now, isSQLite (t.checkAndUpdate {} c q now).1 =
      isSQLite t := by
    intro t c q now
    cases t <;> rfl
  cases op with
  | legacy c q boot now bootNow =>
    simp only [verifierCall]
    split
    · exact hcheck s c q now
    · cases boot with
      | none => exact hcheck s c q now
      | some b => exact (hboot _ c b bootNow).trans (hcheck s c q now)
  | attestation c q a boot now => cases s <;> rfl
  | clearBaseline c => cases s <;> rfl
  | getBootBaseline c => rfl

/-- Either store takes the abstract step. -/
theorem verifierCall_refines {s : BaselineStorer} {op : VerifierOp} (h : SameEncoding s op) :
    (verifierCall s op).1.pins = (pinsCall s.pins op).1 ∧
    (verifierCall s op).2 = (pinsCall s.pins op).2 := by
  cases op with
  | legacy c q boot now bootNow =>
    rcases s.checkAndUpdate_pins {} c q now with ⟨-, -, hf⟩ | ⟨hp, hr, hv⟩
    · exact absurd rfl hf
    · simp only [verifierCall, pinsCall, ← hr, hv]
      by_cases href : (s.checkAndUpdate {} c q now).2.1.refused = true
      · rw [if_pos href, if_pos href]
        exact ⟨hp, rfl⟩
      · rw [if_neg href, if_neg href]
        cases boot with
        | none => exact ⟨hp, rfl⟩
        | some b =>
          have hc : (s.checkAndUpdate {} c q now).1.pins c = ((s.pins c).check q).1 := by
            rw [hp, Function.update_self]
          rcases (s.checkAndUpdate {} c q now).1.checkAndUpdateBootPCRs_pins {} c b bootNow with
            ⟨-, -, hf | hn⟩ | ⟨hp', hr', hv'⟩
          · exact absurd rfl hf
          · rw [hc] at hn
            exact absurd hn check_row
          · rw [hc] at hp' hr' hv'
            refine ⟨?_, ?_⟩
            · simp only [hp', hp, Function.update_idem]
            · simp only [hr', hv']
  | attestation c q a boot now =>
    have hz : s.ZeroSafe c a := by
      cases s with
      | memory m => exact h
      | sqlite db => trivial
    rcases s.checkAndUpdateAttestation_pins {} c q a boot now hz with ⟨-, -, hf⟩ | ⟨hp, hv⟩
    · exact absurd rfl hf
    · exact ⟨hp, congrArg Seen.attestation hv⟩
  | clearBaseline c =>
    refine ⟨?_, rfl⟩
    rcases s.clearBaseline_pins {} c with ⟨-, hf⟩ | hp
    · exact absurd rfl hf
    · refine hp.trans (congrArg (Function.update s.pins c) ?_)
      cases s with
      | memory m =>
        have hb : (m.pins c).boot = none := by
          simp only [SameEncoding] at h
          simp [BaselineStore.pins, h]
        exact Pins.ext rfl rfl hb
      | sqlite db => rfl
  | getBootBaseline c => exact ⟨rfl, congrArg Seen.boot (s.getBootBaseline_pcrs c)⟩

/-- **The stores agree.** Started empty, the in-memory and the SQLite store
give the same results and values on every run that meets `SameEncoding`. -/
theorem stores_agree (ops : List VerifierOp)
    (h : verifierCalls.AllSteps SameEncoding (.memory {}) ops) :
    verifierCalls.outs (.memory {}) ops = verifierCalls.outs (.sqlite ∅) ops := by
  -- the relation: one store of each kind, with the same pins for every client
  refine Machine.outs_eq_of_sim
    (R := fun s t => isSQLite s = false ∧ isSQLite t = true ∧ s.pins = t.pins) ?_ ⟨rfl, rfl, rfl⟩ h
  intro s t op ⟨hm, hdb, hpins⟩ hs
  have ht : SameEncoding t op := by
    cases t with
    | memory m => cases hdb
    | sqlite db => trivial
  obtain ⟨hp, ho⟩ := verifierCall_refines hs
  obtain ⟨hp', ho'⟩ := verifierCall_refines ht
  refine ⟨?_, ?_, ?_, ?_⟩
  · exact ho.trans (by rw [hpins]; exact ho'.symm)
  · exact (verifierCall_kind s op).trans hm
  · exact (verifierCall_kind t op).trans hdb
  · exact hp.trans (by rw [hpins]; exact hp'.symm)

/-- A run with both paths, a mismatch, a clear of a client without boot
registers and reads of the boot baseline. -/
def sampleRun : List VerifierOp :=
  [.attestation "a" (sampleHash 1) (sampleHash 2) (some (sampleBoot 3)) 10,
   .attestation "a" (sampleHash 1) (sampleHash 4) none 20,
   .legacy "b" (sampleHash 5) none 30 31, .clearBaseline "b", .getBootBaseline "a"]

theorem stores_agree_sampleRun :
    verifierCalls.outs (.memory {}) sampleRun = verifierCalls.outs (.sqlite ∅) sampleRun :=
  stores_agree sampleRun ⟨.inl (by decide), .inl (by decide), trivial, rfl, trivial, trivial⟩

def clearRun : List VerifierOp :=
  [.attestation "a" (sampleHash 1) (sampleHash 2) (some (sampleBoot 3)) 10, .clearBaseline "a",
   .getBootBaseline "a"]

def zeroRun : List VerifierOp :=
  [.attestation "a" (sampleHash 1) (Blob.zero 32) none 10,
   .attestation "a" (sampleHash 1) (sampleHash 2) none 20]

/-- `ClearBaseline` of a client with boot registers tells the stores apart,
and so does an all-zero agent hash. -/
theorem stores_differ :
    verifierCalls.outs (.memory {}) clearRun ≠ verifierCalls.outs (.sqlite ∅) clearRun ∧
    verifierCalls.outs (.memory {}) zeroRun ≠ verifierCalls.outs (.sqlite ∅) zeroRun := by
  refine ⟨?_, ?_⟩
  · intro h
    have h2 : some (Seen.boot (some (sampleBoot 3).pcrs)) = some (Seen.boot none) :=
      congrArg (fun l => l[2]?) h
    cases h2
  · intro h
    have h1 :
        some (Seen.attestation (.legacyBackfill, .firstUse, some (sampleHash 1, sampleHash 2), none)) =
        some (Seen.attestation (.mismatch, .firstUse, some (sampleHash 1, Blob.zero 32), none)) :=
      congrArg (fun l => l[1]?) h
    cases h1

end Lota.L2.BaselineRuns

import Lota.L2Store.BaselineRefine

/-!
# Either baseline store

`BaselineStorer` is the store a verifier is configured with. Both stores
implement every optional interface of `baseline.go`, so a type assertion on
the store never fails. The faults of a call only concern SQLite.

* `checkAndUpdateAttestation_atomic`: the combined call is atomic in both
  stores, whatever fails.
* `checkAndUpdate_pins`, `checkAndUpdateAgentHash_pins`,
  `checkAndUpdateBootPCRs_pins`, `checkAndUpdateAttestation_pins`: one
  statement per call about the pins of all clients, for both stores.
-/
namespace Lota.L2
open Lota.Core Lota.L1.Report Lota.L2.Baseline Lota.L2.SqliteBaseline

/-- mirrors src/verifier/verify/baseline.go:207-222 -/
inductive BaselineStorer where
  | memory (s : BaselineStore)
  | sqlite (db : SQLiteBaselineStore)

namespace BaselineStorer

def checkAndUpdate (s : BaselineStorer) (f : Faults) (clientID : String) (pcr14 : Hash) (now : Time) :
    BaselineStorer × TOFUResult × Option ClientBaseline :=
  match s with
  | .memory s => let r := s.checkAndUpdate clientID pcr14 now; (.memory r.1, r.2)
  | .sqlite db => let r := db.checkAndUpdate f clientID pcr14 now; (.sqlite r.1, r.2)

def checkAndUpdateAgentHash (s : BaselineStorer) (f : Faults) (clientID : String)
    (currentPCR14 agentHash : Hash)
    (now : Time) : BaselineStorer × TOFUResult × Option ClientBaseline :=
  match s with
  | .memory s =>
    let r := s.checkAndUpdateAgentHash clientID currentPCR14 agentHash now; (.memory r.1, r.2)
  | .sqlite db =>
    let r := db.checkAndUpdateAgentHash f clientID currentPCR14 agentHash now; (.sqlite r.1, r.2)

def checkAndUpdateBootPCRs (s : BaselineStorer) (f : Faults) (clientID : String) (boot : BootBaseline)
    (now : Time) : BaselineStorer × TOFUResult × Option BootBaseline :=
  match s with
  | .memory s => let r := s.checkAndUpdateBootPCRs clientID boot now; (.memory r.1, r.2)
  | .sqlite db => let r := db.checkAndUpdateBootPCRs f clientID boot now; (.sqlite r.1, r.2)

def checkAndUpdateAttestation (s : BaselineStorer) (f : Faults) (clientID : String)
    (pcr14 agentHash : Hash)
    (boot : Option BootBaseline) (now : Time) : BaselineStorer × AttestationOutcome :=
  match s with
  | .memory s =>
    let r := s.checkAndUpdateAttestation clientID pcr14 agentHash boot now; (.memory r.1, r.2)
  | .sqlite db =>
    let r := db.checkAndUpdateAttestation f clientID pcr14 agentHash boot now; (.sqlite r.1, r.2)

def getBootBaseline (s : BaselineStorer) (f : Faults) (clientID : String) : Option BootBaseline :=
  match s with
  | .memory s => s.getBootBaseline clientID
  | .sqlite db => db.getBootBaseline f clientID

def clearBaseline (s : BaselineStorer) (f : Faults) (clientID : String) : BaselineStorer :=
  match s with
  | .memory s => .memory (s.clearBaseline clientID)
  | .sqlite db => .sqlite (db.clearBaseline f clientID)

/-! ## What is stored -/

/-- Everything a store holds about one client. -/
inductive StoredRow where
  | memory (baseline : Option ClientBaseline) (boot : Option BootBaseline)
  | sqlite (row : Option BaselineRow)

def storedRow (s : BaselineStorer) (c : String) : StoredRow :=
  match s with
  | .memory s => .memory (s.baselines.lookup c) (s.bootBaselines.lookup c)
  | .sqlite db => .sqlite (db.lookup c)

/-- The agent hash in the client's row. -/
def storedAgentHash (s : BaselineStorer) (c : String) : Option Hash :=
  match s with
  | .memory s => (s.baselines.lookup c).map ClientBaseline.agentHash
  | .sqlite db => (db.lookup c).bind BaselineRow.storedAgentHash

def pins (s : BaselineStorer) : String → Pins Hash BootPCRs :=
  match s with
  | .memory s => s.pins
  | .sqlite db => SQLiteBaselineStore.pins db

theorem pins_wf (s : BaselineStorer) (c : String) : (s.pins c).WF := by
  cases s with
  | memory s => exact s.pins_wf c
  | sqlite db => exact SQLiteBaselineStore.pins_wf db c

/-- A pinned agent hash is the stored one. -/
theorem storedAgentHash_of_pins {s : BaselineStorer} {c : String} {h : Hash}
    (hp : (s.pins c).agentHash = some h) : s.storedAgentHash c = some h := by
  cases s with
  | memory s =>
    simp only [pins, BaselineStore.pins] at hp
    obtain ⟨b, hb, he⟩ := Option.bind_eq_some_iff.mp hp
    unfold pinnedHash at he
    split at he
    · cases he
    · cases he
      simp only [storedAgentHash, hb, Option.map_some]
  | sqlite db =>
    simp only [pins, SQLiteBaselineStore.pins] at hp
    cases hr : db.lookup c with
    | none => rw [hr] at hp; cases hp
    | some row =>
      rw [hr] at hp
      simp only [storedAgentHash, hr]
      exact hp

/-- The boot pin is what `GetBootBaseline` reads, up to the times. -/
theorem getBootBaseline_pcrs (s : BaselineStorer) (c : String) :
    (s.getBootBaseline {} c).map BootBaseline.pcrs = (s.pins c).boot := by
  cases s with
  | memory s => rfl
  | sqlite db =>
    simp only [getBootBaseline, SQLiteBaselineStore.getBootBaseline, pins, SQLiteBaselineStore.pins]
    cases hr : db.lookup c with
    | none => rfl
    | some row => rfl

/-! ## Calls on pins -/

/-- The in-memory store cannot pin an all-zero agent hash: such a hash is
not presented, or one is pinned already. -/
def ZeroSafe (s : BaselineStorer) (c : String) (agentHash : Hash) : Prop :=
  match s with
  | .memory s => agentHash ≠ Blob.zero 32 ∨ (s.pins c).agentHash ≠ none
  | .sqlite _ => True

theorem checkAndUpdate_pins (s : BaselineStorer) (f : Faults) (c : String) (q : Hash) (now : Time) :
    let r := s.checkAndUpdate f c q now
    (r.1 = s ∧ r.2.1 = .error ∧ f ≠ {}) ∨
    (r.1.pins = Function.update s.pins c ((s.pins c).check q).1 ∧ r.2.1 = ((s.pins c).check q).2.1 ∧
      r.2.2.map ClientBaseline.values = ((s.pins c).check q).2.2.map clientValues) := by
  cases s with
  | memory s => exact .inr (s.checkAndUpdate_refines c q now)
  | sqlite db =>
    rcases SQLiteBaselineStore.checkAndUpdate_refines db f c q now with ⟨h1, h2, h3⟩ | h
    · exact .inl ⟨congrArg BaselineStorer.sqlite h1, h2, h3⟩
    · exact .inr h

theorem checkAndUpdateAgentHash_pins (s : BaselineStorer) (f : Faults) (c : String)
    (q a : Hash) (now : Time)
    (hz : s.ZeroSafe c a) :
    let r := s.checkAndUpdateAgentHash f c q a now
    (r.1 = s ∧ r.2.1 = .error ∧ f ≠ {}) ∨
    (r.1.pins = Function.update s.pins c ((s.pins c).checkAgentHash q a).1 ∧
      r.2.1 = ((s.pins c).checkAgentHash q a).2.1) := by
  cases s with
  | memory s => exact .inr (s.checkAndUpdateAgentHash_refines c q a now hz)
  | sqlite db =>
    rcases SQLiteBaselineStore.checkAndUpdateAgentHash_refines db f c q a now with ⟨h1, h2, h3⟩ | h
    · exact .inl ⟨congrArg BaselineStorer.sqlite h1, h2, h3⟩
    · exact .inr h

theorem checkAndUpdateBootPCRs_pins (s : BaselineStorer) (f : Faults) (c : String) (b : BootBaseline)
    (now : Time) :
    let r := s.checkAndUpdateBootPCRs f c b now
    (r.1 = s ∧ r.2.1 = .error ∧ (f ≠ {} ∨ (s.pins c).pcr14 = none)) ∨
    (r.1.pins = Function.update s.pins c ((s.pins c).checkBoot b.pcrs).1 ∧
      r.2.1 = ((s.pins c).checkBoot b.pcrs).2.1 ∧
      r.2.2.map BootBaseline.pcrs = ((s.pins c).checkBoot b.pcrs).2.2) := by
  cases s with
  | memory s => exact .inr (s.checkAndUpdateBootPCRs_refines c b now)
  | sqlite db =>
    rcases SQLiteBaselineStore.checkAndUpdateBootPCRs_refines db f c b now with ⟨h1, h2, h3⟩ | h
    · exact .inl ⟨congrArg BaselineStorer.sqlite h1, h2, h3⟩
    · exact .inr h

/-- No statement fails that `CheckAndUpdate` needs to find or make a row. -/
def RowServed (s : BaselineStorer) (f : Faults) (c : String) : Prop :=
  match s with
  | .memory _ => True
  | .sqlite db => f.select = false ∧ (db.lookup c = none → f.write = false)

theorem rowServed_of_checkAndUpdate {s : BaselineStorer} {f : Faults} {c : String}
    {q : Hash} {now : Time}
    (h : (s.checkAndUpdate f c q now).2.1.refused = false) : s.RowServed f c := by
  cases s with
  | memory s => trivial
  | sqlite db =>
    simp only [checkAndUpdate, SQLiteBaselineStore.checkAndUpdate] at h
    split at h
    · cases h
    · rename_i hs
      refine ⟨Bool.eq_false_iff.mpr hs, fun hl => ?_⟩
      rw [hl, SQLiteBaselineStore.execDB_eq] at h
      cases hw : f.write with
      | true => rw [hw] at h; cases h
      | false => rfl

/-- With these statements working the call does what the pins say. -/
theorem checkAndUpdate_served {s : BaselineStorer} {f : Faults} {c : String}
    (h : s.RowServed f c) (q : Hash)
    (now : Time) :
    (s.checkAndUpdate f c q now).1.pins = Function.update s.pins c ((s.pins c).check q).1 ∧
      (s.checkAndUpdate f c q now).2.1 = ((s.pins c).check q).2.1 := by
  have hne : (s.checkAndUpdate f c q now).2.1 ≠ .error := by
    cases s with
    | memory s =>
      simp only [checkAndUpdate, BaselineStore.checkAndUpdate]
      split
      · simp
      · split <;> simp
    | sqlite db =>
      simp only [checkAndUpdate, SQLiteBaselineStore.checkAndUpdate, h.1, Bool.false_eq_true, if_false,
        SQLiteBaselineStore.execDB_eq]
      split
      · rename_i hl
        simp [h.2 hl]
      · split <;> simp
  rcases s.checkAndUpdate_pins f c q now with ⟨-, h2, -⟩ | ⟨h1, h2, -⟩
  · exact absurd h2 hne
  · exact ⟨h1, h2⟩

/-- No statement fails that `CheckAndUpdateBootPCRs` needs to pin the boot
registers. -/
def BootServed (s : BaselineStorer) (f : Faults) : Prop :=
  match s with
  | .memory _ => True
  | .sqlite _ => f.select = false ∧ f.write = false

theorem checkAndUpdate_bootServed (s : BaselineStorer) (f : Faults) (c : String) (q : Hash) (now : Time)
    {g : Faults} : (s.checkAndUpdate f c q now).1.BootServed g ↔ s.BootServed g := by
  cases s <;> exact Iff.rfl

theorem bootServed_of_checkAndUpdateBootPCRs {s : BaselineStorer} {f : Faults} {c : String}
    (b : BootBaseline)
    (now : Time) (hn : (s.pins c).boot = none)
    (h : ((s.checkAndUpdateBootPCRs f c b now).1.pins c).boot ≠ none) : s.BootServed f := by
  cases s with
  | memory s => trivial
  | sqlite db =>
    simp only [checkAndUpdateBootPCRs, SQLiteBaselineStore.checkAndUpdateBootPCRs] at h
    split at h
    · exact absurd hn h
    · rename_i hs
      split at h
      · exact absurd hn h
      · rename_i row hr
        refine ⟨Bool.eq_false_iff.mpr hs, ?_⟩
        have hz : row.bootZero = true := by
          by_contra hz
          simp [pins, SQLiteBaselineStore.pins, hr, BaselineRow.pins_boot, hz] at hn
        rw [if_pos hz, SQLiteBaselineStore.execDB_eq] at h
        cases hw : f.write with
        | true => rw [hw] at h; exact absurd hn h
        | false => rfl

theorem checkAndUpdateBootPCRs_served {s : BaselineStorer} {f : Faults}
    (h : s.BootServed f) {c : String}
    (hrow : (s.pins c).pcr14 ≠ none) (b : BootBaseline) (now : Time) :
    (s.checkAndUpdateBootPCRs f c b now).1.pins = Function.update s.pins c
    ((s.pins c).checkBoot b.pcrs).1 ∧
      (s.checkAndUpdateBootPCRs f c b now).2.1 = ((s.pins c).checkBoot b.pcrs).2.1 := by
  have hne : (s.checkAndUpdateBootPCRs f c b now).2.1 ≠ .error := by
    cases s with
    | memory s =>
      simp only [checkAndUpdateBootPCRs, BaselineStore.checkAndUpdateBootPCRs]
      split
      · simp
      · split <;> simp
    | sqlite db =>
      simp only [checkAndUpdateBootPCRs, SQLiteBaselineStore.checkAndUpdateBootPCRs, h.1, h.2,
        Bool.false_eq_true, if_false, SQLiteBaselineStore.execDB_eq]
      split
      · rename_i hl
        exact absurd (by simp [pins, SQLiteBaselineStore.pins, hl]) hrow
      · split
        · simp
        · split <;> simp
  rcases s.checkAndUpdateBootPCRs_pins f c b now with ⟨-, h2, -⟩ | ⟨h1, h2, -⟩
  · exact absurd h2 hne
  · exact ⟨h1, h2⟩

/-- What of a record counts as pinned in this store. -/
def shown (s : BaselineStorer) (p : Pins Hash BootPCRs) : Pins Hash BootPCRs :=
  match s with
  | .memory _ => forgetZero p
  | .sqlite _ => p

@[simp] theorem shown_pcr14 (s : BaselineStorer) (p : Pins Hash BootPCRs) :
    (s.shown p).pcr14 = p.pcr14 := by
  cases s <;> rfl

@[simp] theorem shown_boot (s : BaselineStorer) (p : Pins Hash BootPCRs) :
    (s.shown p).boot = p.boot := by
  cases s <;> rfl

theorem shown_pins (s : BaselineStorer) (c : String) : s.shown (s.pins c) = s.pins c := by
  cases s with
  | memory s => exact s.forgetZero_pins c
  | sqlite db => rfl

/-- A hash other than the all-zero one counts in both stores. -/
theorem shown_pinnable {s : BaselineStorer} {h : Hash} (hne : h ≠ Blob.zero 32) {p : Pins Hash BootPCRs}
    (hp : p.agentHash = some h) : (s.shown p).agentHash = some h := by
  cases s with
  | sqlite db => exact hp
  | memory s =>
    show p.agentHash.bind pinnedHash = some h
    rw [hp, Option.bind_some, pinnedHash, if_neg hne]

/-- A hash that is pinned stays so when it is stored again. -/
theorem shown_agentHash {s : BaselineStorer} {c : String} {h : Hash}
    (hs : (s.pins c).agentHash = some h)
    {p : Pins Hash BootPCRs} (hp : p.agentHash = some h) : (s.shown p).agentHash = some h := by
  cases s with
  | sqlite db => exact hp
  | memory s => exact shown_pinnable (s.pins_agentHash_ne_zero hs) hp

theorem checkAndUpdateAttestation_shown (s : BaselineStorer) (f : Faults) (c : String) (q a : Hash)
    (boot : Option BootBaseline) (now : Time) :
    let r := s.checkAndUpdateAttestation f c q a boot now
    (r.1 = s ∧ r.2.agentHashResult = .error ∧ f ≠ {}) ∨
    (r.1.pins = Function.update s.pins c
      (s.shown ((s.pins c).attest q a (boot.map BootBaseline.pcrs)).1) ∧
      r.2.seen = ((s.pins c).attest q a (boot.map BootBaseline.pcrs)).2.seen) := by
  cases s with
  | memory s => exact .inr (s.checkAndUpdateAttestation_refines c q a boot now)
  | sqlite db =>
    rcases SQLiteBaselineStore.checkAndUpdateAttestation_refines db f c q a boot
      now with ⟨h1, h2, h3⟩ | h
    · exact .inl ⟨congrArg BaselineStorer.sqlite h1, h2, h3⟩
    · exact .inr h

theorem checkAndUpdateAttestation_pins (s : BaselineStorer) (f : Faults) (c : String) (q a : Hash)
    (boot : Option BootBaseline) (now : Time) (hz : s.ZeroSafe c a) :
    let r := s.checkAndUpdateAttestation f c q a boot now
    (r.1 = s ∧ r.2.agentHashResult = .error ∧ f ≠ {}) ∨
    (r.1.pins = Function.update s.pins c ((s.pins c).attest q a (boot.map BootBaseline.pcrs)).1 ∧
      r.2.seen = ((s.pins c).attest q a (boot.map BootBaseline.pcrs)).2.seen) := by
  have hshown : s.shown ((s.pins c).attest q a (boot.map BootBaseline.pcrs)).1 =
      ((s.pins c).attest q a (boot.map BootBaseline.pcrs)).1 := by
    cases s with
    | sqlite db => rfl
    | memory s =>
      show forgetZero ((s.pins c).attest q a (boot.map BootBaseline.pcrs)).1 =
        ((s.pins c).attest q a (boot.map BootBaseline.pcrs)).1
      cases hr : ((s.pins c).attest q a (boot.map BootBaseline.pcrs)).2.refused with
      | true =>
        rw [Pins.attest_refused hr]
        exact s.forgetZero_pins c
      | false =>
        have ha := (Pins.attest_accepted hr).1
        have hne : a ≠ Blob.zero 32 := by
          rcases hz with h | h
          · exact h
          · obtain ⟨x, hx⟩ := Option.ne_none_iff_exists'.mp h
            rw [← Pins.attest_agrees (s.pins_wf c) hr hx]
            exact s.pins_agentHash_ne_zero hx
        unfold forgetZero
        rw [ha, Option.bind_some, pinnedHash, if_neg hne, ← ha]
  rw [← hshown]
  exact s.checkAndUpdateAttestation_shown f c q a boot now

theorem checkAndUpdateAttestation_bootHalf (s : BaselineStorer) (f : Faults) (c : String) (q a : Hash)
    (boot : Option BootBaseline) (now : Time) :
    (s.checkAndUpdateAttestation f c q a boot now).2.BootHalf boot := by
  cases s with
  | memory s => exact s.checkAndUpdateAttestation_bootHalf c q a boot now
  | sqlite db => exact SQLiteBaselineStore.checkAndUpdateAttestation_bootHalf db f c q a boot now

/-- `ClearBaseline` in memory keeps the boot registers. -/
theorem clearBaseline_pins (s : BaselineStorer) (f : Faults) (c : String) :
    ((s.clearBaseline f c).pins = s.pins ∧ f ≠ {}) ∨
    (s.clearBaseline f c).pins = Function.update s.pins c
      (match s with
        | .memory _ => { boot := (s.pins c).boot }
        | .sqlite _ => {}) := by
  cases s with
  | memory s =>
    right
    funext c'
    by_cases h : c' = c
    · subst h
      simp [clearBaseline, BaselineStore.clearBaseline, pins, BaselineStore.pins]
    · rw [Function.update_of_ne h]
      simp [clearBaseline, BaselineStore.clearBaseline, pins, BaselineStore.pins,
        AList.lookup_erase_ne h]
  | sqlite db =>
    simp only [clearBaseline, SQLiteBaselineStore.clearBaseline, SQLiteBaselineStore.execDB_eq]
    cases hw : f.write with
    | true => exact .inl ⟨rfl, Faults.ne_of Faults.write hw rfl⟩
    | false =>
      right
      funext c'
      by_cases h : c' = c
      · subst h
        simp [pins, SQLiteBaselineStore.pins]
      · rw [Function.update_of_ne h]
        simp [pins, SQLiteBaselineStore.pins, AList.lookup_erase_ne h]

/-! ## Mismatches -/

/-- A refused combined call writes nothing. -/
theorem checkAndUpdateAttestation_refused {s : BaselineStorer} {f : Faults} {c : String} {q a : Hash}
    {boot : Option BootBaseline} {now : Time}
    (h : (s.checkAndUpdateAttestation f c q a boot now).2.refused = true) :
    (s.checkAndUpdateAttestation f c q a boot now).1 = s := by
  cases s with
  | memory s =>
    rcases s.checkAndUpdateAttestation_cases c q a boot now with ⟨-, hs⟩ | ⟨hr, -⟩
    · exact congrArg BaselineStorer.memory hs
    · exact absurd (hr.symm.trans h) (by decide)
  | sqlite db =>
    rcases SQLiteBaselineStore.checkAndUpdateAttestation_cases db f c q a boot
      now with ⟨-, hs⟩ | ⟨hr, -⟩
    · exact congrArg BaselineStorer.sqlite hs
    · exact absurd (hr.symm.trans h) (by decide)

theorem checkAndUpdate_mismatch {s : BaselineStorer} {f : Faults} {c : String} {q : Hash} {now : Time}
    (h : (s.checkAndUpdate f c q now).2.1 = .mismatch) : (s.checkAndUpdate f c q now).1 = s := by
  cases s with
  | memory s =>
    simp only [checkAndUpdate, BaselineStore.checkAndUpdate] at h ⊢
    split at h
    · cases h
    · split at h
      · rename_i hne
        simp [hne]
      · cases h
  | sqlite db =>
    simp only [checkAndUpdate, SQLiteBaselineStore.checkAndUpdate] at h ⊢
    split at h
    · cases h
    · rename_i hsel
      split at h
      · split at h <;> cases h
      · split at h
        · rename_i hne
          simp [hsel, hne]
        · cases h

/-- The statement that counts an attestation works. -/
def Counts (s : BaselineStorer) (f : Faults) : Prop :=
  match s with
  | .memory _ => True
  | .sqlite _ => f.write = false

/-- `CheckAndUpdate` that goes through leaves another row behind exactly when
the attestation is counted. -/
theorem checkAndUpdate_storedRow {s : BaselineStorer} {f : Faults} {c : String} {q : Hash} {now : Time}
    (h : (s.checkAndUpdate f c q now).2.1.refused = false) :
    (s.checkAndUpdate f c q now).1.storedRow c ≠ s.storedRow c ↔ s.Counts f := by
  have hcount : ∀ n : UInt64, n + 1 ≠ n := by
    intro n hn
    have := congrArg UInt64.toNat hn
    rw [UInt64.toNat_add] at this
    have hlt := n.toNat_lt
    simp only [UInt64.toNat_one] at this
    omega
  cases s with
  | memory s =>
    refine ⟨fun _ => trivial, fun _ => ?_⟩
    simp only [checkAndUpdate, BaselineStore.checkAndUpdate, storedRow] at h ⊢
    split at h
    · rename_i hl
      rw [hl]
      simp
    · rename_i existing hl
      split at h
      · cases h
      · rename_i heq
        rw [hl, if_neg heq]
        simp only [AList.lookup_insert, ne_eq, StoredRow.memory.injEq, Option.some.injEq, and_true]
        intro he
        exact hcount existing.attestCount (congrArg ClientBaseline.attestCount he)
  | sqlite db =>
    simp only [checkAndUpdate, SQLiteBaselineStore.checkAndUpdate, storedRow, Counts,
      SQLiteBaselineStore.execDB_eq] at h ⊢
    split at h
    · cases h
    · rename_i hsel
      rw [if_neg hsel]
      split at h
      · rename_i hl
        rw [hl]
        cases hw : f.write with
        | true =>
          rw [hw] at h
          cases h
        | false => simp
      · rename_i row hl
        split at h
        · cases h
        · rename_i heq
          rw [hl]
          simp only [if_neg heq]
          cases hw : f.write with
          | true => simp [hl]
          | false =>
            simp only [Bool.false_eq_true, if_false, Option.getD_some, updateRow, hl,
              AList.lookup_insert, ne_eq, StoredRow.sqlite.injEq, Option.some.injEq, iff_true]
            intro he
            exact hcount row.attestCount (congrArg BaselineRow.attestCount he)

/-- The boot registers can be read. -/
def BootRead (s : BaselineStorer) (f : Faults) : Prop :=
  match s with
  | .memory _ => True
  | .sqlite _ => f.select = false

/-- `CheckAndUpdateBootPCRs` reports a mismatch exactly when it reads other
boot registers, and then it writes nothing. -/
theorem checkAndUpdateBootPCRs_mismatch (s : BaselineStorer) (f : Faults) (c : String)
    (b : BootBaseline) (now : Time) : ((s.checkAndUpdateBootPCRs f c b now).2.1 = .mismatch ↔
      s.BootRead f ∧ (s.pins c).conflict (some b.pcrs) = true) ∧
    ((s.checkAndUpdateBootPCRs f c b now).2.1 = .mismatch →
      (s.checkAndUpdateBootPCRs f c b now).1 = s) := by
  cases s with
  | memory s =>
    simp only [checkAndUpdateBootPCRs, BaselineStore.checkAndUpdateBootPCRs, BootRead, pins,
      BaselineStore.pins, Pins.conflict, true_and]
    cases hl : s.bootBaselines.lookup c with
    | none => simp
    | some existing => by_cases he : existing.SamePCRs b <;> simp [he, ← BootBaseline.samePCRs_iff]
  | sqlite db =>
    simp only [checkAndUpdateBootPCRs, SQLiteBaselineStore.checkAndUpdateBootPCRs, BootRead, pins,
      SQLiteBaselineStore.pins, SQLiteBaselineStore.execDB_eq]
    cases hsel : f.select with
    | true => simp
    | false =>
      cases hl : db.lookup c with
      | none => simp [Pins.conflict]
      | some row =>
        simp only [Option.map_some, Option.getD_some, Pins.conflict, BaselineRow.pins_boot]
        cases hz : row.bootZero with
        | true => cases hw : f.write <;> simp
        | false => by_cases he : row.storedBoot.SamePCRs b <;> simp [he, ← BootBaseline.samePCRs_iff]

/-! ## The combined call is atomic -/

/-- **Atomicity.** If either result of `CheckAndUpdateAttestation` is a
mismatch or an error, the client's stored row is as before. Otherwise both
halves are there: the presented agent hash and, when boot values were given,
these. No other client's row changes. -/
theorem checkAndUpdateAttestation_atomic (s : BaselineStorer) (f : Faults) (c : String)
    (pcr14 agentHash : Hash)
    (boot : Option BootBaseline) (now : Time) :
    let r := s.checkAndUpdateAttestation f c pcr14 agentHash boot now
    (r.2.refused = true → r.1.storedRow c = s.storedRow c) ∧
    (r.2.refused = false → r.1.storedAgentHash c = some agentHash ∧
      (∀ b, boot = some b → ∃ stored, r.1.getBootBaseline {} c = some stored ∧ stored.SamePCRs b) ∧
      (boot = none → r.1.getBootBaseline {} c = s.getBootBaseline {} c)) ∧
    ∀ c', c' ≠ c → r.1.storedRow c' = s.storedRow c' := by
  cases s with
  | memory s =>
    simp only [checkAndUpdateAttestation]
    rcases s.checkAndUpdateAttestation_cases c pcr14 agentHash boot now with ⟨hr, hs⟩ | ⟨hr, hw⟩
    · rw [hs, hr]
      refine ⟨fun _ => rfl, ?_, fun _ _ => rfl⟩
      intro h
      cases h
    · obtain ⟨b, hb, hbase⟩ := hw.row
      refine ⟨?_, fun _ => ⟨?_, ?_, ?_⟩, ?_⟩
      · rw [hr]
        intro h
        cases h
      · simp [storedAgentHash, hbase, hb]
      · intro b' hb'
        obtain ⟨stored, hsame, hboot⟩ := hw.boot b' hb'
        exact ⟨stored, by simp [getBootBaseline, BaselineStore.getBootBaseline, hboot], hsame⟩
      · intro hn
        simp [getBootBaseline, BaselineStore.getBootBaseline, hw.noBoot hn]
      · intro c' hc
        have hboot :
            (s.checkAndUpdateAttestation c pcr14 agentHash boot now).1.bootBaselines.lookup c' =
            s.bootBaselines.lookup c' := by
          cases boot with
          | none => rw [hw.noBoot rfl]
          | some b' =>
            obtain ⟨stored, -, hboot⟩ := hw.boot b' rfl
            rw [hboot, AList.lookup_insert_ne hc]
        simp only [storedRow, hbase, hboot, AList.lookup_insert_ne hc]
  | sqlite db =>
    simp only [checkAndUpdateAttestation]
    rcases SQLiteBaselineStore.checkAndUpdateAttestation_cases db f c pcr14 agentHash boot now with
      ⟨hr, hs⟩ | ⟨hr, hw⟩
    · rw [hs, hr]
      refine ⟨fun _ => rfl, ?_, fun _ _ => rfl⟩
      intro h
      cases h
    · obtain ⟨row, ha, hdb, hnone, hsome⟩ := hw.row
      refine ⟨?_, fun _ => ⟨?_, ?_, ?_⟩, ?_⟩
      · rw [hr]
        intro h
        cases h
      · simp [storedAgentHash, hdb, BaselineRow.storedAgentHash, ha, columnHash_toList]
      · intro b' hb'
        obtain ⟨stored, hst, hsame⟩ := hsome b' hb'
        exact ⟨stored, by simp [getBootBaseline, SQLiteBaselineStore.getBootBaseline, hdb, hst], hsame⟩
      · intro hn
        simp [getBootBaseline, SQLiteBaselineStore.getBootBaseline, hdb, hnone hn]
      · intro c' hc
        simp only [storedRow, hdb, AList.lookup_insert_ne hc]

end BaselineStorer

end Lota.L2

import Lota.L2Store.Pins
import Lota.L2Store.SqliteBaseline

/-!
# Both stores refine `Pins`

`BaselineStore.pins` and `SQLiteBaselineStore.pins` read the abstract record
of a client off a store. Each call of a store is the abstract operation on
that client's record and leaves every other client alone:

* in memory, as long as no all-zero agent hash is pinned, since the store
  cannot tell such a pin from none;
* in SQLite, unless a statement fails, and then nothing is changed.
-/
namespace Lota.L2
open Lota.Core Lota.L1.Report Lota.L2.Baseline Lota.L2.SqliteBaseline

abbrev BootPCRs := Hash × Hash × Hash

namespace Baseline

def BootBaseline.pcrs (b : BootBaseline) : BootPCRs := (b.pcr0, b.pcr1, b.pcr7)

theorem BootBaseline.samePCRs_iff (a b : BootBaseline) : a.SamePCRs b ↔ a.pcrs = b.pcrs := by
  simp [SamePCRs, pcrs]

/-- An agent hash counts as pinned in memory when it is not all zero. -/
def pinnedHash (h : Hash) : Option Hash := if h = Blob.zero 32 then none else some h

theorem pinnedHash_getD (h : Hash) : (pinnedHash h).getD (Blob.zero 32) = h := by
  unfold pinnedHash
  split
  · rename_i hz; rw [hz]; rfl
  · rfl

/-- An all-zero agent hash is stored but does not count as pinned. -/
def forgetZero (p : Pins Hash BootPCRs) : Pins Hash BootPCRs :=
  { p with agentHash := p.agentHash.bind pinnedHash }

/-- The values a returned `ClientBaseline` shows, times left out. -/
def ClientBaseline.values (b : ClientBaseline) : Hash × Hash := (b.pcr14, b.agentHash)

/-- The results and values a caller sees in an outcome, times left out. -/
def AttestationOutcome.seen (o : AttestationOutcome) :
    TOFUResult × TOFUResult × Option (Hash × Hash) × Option BootPCRs :=
  (o.agentHashResult, o.bootResult, o.agentHashBaseline.map ClientBaseline.values,
    o.bootBaseline.map BootBaseline.pcrs)

def BaselineStore.pins (s : BaselineStore) (c : String) : Pins Hash BootPCRs where
  pcr14 := (s.baselines.lookup c).map ClientBaseline.pcr14
  agentHash := (s.baselines.lookup c).bind fun b => pinnedHash b.agentHash
  boot := (s.bootBaselines.lookup c).map BootBaseline.pcrs

end Baseline

/-- An abstract report as a caller of a store sees it: an agent hash that is
not pinned shows as all zero. -/
def clientValues (c : Hash × Option Hash) : Hash × Hash := (c.1, c.2.getD (Blob.zero 32))

def Verdict.seen (v : Verdict Hash BootPCRs) :
    TOFUResult × TOFUResult × Option (Hash × Hash) × Option BootPCRs :=
  (v.agentHashResult, v.bootResult, v.client.map clientValues, v.boot)

/-- What a caller sees decides whether it refuses. -/
theorem refused_of_seen {o : AttestationOutcome} {v : Verdict Hash BootPCRs} (h : o.seen = v.seen) :
    o.refused = v.refused := by
  simp only [AttestationOutcome.seen, Verdict.seen, Prod.mk.injEq] at h
  rw [AttestationOutcome.refused, Verdict.refused, h.1, h.2.1]

theorem bootResult_ne_mismatch (p : Pins Hash BootPCRs) (boot : Option BootPCRs) :
    p.bootResult boot ≠ .mismatch := by
  unfold Pins.bootResult; split <;> simp

/-! ## Memory -/

namespace Baseline.BaselineStore

theorem pins_wf (s : BaselineStore) (c : String) : (s.pins c).WF := by
  intro h
  simp only [pins, Option.map_eq_none_iff] at h ⊢
  rw [h]; rfl

variable (m : GoMap String ClientBaseline) (n : GoMap String BootBaseline)

theorem pins_insert (c : String) (b : ClientBaseline) :
    pins ⟨m.insert c b, n⟩ = Function.update (pins ⟨m, n⟩) c
      { pins ⟨m, n⟩ c with pcr14 := some b.pcr14, agentHash := pinnedHash b.agentHash } := by
  funext c'
  by_cases h : c' = c
  · subst h; simp [pins]
  · rw [Function.update_of_ne h]; simp [pins, h]

theorem pins_insertBoot (c : String) (b : BootBaseline) :
    pins ⟨m, n.insert c b⟩ = Function.update (pins ⟨m, n⟩) c
    { pins ⟨m, n⟩ c with boot := some b.pcrs } := by
  funext c'
  by_cases h : c' = c
  · subst h; simp [pins]
  · rw [Function.update_of_ne h]; simp [pins, h]

/-- A row rewritten with the same values shows the same pins. -/
theorem pins_touch {c : String} {e b : ClientBaseline} (he : m.lookup c = some e)
    (hb : b.values = e.values) : pins ⟨m.insert c b, n⟩ = pins ⟨m, n⟩ := by
  obtain ⟨hq, ha⟩ := Prod.mk.inj hb
  rw [pins_insert, Function.update_eq_self_iff, hq, ha]
  simp [pins, he]

theorem pins_touchBoot {c : String} {e b : BootBaseline} (he : n.lookup c = some e)
    (hb : b.pcrs = e.pcrs) : pins ⟨m, n.insert c b⟩ = pins ⟨m, n⟩ := by
  rw [pins_insertBoot, Function.update_eq_self_iff, hb]
  simp [pins, he]

theorem checkAndUpdate_refines (s : BaselineStore) (c : String) (q : Hash) (now : Time) :
    (s.checkAndUpdate c q now).1.pins = Function.update s.pins c ((s.pins c).check q).1 ∧
    (s.checkAndUpdate c q now).2.1 = ((s.pins c).check q).2.1 ∧
    (s.checkAndUpdate c q now).2.2.map ClientBaseline.values =
      ((s.pins c).check q).2.2.map clientValues := by
  unfold checkAndUpdate Pins.check
  cases he : s.baselines.lookup c with
  | none =>
    have hp : (s.pins c).pcr14 = none := by simp [pins, he]
    have ha : (s.pins c).agentHash = none := by simp [pins, he]
    simp [hp, ha, pins_insert, pinnedHash, ClientBaseline.values, clientValues]
  | some e =>
    have hp : (s.pins c).pcr14 = some e.pcr14 := by simp [pins, he]
    have ha : (s.pins c).agentHash = pinnedHash e.agentHash := by simp [pins, he]
    simp only [hp]
    by_cases hq : e.pcr14 = q
    · rw [if_neg (not_not.mpr hq), if_pos hq, Function.update_eq_self]
      refine ⟨pins_touch _ _ he rfl, rfl, ?_⟩
      simp [ClientBaseline.values, clientValues, ha, pinnedHash_getD]
    · simp [hq, ClientBaseline.values, clientValues, ha, pinnedHash_getD]

theorem checkAndUpdateAgentHash_refines (s : BaselineStore) (c : String) (q a : Hash) (now : Time)
    (hz : a ≠ Blob.zero 32 ∨ (s.pins c).agentHash ≠ none) :
    (s.checkAndUpdateAgentHash c q a now).1.pins =
      Function.update s.pins c ((s.pins c).checkAgentHash q a).1 ∧
    (s.checkAndUpdateAgentHash c q a now).2.1 = ((s.pins c).checkAgentHash q a).2.1 := by
  unfold checkAndUpdateAgentHash Pins.checkAgentHash
  cases he : s.baselines.lookup c with
  | none =>
    have hp : (s.pins c).pcr14 = none := by simp [pins, he]
    have hne : a ≠ Blob.zero 32 := hz.resolve_right (not_not.mpr (pins_wf s c hp))
    simp [hp, pins_insert, pinnedHash, hne]
  | some e =>
    have hp : (s.pins c).pcr14 = some e.pcr14 := by simp [pins, he]
    have ha : (s.pins c).agentHash = pinnedHash e.agentHash := by simp [pins, he]
    by_cases h0 : e.agentHash = Blob.zero 32
    · have hn : (s.pins c).agentHash = none := by simp [ha, pinnedHash, h0]
      have hne : a ≠ Blob.zero 32 := hz.resolve_right (not_not.mpr hn)
      simp [hp, hn, h0, pins_insert, pinnedHash, hne]
    · have hs : (s.pins c).agentHash = some e.agentHash := by simp [ha, pinnedHash, h0]
      simp only [hp, hs, if_neg h0]
      by_cases hq : e.agentHash = a
      · rw [if_neg (not_not.mpr hq), if_pos hq, Function.update_eq_self]
        exact ⟨pins_touch _ _ he rfl, rfl⟩
      · simp [hq]

theorem checkAndUpdateBootPCRs_refines (s : BaselineStore) (c : String) (b : BootBaseline)
    (now : Time) :
    (s.checkAndUpdateBootPCRs c b now).1.pins = Function.update s.pins c
    ((s.pins c).checkBoot b.pcrs).1 ∧
    (s.checkAndUpdateBootPCRs c b now).2.1 = ((s.pins c).checkBoot b.pcrs).2.1 ∧
    (s.checkAndUpdateBootPCRs c b now).2.2.map BootBaseline.pcrs =
    ((s.pins c).checkBoot b.pcrs).2.2 := by
  unfold checkAndUpdateBootPCRs Pins.checkBoot
  cases he : s.bootBaselines.lookup c with
  | none =>
    have hb : (s.pins c).boot = none := by simp [pins, he]
    simp [hb, pins_insertBoot, BootBaseline.pcrs]
  | some e =>
    have hb : (s.pins c).boot = some e.pcrs := by simp [pins, he]
    simp only [hb, BootBaseline.samePCRs_iff]
    by_cases hq : e.pcrs = b.pcrs
    · rw [if_neg (not_not.mpr hq), if_pos hq, Function.update_eq_self]
      exact ⟨pins_touchBoot _ _ he rfl, rfl, rfl⟩
    · simp [hq]

theorem decideBoot_eq (s : BaselineStore) (c : String) (b : BootBaseline) :
    decideBoot (s.bootBaselines.lookup c) b =
      if (s.pins c).conflict (some b.pcrs) then (.mismatch, s.bootBaselines.lookup c)
      else ((s.pins c).bootResult (some b.pcrs), none) := by
  cases hb : s.bootBaselines.lookup c with
  | none =>
    have hbn : (s.pins c).boot = none := by simp [pins, hb]
    simp [decideBoot, Pins.conflict, Pins.bootResult, hbn]
  | some sb =>
    have hbs : (s.pins c).boot = some sb.pcrs := by simp [pins, hb]
    by_cases hq : sb.pcrs = b.pcrs
    · simp [decideBoot, Pins.conflict, Pins.bootResult, hbs, hq, BootBaseline.samePCRs_iff]
    · simp [decideBoot, Pins.conflict, hbs, hq, BootBaseline.samePCRs_iff]

/-- The commit phase writes the abstract record. -/
theorem commitAttestation_refines {s : BaselineStore} {c : String} {e : ClientBaseline} {a : Hash}
    (boot : Option BootBaseline) (now : Time) (he : s.baselines.lookup c = some e)
    (ha : e.agentHash = Blob.zero 32 ∨ e.agentHash = a)
    (hc : (s.pins c).conflict (boot.map BootBaseline.pcrs) = false) :
    let r := s.commitAttestation c e a boot (s.pins c).hashResult
      ((s.pins c).bootResult (boot.map BootBaseline.pcrs)) now
    r.1.pins = Function.update s.pins c
      ⟨some e.pcr14, pinnedHash a, (boot.map BootBaseline.pcrs).or (s.pins c).boot⟩ ∧
    r.2.seen = ((s.pins c).hashResult, (s.pins c).bootResult (boot.map BootBaseline.pcrs),
      some (e.pcr14, a), boot.map BootBaseline.pcrs) := by
  have hah : (if (s.pins c).hashResult = .legacyBackfill then a else e.agentHash) = a := by
    rcases ha with h | h
    · have hn : (s.pins c).agentHash = none := by simp [pins, he, pinnedHash, h]
      simp [Pins.hashResult, hn]
    · rw [h, ite_self]
  obtain ⟨e', he'⟩ : ∃ e' : ClientBaseline,
      e' = { e with agentHash := a, lastSeen := now, attestCount := e.attestCount + 1 } := ⟨_, rfl⟩
  have hval : e'.pcr14 = e.pcr14 ∧ e'.agentHash = a := by rw [he']; exact ⟨rfl, rfl⟩
  have hseen : e'.values = (e.pcr14, a) := Prod.ext hval.1 hval.2
  have hins : pins ⟨s.baselines.insert c e', s.bootBaselines⟩ =
      Function.update s.pins c ⟨some e.pcr14, pinnedHash a, (s.pins c).boot⟩ := by
    rw [pins_insert, hval.1, hval.2]
  unfold commitAttestation
  simp only [hah, ← he']
  cases boot with
  | none => exact ⟨by simpa using hins, by simp [AttestationOutcome.seen, hseen]⟩
  | some b =>
    cases hb : s.bootBaselines.lookup c with
    | none =>
      have hbn : (s.pins c).boot = none := by simp [pins, hb]
      simp only [Option.map_some, Pins.bootResult, hbn, Option.isSome_none, Bool.and_false,
        Bool.false_eq_true, if_false]
      refine ⟨?_, by simp [AttestationOutcome.seen, hseen, BootBaseline.pcrs]⟩
      rw [pins_insertBoot, hins]
      simp [BootBaseline.pcrs]
    | some sb =>
      have hbs : (s.pins c).boot = some sb.pcrs := by simp [pins, hb]
      have hsame : sb.pcrs = b.pcrs := Pins.conflict_false hc rfl hbs
      simp only [Option.map_some, Pins.bootResult, hbs, Option.isSome_some, Bool.and_true, if_true]
      refine ⟨?_, ?_⟩
      · have hpcrs : ({ sb with lastSeen := now } : BootBaseline).pcrs = sb.pcrs := rfl
        rw [pins_touchBoot _ _ hb hpcrs, hins, ← hsame, Option.some_or, ← hbs]
      · rw [← hsame]
        simp [AttestationOutcome.seen, hseen, BootBaseline.pcrs]

theorem pins_agentHash_ne_zero (s : BaselineStore) {c : String} {h : Hash}
    (hp : (s.pins c).agentHash = some h) : h ≠ Blob.zero 32 := by
  obtain ⟨b, -, hb⟩ := Option.bind_eq_some_iff.mp hp
  unfold pinnedHash at hb
  split at hb
  · cases hb
  · rename_i hne
    cases hb
    exact hne

theorem forgetZero_pins (s : BaselineStore) (c : String) : forgetZero (s.pins c) = s.pins c := by
  unfold forgetZero
  cases hp : (s.pins c).agentHash with
  | none => rw [Option.bind_none, ← hp]
  | some h => rw [Option.bind_some, pinnedHash, if_neg (s.pins_agentHash_ne_zero hp), ← hp]

theorem checkAndUpdateAttestation_refines (s : BaselineStore) (c : String) (q a : Hash)
    (boot : Option BootBaseline) (now : Time) :
    (s.checkAndUpdateAttestation c q a boot now).1.pins =
      Function.update s.pins c (forgetZero ((s.pins c).attest q a (boot.map BootBaseline.pcrs)).1) ∧
    (s.checkAndUpdateAttestation c q a boot now).2.seen =
      ((s.pins c).attest q a (boot.map BootBaseline.pcrs)).2.seen := by
  unfold checkAndUpdateAttestation Pins.attest
  cases he : s.baselines.lookup c with
  | none =>
    have hp : (s.pins c).pcr14 = none := by simp [pins, he]
    cases boot with
    | none =>
      simp only [hp, pins_insert]
      simp [forgetZero, AttestationOutcome.seen, Verdict.seen, ClientBaseline.values, clientValues]
    | some b =>
      simp only [hp, pins_insert, pins_insertBoot]
      simp [forgetZero, AttestationOutcome.seen, Verdict.seen, ClientBaseline.values, clientValues,
        BootBaseline.pcrs]
  | some e =>
    have hp : (s.pins c).pcr14 = some e.pcr14 := by simp [pins, he]
    have ha : (s.pins c).agentHash = pinnedHash e.agentHash := by simp [pins, he]
    have hany : (s.pins c).agentHash.any (· ≠ a) = decide (e.agentHash ≠ Blob.zero 32 ∧
        e.agentHash ≠ a) := by
      rw [ha, pinnedHash]
      split <;> simp [*]
    have hval : e.values = clientValues (e.pcr14, (s.pins c).agentHash) := by
      simp [ClientBaseline.values, clientValues, ha, pinnedHash_getD]
    simp only [hp, hany, decide_eq_true_eq]
    by_cases hm : e.agentHash ≠ Blob.zero 32 ∧ e.agentHash ≠ a
    · have hd : decideAgentHash e a = none := by simp [decideAgentHash, hm.1, hm.2]
      rw [if_pos hm, hd]
      simp [AttestationOutcome.seen, Verdict.seen, hval, forgetZero_pins]
    have hag : e.agentHash = Blob.zero 32 ∨ e.agentHash = a := by
      by_cases h0 : e.agentHash = Blob.zero 32
      · exact .inl h0
      · exact .inr (not_not.mp fun h => hm ⟨h0, h⟩)
    have hd : decideAgentHash e a = some (s.pins c).hashResult := by
      by_cases h0 : e.agentHash = Blob.zero 32
      · simp [decideAgentHash, Pins.hashResult, ha, pinnedHash, h0]
      · have hea := hag.resolve_left h0
        rw [decideAgentHash, if_neg h0, if_neg (not_not.mpr hea), Pins.hashResult, ha,
          pinnedHash, if_neg h0]
        rfl
    rw [if_neg hm, hd]
    cases boot with
    | none =>
      rw [if_neg (by simp)]
      exact commitAttestation_refines none now he hag rfl
    | some b =>
      simp only [decideBoot_eq, Option.map_some]
      by_cases hc : (s.pins c).conflict (some b.pcrs) = true
      · rw [if_pos hc, if_pos hc]
        rw [forgetZero_pins, Function.update_eq_self]
        simp [AttestationOutcome.seen, Verdict.seen, hval, pins]
      · rw [if_neg hc, if_neg hc]
        have hcommit := commitAttestation_refines (some b) now he hag (by simpa using hc)
        have hr := bootResult_ne_mismatch (s.pins c) (some b.pcrs)
        cases hbr : (s.pins c).bootResult (some b.pcrs) with
        | mismatch => exact absurd hbr hr
        | _ =>
          simp only [Option.map_some, hbr] at hcommit
          exact hcommit

end Baseline.BaselineStore

/-! ## SQLite -/

namespace SqliteBaseline

namespace BaselineRow

def pins (row : BaselineRow) : Pins Hash BootPCRs where
  pcr14 := some row.pcr14
  agentHash := row.storedAgentHash
  boot := row.boot?.map BootBaseline.pcrs

theorem pins_boot (row : BaselineRow) :
    row.pins.boot = if row.bootZero then none else some row.storedBoot.pcrs := by
  unfold pins boot?
  split <;> rfl

@[simp] theorem pins_touch (row : BaselineRow) (now : Time) : (row.touch now).pins = row.pins := rfl

@[simp] theorem pins_touchBoot (row : BaselineRow) (now : Time) :
    (row.touchBoot now).pins = row.pins := by
  refine Pins.ext rfl rfl ?_
  rw [pins_boot, pins_boot]
  rfl

@[simp] theorem pins_setAgentHash (row : BaselineRow) (a : Hash) :
    (row.setAgentHash a).pins = ⟨row.pins.pcr14, some a, row.pins.boot⟩ :=
  Pins.ext rfl (columnHash_toList a) rfl

@[simp] theorem pins_fresh (q a : Hash) (now : Time) : (fresh q a now).pins = ⟨some q, some a, none⟩ :=
  Pins.ext rfl (columnHash_toList a) rfl

@[simp] theorem pins_setBoot (row : BaselineRow) (b : BootBaseline) (now : Time) :
    (row.setBoot b now).pins = ⟨row.pins.pcr14, row.pins.agentHash, some b.pcrs⟩ := by
  refine Pins.ext rfl rfl ?_
  simp only [pins, boot?_setBoot]
  rfl

theorem client_values (row : BaselineRow) :
    row.client.values = clientValues (row.pcr14, row.pins.agentHash) := rfl

end BaselineRow

namespace SQLiteBaselineStore

def pins (db : SQLiteBaselineStore) (c : String) : Pins Hash BootPCRs :=
  ((db.lookup c).map BaselineRow.pins).getD {}

theorem pins_wf (db : SQLiteBaselineStore) (c : String) : (pins db c).WF := by
  intro h
  unfold pins at h ⊢
  cases hr : db.lookup c with
  | none => rfl
  | some row => rw [hr] at h; cases h

theorem pins_insert (db : SQLiteBaselineStore) (c : String) (row : BaselineRow) :
    pins (db.insert c row) = Function.update (pins db) c row.pins := by
  funext c'
  by_cases h : c' = c
  · subst h; simp [pins]
  · rw [Function.update_of_ne h]; simp [pins, h]

theorem pins_updateRow {db : SQLiteBaselineStore} {c : String} {row : BaselineRow}
    (h : db.lookup c = some row)
    (set : BaselineRow → BaselineRow) :
    pins (updateRow c set db) = Function.update (pins db) c (set row).pins := by
  rw [updateRow, h, pins_insert]

theorem pins_updateRow_same {db : SQLiteBaselineStore} {c : String} {row : BaselineRow}
    (h : db.lookup c = some row) {set : BaselineRow → BaselineRow} (hs : (set row).pins = row.pins) :
    pins (updateRow c set db) = pins db := by
  rw [pins_updateRow h, hs, Function.update_eq_self_iff, pins, h]
  rfl

theorem execDB_eq (fails : Bool) (g : SQLiteBaselineStore → SQLiteBaselineStore)
    (db : SQLiteBaselineStore) : execDB fails g db = if fails then none else some (g db) := by
  cases fails <;> rfl

/-- A failed update of a column that is no pin is only logged. -/
theorem pins_execDB_getD {db : SQLiteBaselineStore} {c : String} {row : BaselineRow}
    (h : db.lookup c = some row) (fails : Bool) {set : BaselineRow → BaselineRow}
    (hs : (set row).pins = row.pins) :
    pins ((execDB fails (updateRow c set) db).getD db) = pins db := by
  rw [execDB_eq]
  cases fails with
  | true => rfl
  | false => exact pins_updateRow_same h hs

theorem checkAndUpdate_refines (db : SQLiteBaselineStore) (f : Faults) (c : String) (q : Hash)
    (now : Time) : let r := db.checkAndUpdate f c q now
    (r.1 = db ∧ r.2.1 = .error ∧ f ≠ {}) ∨
    (pins r.1 = Function.update (pins db) c ((pins db c).check q).1 ∧
      r.2.1 = ((pins db c).check q).2.1 ∧
      r.2.2.map ClientBaseline.values = ((pins db c).check q).2.2.map clientValues) := by
  unfold checkAndUpdate Pins.check
  cases hs : f.select with
  | true => exact .inl ⟨rfl, rfl, Faults.ne_of Faults.select hs rfl⟩
  | false =>
    cases hr : db.lookup c with
    | none =>
      have hp : pins db c = {} := by simp [pins, hr]
      cases hw : f.write with
      | true => exact .inl ⟨rfl, rfl, Faults.ne_of Faults.write hw rfl⟩
      | false =>
        right
        simp only [Bool.false_eq_true, if_false, execDB_eq, hp, pins_insert]
        exact ⟨rfl, trivial, rfl⟩
    | some row =>
      have hp : pins db c = row.pins := by simp [pins, hr]
      have hq : row.pins.pcr14 = some row.pcr14 := rfl
      right
      simp only [Bool.false_eq_true, if_false, hp, hq]
      by_cases h : row.pcr14 = q
      · rw [if_neg (not_not.mpr h), if_pos h, ← hp, Function.update_eq_self]
        exact ⟨pins_execDB_getD hr _ (BaselineRow.pins_touch row now), rfl, by rw [hp]; rfl⟩
      · rw [if_pos h, if_neg h, ← hp, Function.update_eq_self]
        exact ⟨rfl, rfl, by rw [hp]; rfl⟩

theorem checkAndUpdateAgentHash_refines (db : SQLiteBaselineStore) (f : Faults)
    (c : String) (q a : Hash)
    (now : Time) :
    let r := db.checkAndUpdateAgentHash f c q a now
    (r.1 = db ∧ r.2.1 = .error ∧ f ≠ {}) ∨
    (pins r.1 = Function.update (pins db) c ((pins db c).checkAgentHash q a).1 ∧
      r.2.1 = ((pins db c).checkAgentHash q a).2.1) := by
  unfold checkAndUpdateAgentHash Pins.checkAgentHash
  cases hs : f.select with
  | true => exact .inl ⟨rfl, rfl, Faults.ne_of Faults.select hs rfl⟩
  | false =>
    cases hr : db.lookup c with
    | none =>
      have hp : pins db c = {} := by simp [pins, hr]
      cases hw : f.write with
      | true => exact .inl ⟨rfl, rfl, Faults.ne_of Faults.write hw rfl⟩
      | false =>
        right
        simp only [Bool.false_eq_true, if_false, execDB_eq, hp, pins_insert]
        rw [BaselineRow.pins_fresh]
        exact ⟨rfl, trivial⟩
    | some row =>
      have hp : pins db c = row.pins := by simp [pins, hr]
      have hq : row.pins.pcr14 = some row.pcr14 := rfl
      have ha : row.pins.agentHash = row.storedAgentHash := rfl
      simp only [Bool.false_eq_true, if_false, hp, hq, ha]
      cases hh : row.storedAgentHash with
      | none =>
        cases hw : f.write with
        | true => exact .inl ⟨rfl, rfl, Faults.ne_of Faults.write hw rfl⟩
        | false =>
          right
          simp only [execDB_eq, Bool.false_eq_true, if_false, pins_updateRow hr,
            BaselineRow.pins_setAgentHash, BaselineRow.pins_touch]
          exact ⟨rfl, trivial⟩
      | some h =>
        right
        simp only
        by_cases hne : h = a
        · rw [if_neg (not_not.mpr hne), if_pos hne, ← hp, Function.update_eq_self]
          exact ⟨pins_execDB_getD hr _ (BaselineRow.pins_touch row now), rfl⟩
        · rw [if_pos hne, if_neg hne, ← hp, Function.update_eq_self]
          exact ⟨rfl, rfl⟩

theorem checkAndUpdateBootPCRs_refines (db : SQLiteBaselineStore) (f : Faults) (c : String)
    (b : BootBaseline)
    (now : Time) :
    let r := db.checkAndUpdateBootPCRs f c b now
    (r.1 = db ∧ r.2.1 = .error ∧ (f ≠ {} ∨ (pins db c).pcr14 = none)) ∨
    (pins r.1 = Function.update (pins db) c ((pins db c).checkBoot b.pcrs).1 ∧
      r.2.1 = ((pins db c).checkBoot b.pcrs).2.1 ∧
      r.2.2.map BootBaseline.pcrs = ((pins db c).checkBoot b.pcrs).2.2) := by
  unfold checkAndUpdateBootPCRs Pins.checkBoot
  cases hs : f.select with
  | true => exact .inl ⟨rfl, rfl, .inl (Faults.ne_of Faults.select hs rfl)⟩
  | false =>
    cases hr : db.lookup c with
    | none => exact .inl ⟨rfl, rfl, .inr (by simp [pins, hr])⟩
    | some row =>
      have hp : pins db c = row.pins := by simp [pins, hr]
      have hb := BaselineRow.pins_boot row
      simp only [Bool.false_eq_true, if_false, hp]
      cases hz : row.bootZero with
      | true =>
        rw [hz, if_pos rfl] at hb
        cases hw : f.write with
        | true => exact .inl ⟨rfl, rfl, .inl (Faults.ne_of Faults.write hw rfl)⟩
        | false =>
          right
          simp only [execDB_eq, Bool.false_eq_true, if_false, if_true, pins_updateRow hr,
            BaselineRow.pins_setBoot, hb]
          exact ⟨trivial, trivial, rfl⟩
      | false =>
        rw [hz, if_neg Bool.false_ne_true] at hb
        right
        simp only [Bool.false_eq_true, if_false, hb, BootBaseline.samePCRs_iff]
        by_cases hne : row.storedBoot.pcrs = b.pcrs
        · rw [if_neg (not_not.mpr hne), if_pos hne, ← hp, Function.update_eq_self]
          exact ⟨pins_execDB_getD hr _ (BaselineRow.pins_touchBoot row now), rfl, rfl⟩
        · rw [if_pos hne, if_neg hne, ← hp, Function.update_eq_self]
          exact ⟨rfl, rfl, rfl⟩

/-- The commit phase without faults writes the abstract record. -/
theorem updateExisting_refines {db : SQLiteBaselineStore} {c : String} {row : BaselineRow} (a : Hash)
    (boot : Option BootBaseline) (now : Time) (hr : db.lookup c = some row)
    (hc : row.pins.conflict (boot.map BootBaseline.pcrs) = false) :
    let r := updateExisting {} ⟨db, some db⟩ c row a boot row.pins.hashResult
      (row.pins.bootResult (boot.map BootBaseline.pcrs)) now
    r.2.2 = true ∧
    pins r.1.db = Function.update (pins db) c
      ⟨some row.pcr14, some a, (boot.map BootBaseline.pcrs).or row.pins.boot⟩ ∧
    r.2.1.seen = (row.pins.hashResult, row.pins.bootResult (boot.map BootBaseline.pcrs),
      some (row.pcr14, a), boot.map BootBaseline.pcrs) := by
  unfold updateExisting
  cases boot with
  | none =>
    refine ⟨rfl, ?_, rfl⟩
    refine (pins_updateRow hr _).trans ?_
    rw [BaselineRow.pins_setAgentHash, BaselineRow.pins_touch]
    rfl
  | some b =>
    cases hb : row.pins.boot with
    | none =>
      simp only [Option.map_some, Pins.bootResult, hb, Option.isSome_none, Bool.and_false,
        Bool.false_eq_true, if_false]
      refine ⟨rfl, ?_, rfl⟩
      refine (pins_updateRow hr _).trans ?_
      rw [BaselineRow.pins_setBoot, BaselineRow.pins_setAgentHash, BaselineRow.pins_touch]
      rfl
    | some sb =>
      have hsame : sb = b.pcrs := Pins.conflict_false hc rfl hb
      simp only [Option.map_some, Pins.bootResult, hb, Option.isSome_some, Bool.and_true, if_true]
      refine ⟨rfl, ?_, rfl⟩
      refine (pins_updateRow hr _).trans ?_
      rw [BaselineRow.pins_touchBoot, BaselineRow.pins_setAgentHash, BaselineRow.pins_touch, hb, hsame]
      rfl

theorem checkAndUpdateAttestation_ideal (db : SQLiteBaselineStore) (c : String) (q a : Hash)
    (boot : Option BootBaseline) (now : Time) :
    pins (db.checkAndUpdateAttestation {} c q a boot now).1 =
      Function.update (pins db) c ((pins db c).attest q a (boot.map BootBaseline.pcrs)).1 ∧
    (db.checkAndUpdateAttestation {} c q a boot now).2.seen =
      ((pins db c).attest q a (boot.map BootBaseline.pcrs)).2.seen := by
  have hcall : ∀ r, attestationTx {} ⟨db, some db⟩ c q a boot now = r →
      db.checkAndUpdateAttestation {} c q a boot now =
        (if r.2.2 then r.1.db else r.1.rollback.db, r.2.1) := by
    intro r hr
    subst hr
    rfl
  cases hr : db.lookup c with
  | none =>
    have hp : pins db c = {} := by simp [pins, hr]
    have htx : attestationTx {} ⟨db, some db⟩ c q a boot now = insertFresh {} ⟨db, some db⟩ c q a
        boot now := by
      simp [attestationTx, Conn.view, hr]
    rw [hcall _ htx, hp]
    cases boot with
    | none =>
      refine ⟨?_, rfl⟩
      refine (pins_insert db c _).trans ?_
      rw [BaselineRow.pins_fresh]
      rfl
    | some b =>
      refine ⟨?_, rfl⟩
      refine (pins_insert db c _).trans ?_
      rw [BaselineRow.pins_setBoot, BaselineRow.pins_fresh]
      rfl
  | some row =>
    have hp : pins db c = row.pins := by simp [pins, hr]
    have hq : row.pins.pcr14 = some row.pcr14 := rfl
    have ha : row.pins.agentHash = row.storedAgentHash := rfl
    unfold Pins.attest
    simp only [hp, hq]
    by_cases hm : row.pins.agentHash.any (· ≠ a) = true
    · have htx : attestationTx {} ⟨db, some db⟩ c q a boot now =
          (⟨db, some db⟩, { bootProvided := boot.isSome, agentHashResult := .mismatch,
                            agentHashBaseline := some row.client,
                            bootResult := if boot.isSome then .error else .firstUse }, false) := by
        rw [ha] at hm
        simp only [attestationTx, Conn.view, Option.getD_some, hr, Bool.false_eq_true,
          if_false, if_pos hm]
      rw [hcall _ htx, if_pos hm, ← hp, Function.update_eq_self]
      refine ⟨rfl, ?_⟩
      simp [AttestationOutcome.seen, Verdict.seen, BaselineRow.client_values, hp]
    rw [if_neg hm]
    have hgo : attestationTx {} ⟨db, some db⟩ c q a boot now =
        if row.pins.conflict (boot.map BootBaseline.pcrs) then
          (⟨db, some db⟩, { bootProvided := boot.isSome, agentHashResult := row.pins.hashResult,
                            agentHashBaseline := some row.client, bootResult := .mismatch,
                            bootBaseline := some row.storedBoot }, false)
        else updateExisting {} ⟨db, some db⟩ c row a boot row.pins.hashResult
          (row.pins.bootResult (boot.map BootBaseline.pcrs)) now := by
      rw [ha] at hm
      have hb := BaselineRow.pins_boot row
      simp only [attestationTx, Conn.view, Option.getD_some, hr, Bool.false_eq_true,
        if_false, if_neg hm]
      cases boot with
      | none => rfl
      | some b =>
        cases hz : row.bootZero with
        | true =>
          rw [hz, if_pos rfl] at hb
          simp [Pins.conflict, Pins.bootResult, Pins.hashResult, hb, ha]
        | false =>
          rw [hz, if_neg Bool.false_ne_true] at hb
          by_cases hs : row.storedBoot.pcrs = b.pcrs
          · simp [Pins.conflict, Pins.bootResult, Pins.hashResult, hb, ha, hs,
              BootBaseline.samePCRs_iff]
          · simp [Pins.conflict, Pins.hashResult, hb, ha, hs, BootBaseline.samePCRs_iff]
    by_cases hc : row.pins.conflict (boot.map BootBaseline.pcrs) = true
    · rw [if_pos hc] at hgo ⊢
      rw [hcall _ hgo, ← hp, Function.update_eq_self]
      refine ⟨rfl, ?_⟩
      have hboot : row.pins.boot = some row.storedBoot.pcrs := by
        rw [BaselineRow.pins_boot]
        refine if_neg fun hz => ?_
        have hn : row.pins.boot = none := by rw [BaselineRow.pins_boot, if_pos hz]
        simp [Pins.conflict, hn] at hc
      simp [AttestationOutcome.seen, Verdict.seen, BaselineRow.client_values, hp, hboot]
    · rw [if_neg hc] at hgo ⊢
      obtain ⟨h1, h2, h3⟩ := updateExisting_refines a boot now hr (by simpa using hc)
      rw [hcall _ hgo, if_pos h1]
      exact ⟨h2, h3⟩

theorem checkAndUpdateAttestation_refines (db : SQLiteBaselineStore) (f : Faults)
    (c : String) (q a : Hash)
    (boot : Option BootBaseline) (now : Time) :
    let r := db.checkAndUpdateAttestation f c q a boot now
    (r.1 = db ∧ r.2.agentHashResult = .error ∧ f ≠ {}) ∨
    (pins r.1 = Function.update (pins db) c ((pins db c).attest q a (boot.map BootBaseline.pcrs)).1 ∧
      r.2.seen = ((pins db c).attest q a (boot.map BootBaseline.pcrs)).2.seen) := by
  rcases checkAndUpdateAttestation_faults db f c q a boot now with h | h
  · exact .inl h
  · simp only [h]
    exact .inr (checkAndUpdateAttestation_ideal db c q a boot now)

end SQLiteBaselineStore

end SqliteBaseline

end Lota.L2

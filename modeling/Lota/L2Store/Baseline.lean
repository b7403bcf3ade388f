import Lota.Core.Clock
import Lota.L1Wire.Report

/-!
# Baselines in memory (`verifier/verify/baseline.go`)

Trust on first use: the first attestation of a client pins its PCR 14, its
agent hash and its boot registers PCR 0, 1 and 7; later ones are compared.
The in-memory store keeps two maps, one for `ClientBaseline` and one for
`BootBaseline`, and takes an all-zero agent hash for "not pinned".

Every call gets the clock reading it would take.

* `checkAndUpdateAttestation_cases`: everything the combined call can do.
-/
namespace Lota.L2.Baseline
open Lota.Core Lota.L1.Report

/-- mirrors src/verifier/verify/baseline.go:356-382 -/
inductive TOFUResult where
  | firstUse | matched | mismatch | error | legacyBackfill
  deriving DecidableEq, Repr

/-- The results on which a caller refuses. -/
def TOFUResult.refused : TOFUResult → Bool
  | .mismatch | .error => true
  | _ => false

/-- mirrors src/verifier/verify/baseline.go:225-247 -/
structure ClientBaseline where
  pcr14 : Hash
  agentHash : Hash := Blob.zero 32
  firstSeen : Time
  lastSeen : Time
  attestCount : UInt64
  deriving DecidableEq

/-- mirrors src/verifier/verify/baseline.go:258-266 -/
structure BootBaseline where
  pcr0 : Hash
  pcr1 : Hash
  pcr7 : Hash
  firstSeen : Time := zeroTime
  lastSeen : Time := zeroTime
  deriving DecidableEq

/-- The three registers agree; the times do not count. -/
def BootBaseline.SamePCRs (a b : BootBaseline) : Prop :=
  a.pcr0 = b.pcr0 ∧ a.pcr1 = b.pcr1 ∧ a.pcr7 = b.pcr7

instance (a b : BootBaseline) : Decidable (a.SamePCRs b) := inferInstanceAs (Decidable (_ ∧ _ ∧ _))

/-- mirrors src/verifier/verify/baseline.go:309-315 -/
structure AttestationOutcome where
  agentHashResult : TOFUResult := .firstUse
  agentHashBaseline : Option ClientBaseline := none
  bootProvided : Bool
  bootResult : TOFUResult := .firstUse
  bootBaseline : Option BootBaseline := none
  deriving DecidableEq

/-- The two results a caller looks at. -/
def AttestationOutcome.refused (o : AttestationOutcome) : Bool :=
  o.agentHashResult.refused || o.bootResult.refused

/-- The boot half of an outcome says whether boot values were given, and is
not refused when they were not. -/
def AttestationOutcome.BootHalf (boot : Option BootBaseline) (o : AttestationOutcome) : Prop :=
  o.bootProvided = boot.isSome ∧ (boot = none → o.bootResult = .firstUse)

/-- mirrors src/verifier/verify/baseline.go:342-346 -/
structure BaselineStore where
  baselines : GoMap String ClientBaseline := ∅
  bootBaselines : GoMap String BootBaseline := ∅

namespace BaselineStore

/-- mirrors src/verifier/verify/baseline.go:388-416 (`CheckAndUpdate`) -/
def checkAndUpdate (s : BaselineStore) (clientID : String) (pcr14 : Hash) (now : Time) :
    BaselineStore × TOFUResult × Option ClientBaseline :=
  match s.baselines.lookup clientID with
  | none =>
    let baseline : ClientBaseline := { pcr14, firstSeen := now, lastSeen := now, attestCount := 1 }
    ({ s with baselines := s.baselines.insert clientID baseline }, .firstUse, some baseline)
  | some existing =>
    if existing.pcr14 ≠ pcr14 then (s, .mismatch, some existing)
    else
      let updated := { existing with lastSeen := now, attestCount := existing.attestCount + 1 }
      ({ s with baselines := s.baselines.insert clientID updated }, .matched, some updated)

/-- mirrors src/verifier/verify/baseline.go:428-437 (`GetBootBaseline`) -/
def getBootBaseline (s : BaselineStore) (clientID : String) : Option BootBaseline :=
  s.bootBaselines.lookup clientID

/-- mirrors src/verifier/verify/baseline.go:440-444 (`ClearBaseline`) -/
def clearBaseline (s : BaselineStore) (clientID : String) : BaselineStore :=
  { s with baselines := s.baselines.erase clientID }

/-- mirrors src/verifier/verify/baseline.go:493-537 (`CheckAndUpdateAgentHash`) -/
def checkAndUpdateAgentHash (s : BaselineStore) (clientID : String) (currentPCR14 agentHash : Hash)
    (now : Time) : BaselineStore × TOFUResult × Option ClientBaseline :=
  match s.baselines.lookup clientID with
  | none =>
    let b : ClientBaseline :=
      { pcr14 := currentPCR14, agentHash, firstSeen := now, lastSeen := now, attestCount := 1 }
    ({ s with baselines := s.baselines.insert clientID b }, .firstUse, some b)
  | some existing =>
    if existing.agentHash = Blob.zero 32 then
      let updated :=
        { existing with agentHash, lastSeen := now, attestCount := existing.attestCount + 1 }
      ({ s with baselines := s.baselines.insert clientID updated }, .legacyBackfill, some updated)
    else if existing.agentHash ≠ agentHash then (s, .mismatch, some existing)
    else
      let updated := { existing with lastSeen := now, attestCount := existing.attestCount + 1 }
      ({ s with baselines := s.baselines.insert clientID updated }, .matched, some updated)

/-- mirrors src/verifier/verify/baseline.go:542-565 (`CheckAndUpdateBootPCRs`) -/
def checkAndUpdateBootPCRs (s : BaselineStore) (clientID : String) (boot : BootBaseline) (now : Time) :
    BaselineStore × TOFUResult × Option BootBaseline :=
  match s.bootBaselines.lookup clientID with
  | none =>
    let stored := { boot with firstSeen := now, lastSeen := now }
    ({ s with bootBaselines := s.bootBaselines.insert clientID stored }, .firstUse, some stored)
  | some existing =>
    if ¬ existing.SamePCRs boot then (s, .mismatch, some existing)
    else
      let updated := { existing with lastSeen := now }
      ({ s with bootBaselines := s.bootBaselines.insert clientID updated }, .matched, some updated)

/-- The agent hash branch for an existing row; `none` ends the call.
mirrors src/verifier/verify/baseline.go:616-635 -/
def decideAgentHash (existing : ClientBaseline) (agentHash : Hash) : Option TOFUResult :=
  if existing.agentHash = Blob.zero 32 then some .legacyBackfill
  else if existing.agentHash ≠ agentHash then none
  else some .matched

/-- The boot branch for an existing row; a mismatch carries the stored value.
mirrors src/verifier/verify/baseline.go:637-654 -/
def decideBoot (existingBoot : Option BootBaseline) (boot : BootBaseline) :
    TOFUResult × Option BootBaseline :=
  match existingBoot with
  | none => (.firstUse, none)
  | some stored => if ¬ stored.SamePCRs boot then (.mismatch, some stored) else (.matched, none)

/-- The commit phase: both components passed.
mirrors src/verifier/verify/baseline.go:656-682 -/
def commitAttestation (s : BaselineStore) (clientID : String) (existing : ClientBaseline)
    (agentHash : Hash)
    (boot : Option BootBaseline) (agentHashResult bootResult : TOFUResult) (now : Time) :
    BaselineStore × AttestationOutcome :=
  let updated : ClientBaseline :=
    { existing with
      agentHash := if agentHashResult = .legacyBackfill then agentHash else existing.agentHash
      lastSeen := now
      attestCount := existing.attestCount + 1 }
  let s := { s with baselines := s.baselines.insert clientID updated }
  let outcome : AttestationOutcome :=
    { agentHashResult, agentHashBaseline := some updated, bootProvided := boot.isSome, bootResult }
  match boot with
  | none => (s, outcome)
  | some boot =>
    match bootResult, s.bootBaselines.lookup clientID with
    | .firstUse, _ =>
      let stored := { boot with firstSeen := now, lastSeen := now }
      ({ s with bootBaselines := s.bootBaselines.insert clientID stored },
        { outcome with bootBaseline := some stored })
    | .matched, some existingBoot =>
      let updatedBoot := { existingBoot with lastSeen := now }
      ({ s with bootBaselines := s.bootBaselines.insert clientID updatedBoot },
        { outcome with bootBaseline := some updatedBoot })
    | _, _ => (s, outcome)

/-- mirrors src/verifier/verify/baseline.go:577-683 (`CheckAndUpdateAttestation`) -/
def checkAndUpdateAttestation (s : BaselineStore) (clientID : String) (pcr14 agentHash : Hash)
    (boot : Option BootBaseline) (now : Time) : BaselineStore × AttestationOutcome :=
  let outcome : AttestationOutcome := { bootProvided := boot.isSome }
  match s.baselines.lookup clientID with
  | none =>
    let b : ClientBaseline := { pcr14, agentHash, firstSeen := now, lastSeen := now, attestCount := 1 }
    let baselines := s.baselines.insert clientID b
    let outcome := { outcome with agentHashResult := .firstUse, agentHashBaseline := some b }
    match boot with
    | none => ({ s with baselines }, outcome)
    | some boot =>
      -- a boot baseline that is already there is overwritten
      let stored := { boot with firstSeen := now, lastSeen := now }
      ({ baselines, bootBaselines := s.bootBaselines.insert clientID stored },
        { outcome with bootResult := .firstUse, bootBaseline := some stored })
  | some existing =>
    match decideAgentHash existing agentHash with
    | none =>
      (s, { outcome with agentHashResult := .mismatch, agentHashBaseline := some existing,
                         bootResult := if boot.isSome then .error else .firstUse })
    | some agentHashResult =>
      match boot with
      | none => commitAttestation s clientID existing agentHash none agentHashResult .firstUse now
      | some boot =>
        match decideBoot (s.bootBaselines.lookup clientID) boot with
        | (.mismatch, stored) =>
          (s, { outcome with agentHashResult, agentHashBaseline := some existing,
                             bootResult := .mismatch, bootBaseline := stored })
        | (bootResult, _) =>
          commitAttestation s clientID existing agentHash (some boot) agentHashResult bootResult now

/-! ### What the combined call does -/

/-- The write of a combined call that went through: the row carries the
presented agent hash, the boot map the presented registers. -/
structure Wrote (s s' : BaselineStore) (clientID : String) (agentHash : Hash)
    (boot : Option BootBaseline) : Prop where
  row : ∃ b : ClientBaseline, b.agentHash = agentHash ∧ s'.baselines = s.baselines.insert clientID b
  noBoot : boot = none → s'.bootBaselines = s.bootBaselines
  boot : ∀ b, boot = some b →
    ∃ stored : BootBaseline, stored.SamePCRs b ∧
    s'.bootBaselines = s.bootBaselines.insert clientID stored

theorem commitAttestation_wrote (s : BaselineStore) (c : String) {e : ClientBaseline} {a : Hash}
    (boot : Option BootBaseline) {r : TOFUResult} (r' : TOFUResult) (now : Time)
    (hr : r = .legacyBackfill ∨ e.agentHash = a)
    (hb : ∀ b, boot = some b → r' = .firstUse ∨
      r' = .matched ∧ ∃ stored, s.bootBaselines.lookup c = some stored ∧ stored.SamePCRs b) :
    (s.commitAttestation c e a boot r r' now).2.agentHashResult = r ∧
    (s.commitAttestation c e a boot r r' now).2.bootResult = r' ∧
    Wrote s (s.commitAttestation c e a boot r r' now).1 c a boot := by
  have hah : (if r = .legacyBackfill then a else e.agentHash) = a := by
    rcases hr with h | h
    · rw [if_pos h]
    · rw [h, ite_self]
  unfold commitAttestation
  simp only [hah]
  cases boot with
  | none =>
    refine ⟨rfl, rfl, ⟨⟨_, rfl, rfl⟩, fun _ => rfl, ?_⟩⟩
    intro b h
    cases h
  | some b =>
    rcases hb b rfl with h | ⟨h, stored, hl, hs⟩
    · subst h
      refine ⟨rfl, rfl, ⟨⟨_, rfl, rfl⟩, ?_, ?_⟩⟩
      · intro h
        cases h
      · intro b' h
        cases h
        exact ⟨{ b with firstSeen := now, lastSeen := now }, ⟨rfl, rfl, rfl⟩, rfl⟩
    · subst h
      simp only [hl]
      refine ⟨trivial, trivial, ⟨⟨_, rfl, rfl⟩, ?_, ?_⟩⟩
      · intro h
        cases h
      · intro b' h
        cases h
        exact ⟨{ stored with lastSeen := now }, hs, rfl⟩

/-- Everything the combined call can do: refuse and change nothing, or
write both halves. -/
theorem checkAndUpdateAttestation_cases (s : BaselineStore) (c : String) (q a : Hash)
    (boot : Option BootBaseline) (now : Time) :
    let r := s.checkAndUpdateAttestation c q a boot now
    (r.2.refused = true ∧ r.1 = s) ∨ (r.2.refused = false ∧ Wrote s r.1 c a boot) := by
  unfold checkAndUpdateAttestation
  cases he : s.baselines.lookup c with
  | none =>
    right
    cases boot with
    | none =>
      refine ⟨rfl, ⟨⟨_, rfl, rfl⟩, fun _ => rfl, ?_⟩⟩
      intro b h
      cases h
    | some b =>
      refine ⟨rfl, ⟨⟨_, rfl, rfl⟩, ?_, ?_⟩⟩
      · intro h
        cases h
      · intro b' h
        cases h
        exact ⟨{ b with firstSeen := now, lastSeen := now }, ⟨rfl, rfl, rfl⟩, rfl⟩
  | some e =>
    simp only
    cases hd : decideAgentHash e a with
    | none => exact .inl ⟨rfl, rfl⟩
    | some r =>
      have hr : (r = .legacyBackfill ∨ e.agentHash = a) ∧ r.refused = false := by
        unfold decideAgentHash at hd
        split at hd
        · cases hd
          exact ⟨.inl rfl, rfl⟩
        · split at hd
          · cases hd
          · rename_i h
            cases hd
            exact ⟨.inr (not_not.mp h), rfl⟩
      cases boot with
      | none =>
        have hboot : ∀ b, none = some b → TOFUResult.firstUse = .firstUse ∨
            TOFUResult.firstUse = .matched ∧
            ∃ stored, s.bootBaselines.lookup c = some stored ∧ stored.SamePCRs b := fun _ _ => .inl rfl
        obtain ⟨h1, h2, h3⟩ := commitAttestation_wrote s c none .firstUse now hr.1 hboot
        refine .inr ⟨?_, h3⟩
        rw [AttestationOutcome.refused, h1, h2, hr.2]
        rfl
      | some b =>
        have hcommit : ∀ r' : TOFUResult, r'.refused = false → (r' = .firstUse ∨
            r' = .matched ∧ ∃ stored, s.bootBaselines.lookup c = some stored ∧ stored.SamePCRs b) →
            (s.commitAttestation c e a (some b) r r' now).2.refused = false ∧
              Wrote s (s.commitAttestation c e a (some b) r r' now).1 c a (some b) := by
          intro r' hf hr'
          obtain ⟨h1, h2, h3⟩ := commitAttestation_wrote s c (some b) r' now hr.1 (by
            intro b' h
            cases h
            exact hr')
          refine ⟨?_, h3⟩
          rw [AttestationOutcome.refused, h1, h2, hr.2, hf]
          rfl
        simp only
        cases hl : s.bootBaselines.lookup c with
        | none => exact .inr (hcommit .firstUse rfl (.inl rfl))
        | some stored =>
          by_cases hs : stored.SamePCRs b
          · simp only [decideBoot, hs, not_true_eq_false, if_false]
            exact .inr (hcommit .matched rfl (.inr ⟨rfl, stored, hl, hs⟩))
          · simp only [decideBoot, hs, not_false_eq_true, if_true]
            exact .inl ⟨by simp [AttestationOutcome.refused, TOFUResult.refused], trivial⟩

theorem checkAndUpdateAttestation_bootHalf (s : BaselineStore) (c : String) (q a : Hash)
    (boot : Option BootBaseline) (now : Time) :
    (s.checkAndUpdateAttestation c q a boot now).2.BootHalf boot := by
  have hcommit : ∀ (e : ClientBaseline) (r r' : TOFUResult), (boot = none → r' = .firstUse) →
      (s.commitAttestation c e a boot r r' now).2.BootHalf boot := by
    intro e r r' hr
    unfold commitAttestation
    cases boot with
    | none => exact ⟨rfl, fun _ => hr rfl⟩
    | some b =>
      simp only
      split
      · exact ⟨rfl, fun h => by cases h⟩
      · exact ⟨rfl, fun h => by cases h⟩
      · exact ⟨rfl, fun h => by cases h⟩
  unfold checkAndUpdateAttestation
  simp only
  split
  · cases boot with
    | none => exact ⟨rfl, fun _ => rfl⟩
    | some b => exact ⟨rfl, fun _ => rfl⟩
  · split
    · refine ⟨rfl, fun h => ?_⟩
      subst h
      rfl
    · cases boot with
      | none => exact hcommit _ _ _ fun _ => rfl
      | some b =>
        simp only
        split
        · exact ⟨rfl, fun h => by cases h⟩
        · exact hcommit _ _ _ fun h => by cases h

end BaselineStore

end Lota.L2.Baseline

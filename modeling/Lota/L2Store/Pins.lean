import Lota.L2Store.Baseline

/-!
# What a baseline store keeps of one client

`Pins` is the abstract record of one client: the PCR 14 of its first
attestation, the agent hash and the boot registers, each once it is pinned.
The operations are the decisions both stores make, without times, counters
and encodings; `H` is the type of hashes, `B` that of boot registers.

Results:
* `attest_cases`: everything the combined call can do.
* `attest_refused`, `attest_accepted`: it is all or nothing.
* `check_keeps`, `checkAgentHash_keeps`, `checkBoot_keeps`, `attest_keeps`:
  a pin is written once. The combined call needs the boot registers to
  stand in a row, or to be presented again.
-/
namespace Lota.L2
open Lota.L2.Baseline

variable {H B : Type}

@[ext]
structure Pins (H B : Type) where
  pcr14 : Option H := none
  agentHash : Option H := none
  boot : Option B := none
  deriving DecidableEq

/-- What a call reports: the result for the agent hash half, the one for
the boot half, and the values that go with them. -/
@[ext]
structure Verdict (H B : Type) where
  agentHashResult : TOFUResult
  bootResult : TOFUResult
  client : Option (H × Option H)
  boot : Option B
  deriving DecidableEq

def Verdict.refused (v : Verdict H B) : Bool := v.agentHashResult.refused || v.bootResult.refused

namespace Pins

/-- The agent hash is only pinned in a row. -/
def WF (p : Pins H B) : Prop := p.pcr14 = none → p.agentHash = none

/-- PCR 14 alone. -/
def check [DecidableEq H] (p : Pins H B) (pcr14 : H) : Pins H B × TOFUResult × Option (H × Option H) :=
  match p.pcr14 with
  | none => ({ p with pcr14 := some pcr14 }, .firstUse, some (pcr14, p.agentHash))
  | some q => (p, if q = pcr14 then .matched else .mismatch, some (q, p.agentHash))

/-- The agent hash; `pcr14` only fills a new row. -/
def checkAgentHash [DecidableEq H] (p : Pins H B) (pcr14 a : H) :
    Pins H B × TOFUResult × Option (H × Option H) :=
  match p.pcr14, p.agentHash with
  | none, _ => ({ p with pcr14 := some pcr14, agentHash := some a }, .firstUse, some (pcr14, some a))
  | some q, none => ({ p with agentHash := some a }, .legacyBackfill, some (q, some a))
  | some q, some h => (p, if h = a then .matched else .mismatch, some (q, some h))

/-- The boot registers. -/
def checkBoot [DecidableEq B] (p : Pins H B) (b : B) : Pins H B × TOFUResult × Option B :=
  match p.boot with
  | none => ({ p with boot := some b }, .firstUse, some b)
  | some s => (p, if s = b then .matched else .mismatch, some s)

/-- Boot registers are presented and others are pinned. -/
def conflict [DecidableEq B] (p : Pins H B) (boot : Option B) : Bool :=
  match boot, p.boot with
  | some b, some s => s ≠ b
  | _, _ => false

/-- The result of the agent hash half when it agrees. -/
def hashResult (p : Pins H B) : TOFUResult := if p.agentHash.isNone then .legacyBackfill else .matched

/-- The result of the boot half when it agrees. -/
def bootResult (p : Pins H B) (boot : Option B) : TOFUResult :=
  if boot.isSome && p.boot.isSome then .matched else .firstUse

/-- Both halves in one call. -/
def attest [DecidableEq H] [DecidableEq B] (p : Pins H B) (pcr14 a : H) (boot : Option B) :
    Pins H B × Verdict H B :=
  match p.pcr14 with
  | none =>
    ({ pcr14 := some pcr14, agentHash := some a, boot := boot.or p.boot },
      ⟨.firstUse, .firstUse, some (pcr14, some a), boot⟩)
  | some q =>
    if p.agentHash.any (· ≠ a) then
      (p, ⟨.mismatch, if boot.isSome then .error else .firstUse, some (q, p.agentHash), none⟩)
    else if p.conflict boot then (p, ⟨p.hashResult, .mismatch, some (q, p.agentHash), p.boot⟩)
    else
      ({ p with agentHash := some a, boot := boot.or p.boot },
        ⟨p.hashResult, p.bootResult boot, some (q, some a), boot⟩)

/-! ## Pins are written once -/

/-- Nothing that was pinned in `p` is another value in `p'`. -/
structure Keeps (p p' : Pins H B) : Prop where
  row : p.pcr14 ≠ none → p'.pcr14 = p.pcr14
  agentHash : ∀ h, p.agentHash = some h → p'.agentHash = some h
  boot : ∀ b, p.boot = some b → p'.boot = some b

theorem Keeps.refl (p : Pins H B) : Keeps p p := ⟨fun _ => rfl, fun _ h => h, fun _ h => h⟩

theorem Keeps.trans {p p' p'' : Pins H B} (h : Keeps p p') (h' : Keeps p' p'') : Keeps p p'' := by
  refine ⟨fun hr => ?_, fun a ha => h'.agentHash a (h.agentHash a ha),
    fun b hb => h'.boot b (h.boot b hb)⟩
  rw [h'.row (by rwa [h.row hr]), h.row hr]

theorem check_keeps [DecidableEq H] (p : Pins H B) (q : H) : Keeps p (p.check q).1 := by
  unfold check
  split
  · rename_i hp
    exact ⟨fun h => absurd hp h, fun _ h => h, fun _ h => h⟩
  · exact Keeps.refl p

theorem checkAgentHash_keeps [DecidableEq H] {p : Pins H B} (w : p.WF) (q a : H) :
    Keeps p (p.checkAgentHash q a).1 := by
  unfold checkAgentHash
  split
  · rename_i hp
    refine ⟨fun h => absurd hp h, fun h hh => ?_, fun _ h => h⟩
    rw [w hp] at hh; cases hh
  · rename_i ha
    refine ⟨fun _ => rfl, fun h hh => ?_, fun _ h => h⟩
    rw [ha] at hh; cases hh
  · exact Keeps.refl p

theorem checkAgentHash_accepted [DecidableEq H] {p : Pins H B} {q a : H}
    (h : (p.checkAgentHash q a).2.1.refused = false) : (p.checkAgentHash q a).1.agentHash = some a := by
  unfold checkAgentHash at h ⊢
  split
  · rfl
  · rfl
  · rename_i q' h' hp ha
    by_cases he : h' = a
    · rw [ha, he]
    · simp [hp, ha, he, TOFUResult.refused] at h

theorem checkBoot_accepted [DecidableEq B] {p : Pins H B} {b : B}
    (h : (p.checkBoot b).2.1.refused = false) : (p.checkBoot b).1.boot = some b := by
  unfold checkBoot at h ⊢
  split
  · rfl
  · rename_i s hs
    by_cases he : s = b
    · rw [hs, he]
    · simp [hs, he, TOFUResult.refused] at h

theorem checkBoot_keeps [DecidableEq B] (p : Pins H B) (b : B) : Keeps p (p.checkBoot b).1 := by
  unfold checkBoot
  split
  · rename_i hb
    refine ⟨fun _ => rfl, fun _ h => h, fun s hs => ?_⟩
    rw [hb] at hs; cases hs
  · exact Keeps.refl p

/-! ## The combined call -/

theorem hashResult_not_refused (p : Pins H B) : p.hashResult.refused = false := by
  unfold hashResult; split <;> rfl

theorem bootResult_not_refused (p : Pins H B) (boot : Option B) :
    (p.bootResult boot).refused = false := by
  unfold bootResult; split <;> rfl

theorem conflict_none [DecidableEq B] {p : Pins H B} (h : p.boot = none) (boot : Option B) :
    p.conflict boot = false := by
  unfold conflict
  rw [h]
  cases boot <;> rfl

theorem conflict_false [DecidableEq B] {p : Pins H B} {boot : Option B}
    (h : p.conflict boot = false) {b s : B}
    (hb : boot = some b) (hs : p.boot = some s) : s = b := by
  subst hb
  simpa [conflict, hs] using h

variable [DecidableEq H] [DecidableEq B]

/-- Everything the combined call can do: fill a new row, refuse and change
nothing, or write both halves into the row. -/
theorem attest_cases (p : Pins H B) (q a : H) (boot : Option B) :
    (p.pcr14 = none ∧ (p.attest q a boot).2.refused = false ∧
      (p.attest q a boot).1 = ⟨some q, some a, boot.or p.boot⟩) ∨
    (p.pcr14 ≠ none ∧ (p.attest q a boot).2.refused = true ∧ (p.attest q a boot).1 = p) ∨
    (p.pcr14 ≠ none ∧ (∀ h, p.agentHash = some h → h = a) ∧ p.conflict boot = false ∧
      (p.attest q a boot).2.refused = false ∧
      (p.attest q a boot).1 = { p with agentHash := some a, boot := boot.or p.boot }) := by
  unfold attest
  split
  · rename_i hp
    exact .inl ⟨hp, rfl, rfl⟩
  · rename_i q' hp
    have hrow : p.pcr14 ≠ none := by rw [hp]; exact Option.some_ne_none q'
    right
    by_cases hm : p.agentHash.any (· ≠ a) = true
    · rw [if_pos hm]
      exact .inl ⟨hrow, rfl, rfl⟩
    rw [if_neg hm]
    by_cases hc : p.conflict boot = true
    · rw [if_pos hc]
      exact .inl ⟨hrow, by simp [Verdict.refused, TOFUResult.refused], rfl⟩
    rw [if_neg hc]
    refine .inr ⟨hrow, ?_, by simpa using hc, ?_, rfl⟩
    · intro h hh
      simpa [hh] using hm
    · simp [Verdict.refused, hashResult_not_refused, bootResult_not_refused]

/-- The result of the agent hash half depends on the row alone. -/
theorem attest_agentHashResult (p : Pins H B) (q a : H) (boot : Option B) :
    (p.attest q a boot).2.agentHashResult =
      if p.pcr14.isNone then .firstUse else if p.agentHash.any (· ≠ a) then .mismatch
        else p.hashResult := by
  unfold attest
  cases p.pcr14 with
  | none => rfl
  | some q' =>
    simp only [Option.isNone_some, Bool.false_eq_true, if_false]
    split
    · rfl
    · split <;> rfl

/-- A call that presents what is pinned is not refused. -/
theorem attest_not_refused {p : Pins H B} {a : H} {boot : Option B} (q : H)
    (ha : p.pcr14 ≠ none → ∀ h, p.agentHash = some h → h = a)
    (hb : p.pcr14 ≠ none → p.conflict boot = false) : (p.attest q a boot).2.refused = false := by
  unfold attest
  cases hp : p.pcr14 with
  | none => rfl
  | some q' =>
    have hrow : p.pcr14 ≠ none := by rw [hp]; exact Option.some_ne_none q'
    have hany : ¬ p.agentHash.any (· ≠ a) = true := by
      cases hh : p.agentHash with
      | none => simp
      | some h => simp [ha hrow h hh]
    simp only [hb hrow, Bool.false_eq_true, if_false, hany]
    simp [Verdict.refused, hashResult_not_refused, bootResult_not_refused]

theorem attest_refused {p : Pins H B} {q a : H} {boot : Option B}
    (h : (p.attest q a boot).2.refused = true) : (p.attest q a boot).1 = p := by
  rcases attest_cases p q a boot with ⟨-, hr, -⟩ | ⟨-, -, he⟩ | ⟨-, -, -, hr, -⟩
  · rw [hr] at h; cases h
  · exact he
  · rw [hr] at h; cases h

theorem attest_accepted {p : Pins H B} {q a : H} {boot : Option B}
    (h : (p.attest q a boot).2.refused = false) :
    (p.attest q a boot).1.agentHash = some a ∧ (p.attest q a boot).1.boot = boot.or p.boot := by
  rcases attest_cases p q a boot with ⟨-, -, he⟩ | ⟨-, hr, -⟩ | ⟨-, -, -, -, he⟩
  · rw [he]; exact ⟨rfl, rfl⟩
  · rw [hr] at h; cases h
  · rw [he]; exact ⟨rfl, rfl⟩

/-- The row keeps its PCR 14, a new row gets the presented one. -/
theorem attest_pcr14 (p : Pins H B) (q a : H) (boot : Option B) :
    (p.attest q a boot).1.pcr14 = some (p.pcr14.getD q) := by
  rcases attest_cases p q a boot with ⟨hp, -, he⟩ | ⟨hp, -, he⟩ | ⟨hp, -, -, -, he⟩
  · rw [he, hp]; rfl
  · obtain ⟨q', hq⟩ := Option.ne_none_iff_exists'.mp hp
    rw [he, hq]; rfl
  · obtain ⟨q', hq⟩ := Option.ne_none_iff_exists'.mp hp
    rw [he, hq]; rfl

/-- A combined call that goes through presented the pinned agent hash. -/
theorem attest_agrees {p : Pins H B} (w : p.WF) {q a h : H} {boot : Option B}
    (hr : (p.attest q a boot).2.refused = false) (hp : p.agentHash = some h) : h = a := by
  rcases attest_cases p q a boot with ⟨hn, -⟩ | ⟨-, ht, -⟩ | ⟨-, ha, -⟩
  · rw [w hn] at hp; cases hp
  · rw [ht] at hr; cases hr
  · exact ha h hp

theorem attest_keeps {p : Pins H B} (w : p.WF) (q a : H) (boot : Option B)
    (hb : p.pcr14 = none → p.conflict boot = false) : Keeps p (p.attest q a boot).1 := by
  have hor : p.conflict boot = false → ∀ s, p.boot = some s → boot.or p.boot = some s := by
    intro hc s hs
    cases hb' : boot with
    | none => exact hs
    | some b => rw [conflict_false hc hb' hs]; rfl
  rcases attest_cases p q a boot with ⟨hp, -, he⟩ | ⟨-, -, he⟩ | ⟨-, ha, hc, -, he⟩
  · rw [he]
    refine ⟨fun h => absurd hp h, fun h hh => ?_, hor (hb hp)⟩
    rw [w hp] at hh; cases hh
  · rw [he]; exact Keeps.refl p
  · rw [he]
    refine ⟨fun _ => rfl, fun h hh => ?_, hor hc⟩
    rw [ha h hh]

end Pins

end Lota.L2

import Lota.Core.Machine
import Mathlib.Data.Fin.Basic
import Mathlib.Data.List.FinRange
import Mathlib.Data.List.Induction
import Mathlib.Logic.Function.Basic

/-!
# Debounce of the re-measurement (`agent/event.c`)

A protected process that maps code is measured again, but not more often than
once in `LOTA_RT_REMEASURE_COOLDOWN_NS`. `rt_remeasure_due` keeps the time of
the last measurement in one slot per PID. Its loop looks for the PID and at
the same time for a slot to give to a PID that has none: a free one if there
is one, else the one that was measured longest ago.

* `dueLoop_spec`: the loop, with the invariant on its victim.
* `rtRemeasureDue_cases`: what a call does.
* `remeasure_debounced`: over every sequence of calls with a clock that does
  not go back, a PID has at most one slot, an eviction takes a slot with the
  smallest time of a table in use, and two measurements of a PID are apart by
  the cooldown unless its slot was evicted between them.
-/
namespace Lota.L6.Remeasure
open Lota.Core

/-- mirrors include/lota.h:150 -/
abbrev lotaMaxProtectedPids : Nat := 1024

/-- mirrors src/agent/event.c:49 -/
def lotaRtRemeasureCooldownNs : UInt64 := 1000 * 1000 * 1000

/-- mirrors src/agent/event.c:51-55 -/
structure Slot where
  pid : UInt32
  lastNs : UInt64
  used : Bool

abbrev Index := Fin lotaMaxProtectedPids

abbrev Table := Index → Slot

/-- Static storage is zero. -/
def rtRemeasureSeen : Table := fun _ => ⟨0, 0, false⟩

/-- The loop over the indices that are left, and what follows it.
mirrors src/agent/event.c:67-85 -/
def dueLoop (seen : Table) (pid : UInt32) (nowNs : UInt64) :
    (left : List Index) → (victim : Index) → Table × Bool
  | [], victim => (Function.update seen victim ⟨pid, nowNs, true⟩, true)
  | i :: left, victim =>
    if (seen i).used ∧ (seen i).pid = pid then
      if nowNs - (seen i).lastNs < lotaRtRemeasureCooldownNs then (seen, false)
      else (Function.update seen i { seen i with lastNs := nowNs }, true)
    else if (seen victim).used = false then dueLoop seen pid nowNs left victim
    else if (seen i).used = false ∨ (seen i).lastNs < (seen victim).lastNs
    then dueLoop seen pid nowNs left i
    else dueLoop seen pid nowNs left victim

/-- mirrors src/agent/event.c:63-86 -/
def rtRemeasureDue (seen : Table) (pid : UInt32) (nowNs : UInt64) : Table × Bool :=
  dueLoop seen pid nowNs (List.finRange lotaMaxProtectedPids) 0

/-! ## The loop -/

variable {seen : Table} {pid : UInt32} {nowNs : UInt64}

/-- The slot is the PID's. -/
def Holds (seen : Table) (i : Index) (pid : UInt32) : Prop := (seen i).used = true ∧ (seen i).pid = pid

/-- The PID has a slot. -/
def Tracked (seen : Table) (pid : UInt32) : Prop := ∃ i, Holds seen i pid

/-- What the loop knows of its victim after the indices `past`: it is free,
or all these slots are used and none has a smaller time. -/
def VictimOf (seen : Table) (past : List Index) (victim : Index) : Prop :=
  (seen victim).used = false ∨ ∀ j ∈ past, (seen j).used = true ∧ (seen victim).lastNs ≤ (seen j).lastNs

/-- What a call can do. -/
inductive Due (seen : Table) (pid : UInt32) (nowNs : UInt64) : Table × Bool → Prop
  | early (i : Index) (hi : Holds seen i pid)
    (hcool : nowNs - (seen i).lastNs < lotaRtRemeasureCooldownNs) : Due seen pid nowNs (seen, false)
  | again (i : Index) (hi : Holds seen i pid)
    (hcool : lotaRtRemeasureCooldownNs ≤ nowNs - (seen i).lastNs) :
    Due seen pid nowNs (Function.update seen i { seen i with lastNs := nowNs }, true)
  | new (victim : Index) (hnew : ¬Tracked seen pid)
    (hvictim : (seen victim).used = false ∨ ∀ j, (seen j).used = true ∧
      (seen victim).lastNs ≤ (seen j).lastNs) :
    Due seen pid nowNs (Function.update seen victim ⟨pid, nowNs, true⟩, true)

/-- One round that does not find the PID keeps the invariant. -/
theorem VictimOf.next {past : List Index} {victim i : Index} (h : VictimOf seen past victim)
    (hused : (seen victim).used = true)
    (hi : (seen i).used = false ∨ (seen i).lastNs < (seen victim).lastNs) :
    VictimOf seen (past ++ [i]) i := by
  cases hfree : (seen i).used with
  | false => exact .inl hfree
  | true =>
    have hlt : (seen i).lastNs < (seen victim).lastNs := by simpa [hfree] using hi
    refine .inr fun j hj => ?_
    rcases List.mem_append.mp hj with hj | hj
    · obtain hv | hv := h
      · rw [hv] at hused
        cases hused
      · exact ⟨(hv j hj).1, UInt64.le_trans (UInt64.le_of_lt hlt) (hv j hj).2⟩
    · rw [List.mem_singleton.mp hj]
      exact ⟨hfree, UInt64.le_refl _⟩

theorem VictimOf.keep {past : List Index} {victim i : Index} (h : VictimOf seen past victim)
    (hi : (seen victim).used = false ∨
      ((seen i).used = true ∧ (seen victim).lastNs ≤ (seen i).lastNs)) :
    VictimOf seen (past ++ [i]) victim := by
  obtain hfree | hused := hi
  · exact .inl hfree
  · obtain hfree | hv := h
    · exact .inl hfree
    · refine .inr fun j hj => ?_
      rcases List.mem_append.mp hj with hj | hj
      · exact hv j hj
      · rw [List.mem_singleton.mp hj]
        exact hused

/-- Loop lemma: the rounds over `left`, when none of the slots before is the
PID's. -/
theorem dueLoop_spec {past left : List Index} {victim : Index} (hall : ∀ j, j ∈ past ++ left)
    (hpast : ∀ j ∈ past, ¬Holds seen j pid) (hv : VictimOf seen past victim) :
    Due seen pid nowNs (dueLoop seen pid nowNs left victim) := by
  induction left generalizing past victim with
  | nil =>
    rw [List.append_nil] at hall
    have hnew : ¬Tracked seen pid := by
      rintro ⟨j, hj⟩
      exact hpast j (hall j) hj
    refine .new victim hnew ?_
    exact hv.imp_right fun hv j => hv j (hall j)
  | cons i left ih =>
    have hall' : ∀ j, j ∈ (past ++ [i]) ++ left := by simpa using hall
    rw [dueLoop]
    split_ifs with hi hcool hfree hless
    · exact .early i hi hcool
    · exact .again i hi (UInt64.not_lt.mp hcool)
    all_goals
      have hpast' : ∀ j ∈ past ++ [i], ¬Holds seen j pid := by
        intro j hj
        rcases List.mem_append.mp hj with hj | hj
        · exact hpast j hj
        · rw [List.mem_singleton.mp hj]
          exact hi
    · exact ih hall' hpast' (hv.keep (.inl hfree))
    · exact ih hall' hpast' (hv.next (by simpa using hfree) hless)
    · rw [not_or] at hless
      exact ih hall' hpast' (hv.keep (.inr ⟨by simpa using hless.1, UInt64.not_lt.mp hless.2⟩))

theorem rtRemeasureDue_cases (seen : Table) (pid : UInt32) (nowNs : UInt64) :
    Due seen pid nowNs (rtRemeasureDue seen pid nowNs) := by
  have hall : ∀ j : Index, j ∈ [] ++ List.finRange lotaMaxProtectedPids := by
    intro j
    rw [List.nil_append]
    exact List.mem_finRange j
  have hnone : ∀ j ∈ ([] : List Index), ¬Holds seen j pid := fun _ h => absurd h List.not_mem_nil
  have hvictim : VictimOf seen [] 0 := .inr fun _ h => absurd h List.not_mem_nil
  rw [rtRemeasureDue]
  exact dueLoop_spec hall hnone hvictim

/-! ## What a call does to the slots -/

theorem holds_again {i j : Index} {p : UInt32} :
    Holds (Function.update seen i { seen i with lastNs := nowNs }) j p ↔ Holds seen j p := by
  by_cases hj : j = i
  · subst hj
    simp [Holds]
  · simp [Holds, Function.update_of_ne hj]

theorem holds_new {victim j : Index} {p : UInt32} :
    Holds (Function.update seen victim ⟨pid, nowNs, true⟩) j p ↔
      (j = victim ∧ p = pid) ∨ (j ≠ victim ∧ Holds seen j p) := by
  by_cases hj : j = victim
  · subst hj
    simp only [Holds, Function.update_self, true_and, ne_eq, not_true_eq_false, false_and, or_false]
    exact eq_comm
  · simp [Holds, hj]

/-- A PID has at most one slot. -/
def Unique (seen : Table) : Prop := ∀ p i j, Holds seen i p → Holds seen j p → i = j

/-- One call: the PID and the time of the event. -/
structure Call where
  pid : UInt32
  nowNs : UInt64
  deriving DecidableEq

/-- The table, called again and again. -/
def calls : Machine Table Call Bool := ⟨fun seen c => rtRemeasureDue seen c.pid c.nowNs⟩

/-- The call takes the slot of the PID away. -/
def Evicts (seen : Table) (c : Call) (p : UInt32) : Prop :=
  Tracked seen p ∧ ¬Tracked (calls.step seen c).1 p

theorem step_cases (seen : Table) (c : Call) : Due seen c.pid c.nowNs (calls.step seen c) := by
  simp only [calls]
  exact rtRemeasureDue_cases seen c.pid c.nowNs

variable {c : Call}

theorem step_unique (h : Unique seen) (c : Call) : Unique (calls.step seen c).1 := by
  have hstep := step_cases seen c
  generalize calls.step seen c = r at hstep
  cases hstep with
  | early => exact h
  | again i =>
    intro p a b ha hb
    exact h p a b (holds_again.mp ha) (holds_again.mp hb)
  | new victim hnew =>
    intro p a b ha hb
    obtain ⟨rfl, rfl⟩ | ⟨-, ha⟩ := holds_new.mp ha
    · obtain ⟨rfl, -⟩ | ⟨-, hb⟩ := holds_new.mp hb
      · rfl
      · exact absurd ⟨b, hb⟩ hnew
    · obtain ⟨-, rfl⟩ | ⟨-, hb⟩ := holds_new.mp hb
      · exact absurd ⟨a, ha⟩ hnew
      · exact h p a b ha hb

/-- An eviction takes a slot with the smallest time of a table in which every
slot is used. -/
theorem evicts_smallest {p : UInt32} (h : Evicts seen c p) :
    (∀ j, (seen j).used = true) ∧ ∃ i, Holds seen i p ∧ ∀ j, (seen i).lastNs ≤ (seen j).lastNs := by
  obtain ⟨⟨i, hi⟩, hgone⟩ := h
  have hstep := step_cases seen c
  generalize calls.step seen c = r at hstep hgone
  cases hstep with
  | early => exact absurd ⟨i, hi⟩ hgone
  | again => exact absurd ⟨i, holds_again.mpr hi⟩ hgone
  | new victim hnew hvictim =>
    have hiv : i = victim := by
      by_contra hne
      exact hgone ⟨i, holds_new.mpr (.inr ⟨hne, hi⟩)⟩
    subst hiv
    obtain hfree | hmin := hvictim
    · rw [hi.1] at hfree
      cases hfree
    · exact ⟨fun j => (hmin j).1, i, hi, fun j => (hmin j).2⟩

/-! ## Times -/

/-- The times in the table are times of calls. -/
def Recorded (cs : List Call) (seen : Table) : Prop :=
  ∀ i, (seen i).used = true → ∃ c ∈ cs, (seen i).lastNs = c.nowNs

theorem recorded_update {cs : List Call} (h : Recorded cs seen) (i : Index) {s : Slot}
    (hs : s.lastNs = c.nowNs) : Recorded (cs ++ [c]) (Function.update seen i s) := by
  intro j hj
  by_cases hji : j = i
  · subst hji
    rw [Function.update_self]
    exact ⟨c, by simp, hs⟩
  · rw [Function.update_of_ne hji] at hj ⊢
    obtain ⟨c', hc', ht⟩ := h j hj
    exact ⟨c', List.mem_append_left _ hc', ht⟩

theorem step_recorded {cs : List Call} (h : Recorded cs seen) (c : Call) :
    Recorded (cs ++ [c]) (calls.step seen c).1 := by
  have hstep := step_cases seen c
  generalize calls.step seen c = r at hstep
  cases hstep with
  | early =>
    intro j hj
    obtain ⟨c', hc', ht⟩ := h j hj
    exact ⟨c', List.mem_append_left _ hc', ht⟩
  | again i => exact recorded_update h i rfl
  | new victim => exact recorded_update h victim rfl

/-- The PID has a slot with a time from `since` on. -/
def MeasuredSince (seen : Table) (p : UInt32) (since : UInt64) : Prop :=
  ∃ i, Holds seen i p ∧ since ≤ (seen i).lastNs

/-- A call that returns true leaves its time in the slot of its PID. -/
theorem measured_of_due (h : (calls.step seen c).2 = true) :
    MeasuredSince (calls.step seen c).1 c.pid c.nowNs := by
  have hstep := step_cases seen c
  generalize calls.step seen c = r at hstep h
  cases hstep with
  | early => cases h
  | again i hi => exact ⟨i, holds_again.mpr hi, by simp⟩
  | new victim => exact ⟨victim, holds_new.mpr (.inl ⟨rfl, rfl⟩), by simp⟩

/-- Step lemma: a later call keeps it, unless it evicts the slot. -/
theorem step_measured {p : UInt32} {since : UInt64} (hu : Unique seen)
    (h : MeasuredSince seen p since) (hnow : since ≤ c.nowNs)
    (hkeep : ¬Evicts seen c p) : MeasuredSince (calls.step seen c).1 p since := by
  obtain ⟨i, hi, hle⟩ := h
  have htracked : Tracked (calls.step seen c).1 p := by
    by_contra hgone
    exact hkeep ⟨⟨i, hi⟩, hgone⟩
  have hstep := step_cases seen c
  generalize calls.step seen c = r at hstep htracked
  cases hstep with
  | early => exact ⟨i, hi, hle⟩
  | again a ha =>
    refine ⟨i, holds_again.mpr hi, ?_⟩
    by_cases hia : i = a
    · subst hia
      simpa using hnow
    · simpa [hia] using hle
  | new victim hnew =>
    obtain ⟨j, hj⟩ := htracked
    obtain ⟨-, rfl⟩ | ⟨hne, hj⟩ := holds_new.mp hj
    · exact absurd ⟨i, hi⟩ hnew
    · by_cases hiv : i = victim
      · exact absurd ((hu p j i hj hi).trans hiv) hne
      · exact ⟨i, holds_new.mpr (.inr ⟨hiv, hi⟩), by simpa [hiv] using hle⟩

/-! ## Runs -/

/-- The table after a sequence of calls. -/
def reached (cs : List Call) : Table := calls.run rtRemeasureSeen cs

theorem reached_snoc (cs : List Call) (c : Call) :
    reached (cs ++ [c]) = (calls.step (reached cs) c).1 := by
  rw [reached, Machine.run_append]
  rfl

/-- Run lemma: every PID has at most one slot, and every time is the time of a
call. -/
theorem reached_inv (cs : List Call) : Unique (reached cs) ∧ Recorded cs (reached cs) := by
  induction cs using List.reverseRecOn with
  | nil =>
    constructor
    · intro p i j hi
      exact absurd hi.1 (by simp [reached, Machine.run, rtRemeasureSeen])
    · intro i hi
      exact absurd hi (by simp [reached, Machine.run, rtRemeasureSeen])
  | append_singleton cs c ih =>
    rw [reached_snoc]
    exact ⟨step_unique ih.1 c, step_recorded ih.2 c⟩

/-- Run lemma: the slot of a measured PID stays, with a time that does not go
back, through calls that do not evict it. -/
theorem run_measured {p : UInt32} {since : UInt64} (cs mid : List Call)
    (h : MeasuredSince (reached cs) p since)
    (hnow : ∀ c ∈ mid, since ≤ c.nowNs)
    (hkeep : ∀ mid₁ c mid₂, mid = mid₁ ++ c :: mid₂ → ¬Evicts (reached (cs ++ mid₁)) c p) :
    MeasuredSince (reached (cs ++ mid)) p since := by
  induction mid using List.reverseRecOn with
  | nil => simpa using h
  | append_singleton mid c ih =>
    have hmid : MeasuredSince (reached (cs ++ mid)) p since := by
      refine ih (fun x hx => hnow x (List.mem_append_left _ hx)) fun mid₁ x mid₂ heq => ?_
      exact hkeep mid₁ x (mid₂ ++ [c]) (by simp [heq])
    rw [← List.append_assoc, reached_snoc]
    exact step_measured (reached_inv _).1 hmid (hnow c (by simp)) (hkeep mid c [] rfl)

/-- A call that returns true although its PID has a slot comes at least the
cooldown after the time in it. -/
theorem cooldown_of_due {since : UInt64} (hu : Unique seen) (h : MeasuredSince seen c.pid since)
    (hpast : ∀ i, (seen i).used = true → (seen i).lastNs ≤ c.nowNs)
    (hdue : (calls.step seen c).2 = true) :
    since.toNat + lotaRtRemeasureCooldownNs.toNat ≤ c.nowNs.toNat := by
  obtain ⟨i, hi, hle⟩ := h
  have hstep := step_cases seen c
  generalize calls.step seen c = r at hstep hdue
  cases hstep with
  | early => cases hdue
  | again a ha hcool =>
    obtain rfl := hu c.pid i a hi ha
    have hlast := hpast i hi.1
    rw [UInt64.le_iff_toNat_le, UInt64.toNat_sub_of_le _ _ hlast] at hcool
    rw [UInt64.le_iff_toNat_le] at hle hlast
    omega
  | new victim hnew => exact absurd ⟨i, hi⟩ hnew

/-- **Debounce of the re-measurement.** Over every sequence of calls whose
times do not go back: each PID has at most one slot; a call takes a slot away
only when every slot is used, and then one with the smallest time; and of two
calls for one PID that both return true, the second comes at least the
cooldown after the first, unless a call between them took the slot of the PID
away. -/
theorem remeasure_debounced (cs : List Call) (hclock : cs.Pairwise fun a b => a.nowNs ≤ b.nowNs) :
    Unique (reached cs) ∧
    (∀ pre c post p, cs = pre ++ c :: post → Evicts (reached pre) c p →
      (∀ j, (reached pre j).used = true) ∧
        ∃ i, Holds (reached pre) i p ∧ ∀ j, (reached pre i).lastNs ≤ (reached pre j).lastNs) ∧
    ∀ pre a mid b post, cs = pre ++ a :: (mid ++ b :: post) → b.pid = a.pid →
      (calls.step (reached pre) a).2 = true → (calls.step (reached (pre ++ a :: mid)) b).2 = true →
      a.nowNs.toNat + lotaRtRemeasureCooldownNs.toNat ≤ b.nowNs.toNat ∨
        ∃ mid₁ c mid₂, mid = mid₁ ++ c :: mid₂ ∧ Evicts (reached (pre ++ a :: mid₁)) c a.pid := by
  refine ⟨(reached_inv cs).1, fun _ _ _ _ _ h => evicts_smallest h, ?_⟩
  intro pre a mid b post hcs hpid hdueA hdueB
  rw [or_iff_not_imp_right]
  intro hkeep
  obtain ⟨-, hlater, hpre⟩ := List.pairwise_append.mp (hcs ▸ hclock)
  obtain ⟨hlaterA, hlater⟩ := List.pairwise_cons.mp hlater
  obtain ⟨-, -, hmidB⟩ := List.pairwise_append.mp hlater
  have hcons (l : List Call) : pre ++ a :: l = (pre ++ [a]) ++ l := by simp
  have hmeasured : MeasuredSince (reached (pre ++ a :: mid)) b.pid a.nowNs := by
    rw [hcons, hpid]
    refine run_measured (pre ++ [a]) mid ?_ (fun c hc => hlaterA c (by simp [hc]))
      fun mid₁ c mid₂ heq hev => ?_
    · rw [reached_snoc]
      exact measured_of_due hdueA
    · exact hkeep ⟨mid₁, c, mid₂, heq, by rwa [hcons]⟩
  have hpast : ∀ i, (reached (pre ++ a :: mid) i).used = true →
      (reached (pre ++ a :: mid) i).lastNs ≤ b.nowNs := by
    intro i hi
    obtain ⟨c, hc, ht⟩ := (reached_inv _).2 i hi
    rw [ht]
    rcases List.mem_append.mp hc with hc | hc
    · exact hpre c hc b (by simp)
    · rcases List.mem_cons.mp hc with rfl | hc
      · exact hlaterA b (by simp)
      · exact hmidB c hc b (by simp)
  exact cooldown_of_due (reached_inv _).1 hmeasured hpast hdueB

/-- A PID without a slot is always measured. -/
theorem due_of_untracked (h : ¬Tracked seen c.pid) : (calls.step seen c).2 = true := by
  have hstep := step_cases seen c
  generalize calls.step seen c = r at hstep
  cases hstep with
  | early i hi => exact absurd ⟨i, hi⟩ h
  | again => rfl
  | new => rfl

/-- The first event of a process is measured, and one that follows within a
second is not. -/
theorem remeasure_debounced_burst :
    (calls.step (reached []) ⟨7, 0⟩).2 = true ∧
    (calls.step (reached [⟨7, 0⟩]) ⟨7, 999999999⟩).2 = false := by
  have hfirst : (calls.step (reached []) ⟨7, 0⟩).2 = true := by
    refine due_of_untracked ?_
    rintro ⟨i, hi⟩
    exact absurd hi.1 (by simp [reached, Machine.run, rtRemeasureSeen])
  refine ⟨hfirst, ?_⟩
  rw [Bool.eq_false_iff]
  intro hsecond
  have h :=
    (remeasure_debounced [⟨7, 0⟩, ⟨7, 999999999⟩] (by simp)).2.2 [] _ [] _ [] rfl rfl hfirst hsecond
  obtain hle | ⟨_, _, _, hnil, -⟩ := h
  · exact absurd hle (by decide)
  · simp at hnil

end Lota.L6.Remeasure

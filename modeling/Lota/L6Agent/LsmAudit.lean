import Lota.L6Agent.LsmHooks
import Mathlib.Data.List.Sublists

/-!
# The trail of the LSM programs (`bpf/lota_lsm.bpf.c`)

The programs, user space that writes the policy maps, and the consumer of the
ring buffer take turns in any order, one at a time: the addition to the budget
is not atomic, and two programs that run at once may both count one. The trail
is what the consumer has taken followed by what is in the ring. The refusals
it can tell of are those of the programs that record them (`Call.refusal`).

The comment above `should_emit_event` says what the budget is for: a flood of
allowed requests must not push the records of refusals out of the ring. The
ring holds 744 records. The budget lets 256 pass in a window, and at most two
windows meet one second.

* `Kept.trans`, `step_kept`: what one step adds to the trail.
* `audit_trail`: over every run the trail grows by the records of the refusals
  in their order, except for those counted as dropped.
* `flood_cannot_drop`: under enforcement nothing is dropped, whatever is
  allowed, while the consumer empties the ring once a second and no more than
  232 records that are not budgeted come in between.
-/
namespace Lota.L6.Lsm
open Lota.Core Lota.L6.Protect Lota.L6.MemoryHooks

/-! ## The system -/

structure State where
  policy : Policy
  protectedPids : ProtectedPids
  audit : Audit

inductive Input where
  | call (c : Caller) (k : Call)
  | taskFree (task : Option Task)
  /-- User space writes the maps that decide. -/
  | setMaps (policy : Policy) (protectedPids : ProtectedPids)
  /-- The consumer takes the `n` oldest records at `now`. -/
  | consume (now : UInt64) (n : Nat)

def consume (n : Nat) (a : Audit) : Audit :=
  { a with ring := a.ring.drop n, delivered := a.delivered ++ a.ring.take n }

def step (s : State) : Input → State × Option Verdict
  | .call c k =>
    let (audit, verdict) := call s.policy s.protectedPids c s.audit k
    ({ s with audit }, some verdict)
  | .taskFree task => ({ s with protectedPids := lotaTaskFree s.protectedPids task }, none)
  | .setMaps policy protectedPids => ({ s with policy, protectedPids }, none)
  | .consume _ n => ({ s with audit := consume n s.audit }, none)

def lsm : Machine State Input (Option Verdict) := ⟨step⟩

/-- The refusal of a step, if the step is one. -/
def refused : Input × Option Verdict → Option Denial
  | (.call c k, some v) => denial c k v
  | _ => none

/-- The refusals of a run by programs that record them, in their order. -/
def denials (s : State) (is : List Input) : List Denial := (lsm.hist s is).filterMap refused

/-! ## The trail -/

def Journal.trail (j : Journal) : List ExecEvent := j.delivered ++ j.ring

/-- The trail grows at its end, with `d` records lost. Its new records of
refusals are some of `ds`, in their order, and no more than `d` are missing. -/
def Kept (d : Nat) (j j' : Journal) (ds : List Denial) : Prop :=
  ∃ new, j'.trail = j.trail ++ new ∧ j'.sent = j.sent + UInt64.ofNat new.length ∧
    j'.drops = j.drops + UInt64.ofNat d ∧
    (new.filterMap ExecEvent.denial).Sublist ds ∧
    ds.length ≤ (new.filterMap ExecEvent.denial).length + d

theorem Kept.refl (j : Journal) : Kept 0 j j [] := ⟨[], by simp [Journal.trail]⟩

theorem Kept.trans {d₁ d₂ : Nat} {j₁ j₂ j₃ : Journal} {ds₁ ds₂ : List Denial} (h₁ : Kept d₁ j₁ j₂ ds₁)
    (h₂ : Kept d₂ j₂ j₃ ds₂) : Kept (d₁ + d₂) j₁ j₃ (ds₁ ++ ds₂) := by
  obtain ⟨new₁, ht₁, hs₁, hd₁, hsub₁, hlen₁⟩ := h₁
  obtain ⟨new₂, ht₂, hs₂, hd₂, hsub₂, hlen₂⟩ := h₂
  refine ⟨new₁ ++ new₂, ?_, ?_, ?_, ?_, ?_⟩
  · rw [ht₂, ht₁, List.append_assoc]
  · rw [hs₂, hs₁, List.length_append, UInt64.ofNat_add, UInt64.add_assoc]
  · rw [hd₂, hd₁, UInt64.ofNat_add, UInt64.add_assoc]
  · rw [List.filterMap_append]
    exact hsub₁.append hsub₂
  · rw [List.filterMap_append, List.length_append, List.length_append]
    omega

theorem kept_submit_room {j : Journal} (event : ExecEvent) (h : hasRoom j.ring = true) :
    Kept 0 j (j.submit event) event.denial.toList := by
  unfold Journal.submit
  rw [if_pos h]
  refine ⟨[event], ?_⟩
  cases hd : event.denial <;> simp [Journal.trail, hd]

theorem kept_submit (j : Journal) (event : ExecEvent) :
    ∃ d, Kept d j (j.submit event) event.denial.toList := by
  by_cases h : hasRoom j.ring = true
  · exact ⟨0, kept_submit_room event h⟩
  · refine ⟨1, [], ?_⟩
    unfold Journal.submit
    rw [if_neg h]
    cases hd : event.denial <;> simp [Journal.trail]

/-- An attempt that may be suppressed is not one of a refusal. -/
theorem kept_attempts (j : Journal) (now : UInt64) {t : Option Attempt}
    (h : ∀ x, t = some x → x.budgeted = true → x.event.denial = none) :
    ∃ d, Kept d j (j.attempts now t) (t.bind (·.event.denial)).toList := by
  cases t with
  | none => exact ⟨0, .refl j⟩
  | some x =>
    show ∃ d, Kept d j (j.attempt now x) x.event.denial.toList
    unfold Journal.attempt
    split
    · rename_i hb
      cases j.eventBudget.take now with
      | none =>
        rw [h x rfl hb]
        exact ⟨0, .refl j⟩
      | some b => exact kept_submit { j with eventBudget := b } x.event
    · exact kept_submit j x.event

/-- `call_records` with what its last part says of refusals. -/
theorem call_attempt (p : Policy) (protectedPids : ProtectedPids) (c : Caller) (a : Audit) (k : Call) :
    ∃ t : Option Attempt, (call p protectedPids c a k).1.journal = a.journal.attempts c.now t ∧
      denial c k (call p protectedPids c a k).2 = t.bind (·.event.denial) ∧
      (∀ x, t = some x → x.budgeted =
        decide (mode p = modeEnforce ∧ urgent c k (call p protectedPids c a k).2 = false)) ∧
      ∀ x, t = some x → x.budgeted = true → x.event.denial = none := by
  have hrec : Records p c k a (call p protectedPids c a k) := call_records k
  obtain ⟨t, hj, hd, hb⟩ := hrec.attempt
  refine ⟨t, hj, hd, hb, ?_⟩
  intro x hx hbudget
  have hquiet := of_decide_eq_true ((hb x hx).symm.trans hbudget)
  have hsome : (denial c k (call p protectedPids c a k).2).isSome = false :=
    (Bool.or_eq_false_iff.mp hquiet.2).1
  rw [Option.isSome_eq_false_iff, Option.isNone_iff_eq_none] at hsome
  rw [hsome, hx] at hd
  exact hd.symm

theorem kept_consume (a : Audit) (n : Nat) : Kept 0 a.journal (consume n a).journal [] := by
  refine ⟨[], ?_, ?_⟩
  · show (a.delivered ++ a.ring.take n) ++ a.ring.drop n = a.delivered ++ a.ring ++ []
    rw [List.append_assoc, List.take_append_drop, List.append_nil]
  · simp [consume, Audit.journal]

/-- **Step.** -/
theorem step_kept (s : State) (i : Input) :
    ∃ d, Kept d s.audit.journal (lsm.step s i).1.audit.journal
    (refused (i, (lsm.step s i).2)).toList := by
  cases i with
  | call c k =>
    obtain ⟨t, hj, hd, -, hb⟩ := call_attempt s.policy s.protectedPids c s.audit k
    show ∃ d, Kept d s.audit.journal (call s.policy s.protectedPids c s.audit k).1.journal
      (denial c k (call s.policy s.protectedPids c s.audit k).2).toList
    rw [hj, hd]
    exact kept_attempts _ _ hb
  | taskFree task => exact ⟨0, .refl _⟩
  | setMaps policy protectedPids => exact ⟨0, .refl _⟩
  | consume now n => exact ⟨0, kept_consume s.audit n⟩

theorem denials_cons (s : State) (i : Input) (is : List Input) :
    denials s (i :: is) = (refused (i, (lsm.step s i).2)).toList ++ denials (lsm.step s i).1 is := by
  unfold denials
  rw [Machine.hist, List.filterMap_cons]
  cases refused (i, (lsm.step s i).2) <;> rfl

/-- **Run.** -/
theorem run_kept (s : State) (is : List Input) :
    ∃ d, Kept d s.audit.journal (lsm.run s is).audit.journal (denials s is) := by
  induction is generalizing s with
  | nil => exact ⟨0, .refl _⟩
  | cons i is ih =>
    obtain ⟨d₁, h₁⟩ := step_kept s i
    obtain ⟨d₂, h₂⟩ := ih (lsm.step s i).1
    rw [denials_cons]
    exact ⟨d₁ + d₂, h₁.trans h₂⟩

/-- **The trail.** Whatever the programs are asked, whoever writes the maps and
whenever the consumer runs, the trail grows at its end by `new`. The records of
refusals in it are records of refusals that happened, in their order; the
counters tell how many records were made and, with `d`, how many were not; and
if none was lost the trail tells of every refusal by a program that records
its refusals. -/
theorem audit_trail (s : State) (is : List Input) :
    ∃ new d, (lsm.run s is).audit.journal.trail = s.audit.journal.trail ++ new ∧
      (lsm.run s is).audit.stats .eventsSent = s.audit.stats .eventsSent + UInt64.ofNat new.length ∧
      (lsm.run s is).audit.stats .ringbufDrops = s.audit.stats .ringbufDrops + UInt64.ofNat d ∧
      (new.filterMap ExecEvent.denial).Sublist (denials s is) ∧
      (denials s is).length ≤ (new.filterMap ExecEvent.denial).length + d ∧
      (d = 0 → new.filterMap ExecEvent.denial = denials s is) := by
  obtain ⟨d, new, htrail, hsent, hdrops, hsub, hlen⟩ := run_kept s is
  refine ⟨new, d, htrail, hsent, hdrops, hsub, hlen, ?_⟩
  rintro rfl
  exact hsub.eq_of_length_le hlen

/-! ## A flood -/

def nsecPerSec : Nat := 1000000000

/-- How many records that are not budgeted may come between two visits of the
consumer. -/
def urgentRoom : Nat := 232

/-- The clock does not go back, every request comes less than a second after
the consumer has emptied the ring, at `drained`, and no more than `urgentRoom`
urgent records come in between, `n` of them so far. User space does not leave
enforcement. -/
def Paced (s : State) (drained last n : Nat) : List Input → Prop
  | [] => True
  | .call c k :: is =>
    let s' := (step s (.call c k)).1
    let n' := n + (if urgent c k (call s.policy s.protectedPids c s.audit k).2 then 1 else 0)
    last ≤ c.now.toNat ∧ c.now.toNat < drained + nsecPerSec ∧ n' ≤ urgentRoom ∧
      Paced s' drained c.now.toNat n' is
  | .taskFree task :: is => Paced (step s (.taskFree task)).1 drained last n is
  | .setMaps policy protectedPids :: is =>
    mode policy = modeEnforce ∧ Paced (step s (.setMaps policy protectedPids)).1 drained last n is
  | .consume now k :: is =>
    let s' := (step s (.consume now k)).1
    last ≤ now.toNat ∧
      if s'.audit.ring = [] then Paced s' now.toNat now.toNat 0 is else Paced s' drained now.toNat n is

/-- Of the `ring.length` records at most `n` are urgent and `b` budgeted. The
window began before the ring was emptied and counts all `b`, or after and is
the second to meet this second. -/
structure Roomy (b : EventBudget) (length drained last n : Nat) : Prop where
  start : b.windowStartNs.toNat ≤ last
  emitted : b.emitted.toNat ≤ 256
  length : ∃ m, length ≤ n + m ∧
    (m ≤ b.emitted.toNat ∨ (drained ≤ b.windowStartNs.toNat ∧ m ≤ 256 + b.emitted.toNat))

section
variable {b b' : EventBudget} {len drained last n : Nat} {now : UInt64}

/-- A budgeted record: counted in the window, or the first of the next one,
which is then the last to meet this second. -/
theorem Roomy.take (h : Roomy b len drained last n) (hdrained : drained ≤ last)
    (hlast : last ≤ now.toNat)
    (hsec : now.toNat < drained + nsecPerSec) (htake : b.take now = some b') :
    Roomy b' (len + 1) drained now.toNat n := by
  obtain ⟨hstart, hemitted, m, hlen, hm⟩ := h
  have hns : windowNs.toNat = 1000000000 := rfl
  have hbudget : allowEventBudgetPerSec.toNat = 256 := rfl
  unfold nsecPerSec at hsec
  unfold EventBudget.take at htake
  split at htake
  · -- the window is over, so it began before the ring was emptied
    rename_i hover
    cases htake
    have hold : b.windowStartNs.toNat + 1000000000 ≤ now.toNat := by
      rcases hover with hback | hover
      · rw [UInt64.lt_iff_toNat_lt] at hback
        omega
      · rw [UInt64.le_iff_toNat_le,
          UInt64.toNat_sub_of_le _ _ (UInt64.le_iff_toNat_le.mpr (by omega)), hns] at hover
        omega
    have hone : (1 : UInt32).toNat ≤ 256 := by decide
    refine ⟨Nat.le_refl _, hone, m + 1, by omega, .inr ⟨?_, ?_⟩⟩
    · show drained ≤ now.toNat
      omega
    · show m + 1 ≤ 256 + 1
      rcases hm with hm | ⟨hw, -⟩
      · omega
      · omega
  · split at htake
    · cases htake
    · rename_i hspent
      cases htake
      rw [UInt32.le_iff_toNat_le, hbudget] at hspent
      have hcount : (b.emitted + 1).toNat = b.emitted.toNat + 1 := by
        rw [UInt32.toNat_add, UInt32.toNat_one]
        omega
      refine ⟨?_, ?_, m + 1, by omega, ?_⟩
      · show b.windowStartNs.toNat ≤ now.toNat
        omega
      · show (b.emitted + 1).toNat ≤ 256
        omega
      · show m + 1 ≤ (b.emitted + 1).toNat ∨
            (drained ≤ b.windowStartNs.toNat ∧ m + 1 ≤ 256 + (b.emitted + 1).toNat)
        rw [hcount]
        rcases hm with hm | ⟨hw, hm⟩
        · exact .inl (by omega)
        · exact .inr ⟨hw, by omega⟩

theorem Roomy.urgent (h : Roomy b len drained last n) (hlast : last ≤ now.toNat) :
    Roomy b (len + 1) drained now.toNat (n + 1) := by
  obtain ⟨hstart, hemitted, m, hlen, hm⟩ := h
  exact ⟨by omega, hemitted, m, by omega, hm⟩

/-- Room for the record that makes the ring so long. -/
theorem Roomy.hasRoom {ring : List ExecEvent} (h : Roomy b (ring.length + 1) drained last n)
    (hn : n ≤ urgentRoom) : hasRoom ring = true := by
  obtain ⟨-, hemitted, m, hlen, hm⟩ := h
  have hsize : recordSize = 352 := rfl
  unfold urgentRoom at hn
  unfold Lsm.hasRoom ringbufSize
  rw [hsize]
  apply decide_eq_true
  omega

theorem Roomy.submit {j : Journal} {event : ExecEvent}
    (h : Roomy j.eventBudget (j.ring.length + 1) drained last n)
    (hn : n ≤ urgentRoom) :
    Roomy (j.submit event).eventBudget (j.submit event).ring.length drained last n := by
  unfold Journal.submit
  rw [if_pos (h.hasRoom hn)]
  simpa using h

/-- An attempt finds room, and leaves the next one its chance. -/
theorem attempts_roomy {j : Journal} {t : Option Attempt} {u : Bool}
    (h : Roomy j.eventBudget j.ring.length drained last n)
    (hdrained : drained ≤ last) (hlast : last ≤ now.toNat) (hsec : now.toNat < drained + nsecPerSec)
    (hn : n + (if u then 1 else 0) ≤ urgentRoom) (ht : ∀ x, t = some x → x.budgeted = !u)
    (hquiet : ∀ x, t = some x → x.budgeted = true → x.event.denial = none) :
    Kept 0 j (j.attempts now t) (t.bind (·.event.denial)).toList ∧
      Roomy (j.attempts now t).eventBudget (j.attempts now t).ring.length drained now.toNat
        (n + (if u then 1 else 0)) := by
  have hmore : ∀ {k}, n ≤ k → Roomy j.eventBudget j.ring.length drained now.toNat k := by
    intro k hk
    obtain ⟨hstart, hemitted, m, hlen, hm⟩ := h
    exact ⟨by omega, hemitted, m, by omega, hm⟩
  cases t with
  | none => exact ⟨.refl j, hmore (Nat.le_add_right n _)⟩
  | some x =>
    show Kept 0 j (j.attempt now x) x.event.denial.toList ∧
      Roomy (j.attempt now x).eventBudget (j.attempt now x).ring.length drained now.toNat
      (n + (if u then 1 else 0))
    unfold Journal.attempt
    cases u with
    | true =>
      have hx : x.budgeted = false := ht x rfl
      have hroom := h.urgent hlast
      rw [if_neg (by rw [hx]; exact Bool.noConfusion)]
      exact ⟨kept_submit_room _ (hroom.hasRoom hn), hroom.submit hn⟩
    | false =>
      have hx : x.budgeted = true := ht x rfl
      rw [if_pos hx]
      cases htake : j.eventBudget.take now with
      | none =>
        simp only
        rw [hquiet x rfl hx]
        exact ⟨.refl j, hmore (Nat.le_add_right n _)⟩
      | some b =>
        simp only
        have hroom := h.take hdrained hlast hsec htake
        exact ⟨kept_submit_room (j := { j with eventBudget := b }) _ (hroom.hasRoom hn),
          Roomy.submit (j := { j with eventBudget := b }) hroom hn⟩

end

/-- **Step.** A request under enforcement. -/
theorem call_roomy {s : State} {c : Caller} {k : Call} {drained last n : Nat}
    (hmode : mode s.policy = modeEnforce)
    (hdrained : drained ≤ last) (hroom : Roomy s.audit.eventBudget s.audit.ring.length drained last n)
    (hlast : last ≤ c.now.toNat) (hsec : c.now.toNat < drained + nsecPerSec)
    (hn : n + (if urgent c k (call s.policy s.protectedPids c s.audit k).2 then 1 else 0) ≤
      urgentRoom) :
    Kept 0 s.audit.journal (lsm.step s (.call c k)).1.audit.journal
        (refused (.call c k, (lsm.step s (.call c k)).2)).toList ∧
      Roomy (lsm.step s (.call c k)).1.audit.eventBudget
      (lsm.step s (.call c k)).1.audit.ring.length drained c.now.toNat
        (n + (if urgent c k (call s.policy s.protectedPids c s.audit k).2 then 1 else 0)) := by
  obtain ⟨t, hj, hd, hb, hquiet⟩ := call_attempt s.policy s.protectedPids c s.audit k
  have ht : ∀ x, t = some x →
      x.budgeted = !urgent c k (call s.policy s.protectedPids c s.audit k).2 := by
    intro x hx
    rw [hb x hx, hmode]
    simp
  obtain ⟨hkept, hnext⟩ := attempts_roomy (j := s.audit.journal) hroom hdrained hlast hsec hn ht hquiet
  rw [← hj] at hkept hnext
  rw [← hd] at hkept
  exact ⟨hkept, hnext⟩

/-- **Run.** Under enforcement a paced run loses nothing. -/
theorem paced_kept {s : State} {is : List Input} {drained last n : Nat}
    (hmode : mode s.policy = modeEnforce)
    (hdrained : drained ≤ last) (hroom : Roomy s.audit.eventBudget s.audit.ring.length drained last n)
    (hpaced : Paced s drained last n is) :
    Kept 0 s.audit.journal (lsm.run s is).audit.journal (denials s is) := by
  induction is generalizing s drained last n with
  | nil => exact .refl _
  | cons i is ih =>
    rw [denials_cons]
    cases i with
    | call c k =>
      obtain ⟨hlast, hsec, hn, hrest⟩ := hpaced
      obtain ⟨hkept, hnext⟩ := call_roomy hmode hdrained hroom hlast hsec hn
      exact @Kept.trans 0 0 _ _ _ _ _ hkept (ih hmode (Nat.le_trans hdrained hlast) hnext hrest)
    | taskFree task => exact @Kept.trans 0 0 _ _ _ _ _ (.refl _) (ih hmode hdrained hroom hpaced)
    | setMaps policy protectedPids =>
      exact @Kept.trans 0 0 _ _ _ _ _ (.refl _) (ih hpaced.1 hdrained hroom hpaced.2)
    | consume now k =>
      obtain ⟨hlast, hrest⟩ := hpaced
      refine @Kept.trans 0 0 _ _ _ _ _ (kept_consume s.audit k) ?_
      split at hrest
      · -- emptied: the second starts anew
        rename_i hempty
        refine ih hmode (Nat.le_refl _) ?_ hrest
        refine ⟨Nat.le_trans hroom.start hlast, hroom.emitted, 0, ?_, .inl (Nat.zero_le _)⟩
        show (step s (.consume now k)).1.audit.ring.length ≤ 0 + 0
        rw [hempty]
        exact Nat.le_refl _
      · refine ih hmode (Nat.le_trans hdrained hlast) ?_ hrest
        obtain ⟨hstart, hemitted, m, hlen, hm⟩ := hroom
        refine ⟨Nat.le_trans hstart hlast, hemitted, m, ?_, hm⟩
        show (s.audit.ring.drop k).length ≤ n + m
        rw [List.length_drop]
        omega

/-- **No starvation.** The ring is empty at `drained`, the programs enforce,
and the run is paced from there. However many requests are allowed in it, no
record is dropped, and the trail grows by the records of exactly the refusals
of the run by programs that record them. -/
theorem flood_cannot_drop {s : State} {is : List Input} {drained : Nat}
    (hmode : mode s.policy = modeEnforce)
    (hring : s.audit.ring = []) (hstart : s.audit.eventBudget.windowStartNs.toNat ≤ drained)
    (hemitted : s.audit.eventBudget.emitted ≤ allowEventBudgetPerSec)
    (hpaced : Paced s drained drained 0 is) :
    (lsm.run s is).audit.stats .ringbufDrops = s.audit.stats .ringbufDrops ∧
      ∃ new, (lsm.run s is).audit.journal.trail = s.audit.journal.trail ++ new ∧
        new.filterMap ExecEvent.denial = denials s is := by
  have hroom : Roomy s.audit.eventBudget s.audit.ring.length drained drained 0 := by
    refine ⟨hstart, UInt32.le_iff_toNat_le.mp hemitted, 0, ?_, .inl (Nat.zero_le _)⟩
    rw [hring]
    exact Nat.le_refl _
  obtain ⟨new, htrail, -, hdrops, hsub, hlen⟩ := paced_kept hmode (Nat.le_refl _) hroom hpaced
  exact ⟨hdrops.trans (UInt64.add_zero _), new, htrail, hsub.eq_of_length_le hlen⟩

/-- Everything is enforced; the process of the `task_struct` 1 is the agent. -/
def enforcing : Policy where
  config := fun _ => some 1
  integrityCfg := ⟨0, 0⟩
  lists := { allowVerity := fun _ => none, trustedLibs := fun _ => none }
  trustedLibMnt := fun _ => none
  taskAuth := fun addr => if addr = 1 then some 3 else none

def agentTask : TaskRef :=
  { addr := 1, groupLeader := some 1, task := ⟨90, 90, 5, some 5⟩, comm := ascii "lota-agent" }

def intruder (now : UInt64) : Caller where
  current :=
    some { addr := 2, groupLeader := some 2, task := ⟨200, 200, 9, some 9⟩, comm := ascii "intruder" }
  pid := 200
  tgid := 200
  uid := 0
  gid := 0
  comm := ascii "intruder"
  userNsLevel := some 0
  now := now
  stamp := now

def booted : State :=
  { policy := enforcing, protectedPids := ∅,
    audit := { eventBudget := ⟨0, 0⟩, stats := fun _ => 0, ring := [], delivered := [] } }

/-- An allowed load of data and a signal to the agent, the consumer, and an
attempt to trace the agent. -/
def intrusion : List Input :=
  [.call (intruder 10) (.kernelLoadData (fun _ => none) .x509Certificate),
    .call (intruder 20) (.taskKill (some agentTask) (some 0) 9),
    .consume 30 8, .call (intruder 40) (.ptraceAccessCheck agentTask .allow)]

theorem flood_cannot_drop_intrusion :
    (lsm.run booted intrusion).audit.stats .ringbufDrops = 0 ∧
      ∃ new, (lsm.run booted intrusion).audit.journal.trail = new ∧
        new.filterMap ExecEvent.denial =
        [⟨.killBlocked, 200, 200, 20⟩, ⟨.ptraceBlocked, 200, 200, 40⟩] := by
  have hpaced : Paced booted 0 0 0 intrusion := by
    refine ⟨by decide, by decide, by decide, by decide, by decide, by decide, by decide, ?_⟩
    rw [if_pos (by decide)]
    exact ⟨by decide, by decide, by decide, trivial⟩
  obtain ⟨hdrops, new, htrail, hnew⟩ :=
    @flood_cannot_drop booted _ 0 rfl rfl (by decide) (by decide) hpaced
  refine ⟨hdrops, new, htrail, hnew.trans ?_⟩
  decide

end Lota.L6.Lsm

import Lota.Core.Machine
import Lota.L2Store.Revocation
import Mathlib.Data.List.Induction

/-!
# Revocations, bans and the audit log (`verifier/store`)

A call first changes its store and then writes its audit entry. The memory
stores and `SQLiteRevocationStore` hold a mutex over both; `SQLiteBanStore`
has none, so its calls interleave statement by statement. The calls of both
stores write to one log.

* `add_eq`, `remove_eq`: the atomic calls of `Revocation` are the statements
  run here one after the other.
* `advance_cases`: everything one statement of a call can do.
* `locked_step`: under a mutex a call finds its own write when it logs.
* `audit_agrees_iff`: over every interleaving and every fault, the log tells
  the sets in every state exactly when no step loses an entry or logs it
  after a later change.
* `unban_overtakes_ban`: the two ways it goes wrong.
-/
namespace Lota.L2.Revocation.EntryStore
open Lota.Core

variable {K V : Type} [DecidableEq K]

/-! ## The statements of a call -/

/-- What SQLite says to a second row with the same key. -/
def primaryKeyConflict : String := "UNIQUE constraint failed"

/-- mirrors src/verifier/store/revocation.go:111-113, banlist.go:161-163 and
sqlite_revocation.go:37-45, 146-154 -/
def select (s : EntryStore K V) (f : EnforceFaults) (k : K) (already : String) : Except String Unit :=
  match s with
  | .memory m => if (m.lookup k).isSome then .error already else .ok ()
  | .sqlite t =>
    match f.select with
    | some e => .error e
    | none => if (t.lookup k).isSome then .error already else .ok ()

/-- mirrors src/verifier/store/revocation.go:115-121, banlist.go:165-171 and
sqlite_revocation.go:47-54, 156-163 -/
def insert (s : EntryStore K V) (f : EnforceFaults) (k : K) (entry : V) :
    EntryStore K V × Except String Unit :=
  match s with
  | .memory m => (.memory (m.insert k entry), .ok ())
  | .sqlite t =>
    match f.write with
    | some e => (s, .error e)
    | none =>
      -- the primary key, should another call have inserted since the select
      if (t.lookup k).isSome then (s, .error primaryKeyConflict)
        else (.sqlite (t.insert k entry), .ok ())

/-- mirrors src/verifier/store/revocation.go:147-151, banlist.go:197-201 and
sqlite_revocation.go:87-98, 194-205 -/
def delete (s : EntryStore K V) (f : EnforceFaults) (k : K) (missing rows : String) :
    EntryStore K V × Except String Unit :=
  match s with
  | .memory m => if (m.lookup k).isSome then (.memory (m.erase k), .ok ()) else (s, .error missing)
  | .sqlite t =>
    match f.write with
    | some e => (s, .error e)
    | none =>
      match f.rowsAffected with
      | some e => (.sqlite (t.erase k), .error (rows ++ e))
      | none => if (t.lookup k).isSome then (.sqlite (t.erase k), .ok ()) else (s, .error missing)

/-- **Addition.** `add` is the select, the insert and the audit entry with
nothing in between. -/
theorem add_eq (s : EntryStore K V) (f : EnforceFaults) (k : K) (entry : V) (already : String) :
    s.add f k entry already =
      match s.select f k already with
      | .error e => (s, .error e)
      | .ok () =>
        match s.insert f k entry with
        | (s', .error e) => (s', .error e)
        | (s', .ok ()) => (s', audited f) := by
  cases s with
  | memory m =>
    unfold add select insert
    cases hm : (m.lookup k).isSome <;> simp only [hm, Bool.false_eq_true, if_true, if_false]
  | sqlite t =>
    unfold add select insert
    cases f.select with
    | some e => simp
    | none =>
      cases ht : (t.lookup k).isSome <;> cases f.write <;> simp only [ht, Bool.false_eq_true,
        if_true, if_false]

/-- **Removal.** `remove` is the delete and the audit entry with nothing in
between. -/
theorem remove_eq (s : EntryStore K V) (f : EnforceFaults) (k : K) (missing rows : String) :
    s.remove f k missing rows =
      match s.delete f k missing rows with
      | (s', .error e) => (s', .error e)
      | (s', .ok ()) => (s', audited f) := by
  cases s with
  | memory m =>
    unfold remove delete
    cases hm : (m.lookup k).isSome <;> simp only [hm, Bool.false_eq_true, if_true, if_false]
  | sqlite t =>
    unfold remove delete
    cases f.write with
    | some e => simp
    | none =>
      cases f.rowsAffected with
      | some e => simp
      | none => cases ht : (t.lookup k).isSome <;> simp only [ht, Bool.false_eq_true, if_true, if_false]

def has (s : EntryStore K V) (k : K) : Bool := (s.entries.lookup k).isSome

def isSqlite : EntryStore K V → Bool
  | .memory _ => false
  | .sqlite _ => true

section
variable {s : EntryStore K V} {f : EnforceFaults} {k : K} {entry : V} {already missing rows : String}

theorem select_ok (h : s.select f k already = .ok ()) : s.has k = false := by
  cases s with
  | memory m =>
    unfold select at h
    cases hm : (m.lookup k).isSome with
    | true => simp [hm] at h
    | false => exact hm
  | sqlite t =>
    unfold select at h
    cases hf : f.select with
    | some e => simp [hf] at h
    | none =>
      cases ht : (t.lookup k).isSome with
      | true => simp [hf, ht] at h
      | false => exact ht

/-- An insert is refused and changes nothing, or it adds the key. Only the
map of a memory store takes a key that it has. -/
theorem insert_cases (s : EntryStore K V) (f : EnforceFaults) (k : K) (entry : V) :
    (∃ e, s.insert f k entry = (s, .error e)) ∨
    (∃ s', s.insert f k entry = (s', .ok ()) ∧ s'.isSqlite = s.isSqlite ∧
      (s.has k = true → s.isSqlite = false) ∧ ∀ k', s'.has k' = if k' = k then true else s.has k') := by
  have hins : ∀ (m : GoMap K V) k', ((m.insert k entry).lookup k').isSome =
      if k' = k then true else (m.lookup k').isSome := by
    intro m k'
    rw [lookup_insert_ite]
    split <;> rfl
  cases s with
  | memory m => exact .inr ⟨_, rfl, rfl, fun _ => rfl, hins m⟩
  | sqlite t =>
    unfold insert
    cases hf : f.write with
    | some e => exact .inl ⟨e, rfl⟩
    | none =>
      cases ht : (t.lookup k).isSome with
      | true => exact .inl ⟨primaryKeyConflict, if_pos ht⟩
      | false =>
        refine .inr ⟨.sqlite (t.insert k entry), if_neg (by simp [ht]), rfl, ?_, hins t⟩
        intro hk
        exact absurd (ht.symm.trans hk) (by decide)

/-- A delete is refused and changes nothing, or it takes the key away; with
`RowsAffected` failing it takes the key away and reports an error. -/
theorem delete_cases (s : EntryStore K V) (f : EnforceFaults) (k : K) (missing rows : String) :
    (∃ s' e, s.delete f k missing rows = (s', .error e) ∧ s'.isSqlite = s.isSqlite ∧
      (∀ k', s'.has k' = s.has k') ∧
      ¬ (s.isSqlite = true ∧ f.write = none ∧ f.rowsAffected ≠ none ∧ s.has k = true)) ∨
    (∃ s' e, s.delete f k missing rows = (s', .error e) ∧ s'.isSqlite = s.isSqlite ∧
      (∀ k', s'.has k' = if k' = k then false else s.has k') ∧
      s.isSqlite = true ∧ f.write = none ∧ f.rowsAffected ≠ none ∧ s.has k = true) ∨
    (∃ s', s.delete f k missing rows = (s', .ok ()) ∧ s'.isSqlite = s.isSqlite ∧ s.has k = true ∧
      (∀ k', s'.has k' = if k' = k then false else s.has k') ∧
      ¬ (s.isSqlite = true ∧ f.write = none ∧ f.rowsAffected ≠ none ∧ s.has k = true)) := by
  have her : ∀ (m : GoMap K V) k', ((m.erase k).lookup k').isSome =
      if k' = k then false else (m.lookup k').isSome := by
    intro m k'
    rw [lookup_erase_ite]
    split <;> rfl
  cases s with
  | memory m =>
    unfold delete
    cases hm : (m.lookup k).isSome with
    | true => exact .inr (.inr ⟨.memory (m.erase k), if_pos hm, rfl, hm, her m, by simp [isSqlite]⟩)
    | false =>
      exact .inl ⟨.memory m, missing, if_neg (by simp [hm]), rfl, fun _ => rfl, by simp [isSqlite]⟩
  | sqlite t =>
    unfold delete
    cases hw : f.write with
    | some e => exact .inl ⟨_, e, rfl, rfl, fun _ => rfl, by simp⟩
    | none =>
      cases hr : f.rowsAffected with
      | some e =>
        cases ht : (t.lookup k).isSome with
        | true => exact .inr (.inl ⟨_, rows ++ e, rfl, rfl, her t, rfl, rfl, by simp, ht⟩)
        | false =>
          -- the delete matched no row
          refine .inl ⟨_, rows ++ e, rfl, rfl, ?_, ?_⟩
          · intro k'
            refine (her t k').trans ?_
            split
            · rename_i hk
              rw [hk]
              exact ht.symm
            · rfl
          · rintro ⟨-, -, -, hk⟩
            exact absurd (ht.symm.trans hk) (by decide)
      | none =>
        cases ht : (t.lookup k).isSome with
        | true => exact .inr (.inr ⟨.sqlite (t.erase k), if_pos ht, rfl, ht, her t, by simp⟩)
        | false => exact .inl ⟨.sqlite t, missing, if_neg (by simp [ht]), rfl, fun _ => rfl, by simp⟩

end

end Lota.L2.Revocation.EntryStore

namespace Lota.L2.AuditLog
open Lota.Core Lota.L2.Revocation

/-! ## Calls in flight -/

/-- What `Log` is given; the log adds a number and the time.
mirrors src/verifier/store/banlist.go:39-47 -/
structure AuditEntry where
  action : String
  targetID : String
  reason : String
  actor : String
  note : String
  deriving DecidableEq

inductive Call where
  | revoke (clientID : String) (reason : RevocationReason) (revokedBy note : String)
  | unrevoke (clientID : String)
  | banHardware (hardwareID : Blob 32) (reason : RevocationReason) (bannedBy note : String)
  | unbanHardware (hardwareID : Blob 32)

/-- mirrors the `Log` calls of src/verifier/store/sqlite_revocation.go:57, 101, 166, 208 -/
def Call.entry : Call → AuditEntry
  | .revoke clientID reason revokedBy note => ⟨"revoke", clientID, reason.text, revokedBy, note⟩
  | .unrevoke clientID => ⟨"unrevoke", clientID, "", "", ""⟩
  | .banHardware hardwareID reason bannedBy note =>
    ⟨"ban", formatHardwareID hardwareID, reason.text, bannedBy, note⟩
  | .unbanHardware hardwareID => ⟨"unban", formatHardwareID hardwareID, "", "", ""⟩

inductive Table where
  | revocations | hardwareBans
  deriving DecidableEq

/-- A member of one of the two sets. -/
inductive Target where
  | client (clientID : String)
  | hardware (hardwareID : Blob 32)
  deriving DecidableEq

def Target.table : Target → Table
  | .client _ => .revocations
  | .hardware _ => .hardwareBans

def Call.target : Call → Target
  | .revoke clientID _ _ _ => .client clientID
  | .unrevoke clientID => .client clientID
  | .banHardware hardwareID _ _ _ => .hardware hardwareID
  | .unbanHardware hardwareID => .hardware hardwareID

def Call.table (c : Call) : Table := c.target.table

/-- Whether the call puts its target into the set. -/
def Call.adds : Call → Bool
  | .revoke .. => true
  | .unrevoke _ => false
  | .banHardware .. => true
  | .unbanHardware _ => false

/-- How far a call has come. -/
inductive Phase where
  | idle
  | waiting (c : Call)
  | entered (c : Call)
  /-- the select found no entry -/
  | absent (c : Call)
  /-- the store is changed, the audit entry is not written yet -/
  | written (c : Call)
  | returned (c : Call) (r : Except String Unit)

/-- The call a phase between `Lock` and `Unlock` belongs to. -/
def Phase.inside : Phase → Option Call
  | .entered c => some c
  | .absent c => some c
  | .written c => some c
  | _ => none

/-- The two stores, their log and the calls in flight. -/
structure Stores where
  revocations : RevocationStore
  bans : BanStore
  log : List AuditEntry
  mu : Table → Option Nat
  calls : Nat → Phase

namespace Stores

/-- Whether the target is revoked or banned. -/
def holds (s : Stores) : Target → Bool
  | .client clientID => s.revocations.has clientID
  | .hardware hardwareID => s.bans.has hardwareID

def isSqlite (s : Stores) : Table → Bool
  | .revocations => s.revocations.isSqlite
  | .hardwareBans => s.bans.isSqlite

/-- mirrors the `mu` fields of src/verifier/store/revocation.go:90, banlist.go:140 and
sqlite_revocation.go:22; `SQLiteBanStore` (133-136) has none -/
def hasMutex (s : Stores) : Table → Bool
  | .revocations => true
  | .hardwareBans => !s.bans.isSqlite

def setCall (s : Stores) (i : Nat) (p : Phase) : Stores :=
  { s with calls := Function.update s.calls i p }

/-- `mu.Lock()`, where there is one; a call that does not get it stays where it is. -/
def lock (s : Stores) (i : Nat) (c : Call) : Stores :=
  if s.hasMutex c.table then
    if (s.mu c.table).isSome then s
    else { s.setCall i (.entered c) with mu := Function.update s.mu c.table (some i) }
  else s.setCall i (.entered c)

/-- `return` and the deferred `Unlock`. -/
def finish (s : Stores) (i : Nat) (c : Call) (r : Except String Unit) : Stores :=
  { s.setCall i (.returned c r) with mu := Function.update s.mu c.table none }

def proceed (s : Stores) (i : Nat) (c : Call) (r : Except String Unit) (next : Phase) : Stores :=
  match r with
  | .error e => s.finish i c (.error e)
  | .ok () => s.setCall i next

/-- The first statement: the select of an addition, the delete of a removal. -/
def first (s : Stores) (i : Nat) (c : Call) (f : EnforceFaults) : Stores :=
  match c with
  | .revoke clientID _ _ _ =>
    s.proceed i c (s.revocations.select f clientID "client is already revoked") (.absent c)
  | .banHardware hardwareID _ _ _ =>
    s.proceed i c (s.bans.select f hardwareID "hardware ID is already banned") (.absent c)
  | .unrevoke clientID =>
    let r := s.revocations.delete f clientID "client is not revoked"
      "failed to read affected rows after unrevoke: "
    { s with revocations := r.1 }.proceed i c r.2 (.written c)
  | .unbanHardware hardwareID =>
    let r := s.bans.delete f hardwareID "hardware ID is not banned"
      "failed to read affected rows after hardware unban: "
    { s with bans := r.1 }.proceed i c r.2 (.written c)

/-- The second statement of an addition. -/
def second (s : Stores) (i : Nat) (c : Call) (f : EnforceFaults) (now : Time) : Stores :=
  match c with
  | .revoke clientID reason revokedBy note =>
    let r := s.revocations.insert f clientID { clientID, reason, revokedAt := now, revokedBy, note }
    { s with revocations := r.1 }.proceed i c r.2 (.written c)
  | .banHardware hardwareID reason bannedBy note =>
    let r := s.bans.insert f hardwareID { hardwareID, reason, bannedAt := now, bannedBy, note }
    { s with bans := r.1 }.proceed i c r.2 (.written c)
  | .unrevoke _ => s
  | .unbanHardware _ => s

/-- `auditLog.Log`, the last statement. -/
def audit (s : Stores) (i : Nat) (c : Call) (f : EnforceFaults) : Stores × Option AuditEntry :=
  match EntryStore.audited f with
  | .error e => (s.finish i c (.error e), none)
  | .ok () => ({ s with log := s.log ++ [c.entry] }.finish i c (.ok ()), some c.entry)

/-- The next statement of call `i`, with the entry it logs. -/
def advance (s : Stores) (i : Nat) (f : EnforceFaults) (now : Time) : Stores × Option AuditEntry :=
  match s.calls i with
  | .idle => (s, none)
  | .waiting c => (s.lock i c, none)
  | .entered c => (s.first i c f, none)
  | .absent c => (s.second i c f now, none)
  | .written c => s.audit i c f
  | .returned _ _ => (s, none)

end Stores

inductive Input where
  | invoke (i : Nat) (c : Call)
  | advance (i : Nat) (f : EnforceFaults) (now : Time)

def Input.caller : Input → Nat
  | .invoke i _ => i
  | .advance i _ _ => i

/-- Calls are made and run statement by statement, in any order and with any
statement failing. -/
def machine : Machine Stores Input (Option AuditEntry) where
  step s
    | .invoke i c =>
      match s.calls i with
      | .idle => (s.setCall i (.waiting c), none)
      | _ => (s, none)
    | .advance i f now => s.advance i f now

/-! ## What the log tells -/

/-- What an entry says about a member: put in, taken out, or nothing. -/
def AuditEntry.effect (a : AuditEntry) : Target → Option Bool
  | .client clientID =>
    if a.targetID ≠ clientID then none
    else if a.action = "revoke" then some true
    else if a.action = "unrevoke" then some false
    else none
  | .hardware hardwareID =>
    if a.targetID ≠ formatHardwareID hardwareID then none
    else if a.action = "ban" then some true
    else if a.action = "unban" then some false
    else none

/-- The set after the entries of the log, in order. -/
def replay (log : List AuditEntry) (t : Target) : Bool :=
  log.foldl (fun b a => (a.effect t).getD b) false

/-- Call `i` has changed the target and its entry is still to come. -/
def Outstanding (s : Stores) (t : Target) (i : Nat) : Prop := ∃ c, s.calls i = .written c ∧ c.target = t

/-- A step of call `i` changed one of the sets. -/
def Touched (s₀ : Stores) (is : List Input) (i : Nat) : Prop :=
  ∃ pre x post, is = pre ++ x :: post ∧ x.caller = i ∧
    (machine.run s₀ (pre ++ [x])).holds ≠ (machine.run s₀ pre).holds

/-- The entries the steps of call `i` wrote to the log. -/
def loggedBy (h : List (Input × Option AuditEntry)) (i : Nat) : List AuditEntry :=
  (h.filter fun p => p.1.caller = i).filterMap (·.2)

/-- The sets and the log agree after the run. -/
structure AuditAgrees (s₀ : Stores) (is : List Input) : Prop where
  failed : ∀ i c e, (machine.run s₀ is).calls i = .returned c (.error e) → ¬ Touched s₀ is i
  succeeded : ∀ i c, (machine.run s₀ is).calls i = .returned c (.ok ()) →
    loggedBy (machine.hist s₀ is) i = [c.entry]
  logged : (machine.run s₀ is).log = s₀.log ++ (machine.hist s₀ is).filterMap (·.2)
  replayed : ∀ t, (∀ i, ¬ Outstanding (machine.run s₀ is) t i) →
    replay (machine.run s₀ is).log t = (machine.run s₀ is).holds t

/-- Stores whose log tells their sets, before any call. -/
structure Start (s : Stores) : Prop where
  calls : ∀ i, s.calls i = .idle
  mu : ∀ t, s.mu t = none
  replayed : ∀ t, replay s.log t = s.holds t

/-- The call's delete took a row away and `RowsAffected` fails. -/
def RowsLost (s : Stores) (c : Call) (f : EnforceFaults) : Prop :=
  s.isSqlite c.table = true ∧ f.write = none ∧ f.rowsAffected ≠ none ∧ s.holds c.target = true

/-- The step neither loses an entry (the log or `RowsAffected` failing after
the change) nor, without a mutex, writes the last entry for a target that
another call has changed since. -/
def Clean (s : Stores) : Input → Prop
  | .invoke _ _ => True
  | .advance i f _ =>
    (∀ c, s.calls i = .entered c → c.adds = false → ¬ RowsLost s c f) ∧
    (∀ c, s.calls i = .written c → f.audit = none ∧
      (s.hasMutex c.table = false → (∀ j, j ≠ i → ¬ Outstanding s c.target j) →
        s.holds c.target = c.adds))

/-! ## One statement -/

/-- Call `i` moves to phase `p`. -/
structure Moved (s s' : Stores) (i : Nat) (p : Phase) (mu : Table → Option Nat) (set : Target → Bool)
    (log : List AuditEntry) : Prop where
  calls : s'.calls = Function.update s.calls i p
  mu : s'.mu = mu
  holds : s'.holds = set
  log : s'.log = log
  hasMutex : s'.hasMutex = s.hasMutex

/-- Everything one statement of call `i` can do. -/
inductive Advanced (s : Stores) (i : Nat) (f : EnforceFaults) (s' : Stores) :
    Option AuditEntry → Prop where
  | stuck (hc : ∀ c, s.calls i ≠ .entered c ∧ s.calls i ≠ .written c) (hs : s' = s) :
    Advanced s i f s' none
  | locked (c : Call) (hc : s.calls i = .waiting c) (hmu : s.hasMutex c.table = true →
    s.mu c.table = none)
      (hm : Moved s s' i (.entered c)
        (if s.hasMutex c.table then Function.update s.mu c.table (some i) else s.mu)
        s.holds s.log) : Advanced s i f s' none
  | refused (c : Call) (e : String) (hc : s.calls i = .entered c ∨ s.calls i = .absent c)
      (hf : s.calls i = .entered c → c.adds = false → ¬ RowsLost s c f)
      (hm : Moved s s' i (.returned c (.error e)) (Function.update s.mu c.table none) s.holds s.log) :
      Advanced s i f s' none
  | selected (c : Call) (hc : s.calls i = .entered c) (ha : c.adds = true)
    (hno : s.holds c.target = false)
      (hm : Moved s s' i (.absent c) s.mu s.holds s.log) : Advanced s i f s' none
  | inserted (c : Call) (hc : s.calls i = .absent c) (ha : c.adds = true)
      (hno : s.holds c.target = true → s.hasMutex c.table = true)
      (hm : Moved s s' i (.written c) s.mu (Function.update s.holds c.target true) s.log) :
        Advanced s i f s' none
  | deleted (c : Call) (hc : s.calls i = .entered c) (ha : c.adds = false)
    (hyes : s.holds c.target = true)
      (hf : ¬ RowsLost s c f)
      (hm : Moved s s' i (.written c) s.mu (Function.update s.holds c.target false) s.log) :
        Advanced s i f s' none
  | uncounted (c : Call) (e : String) (hc : s.calls i = .entered c) (ha : c.adds = false)
      (hf : RowsLost s c f)
      (hm : Moved s s' i (.returned c (.error e)) (Function.update s.mu c.table none)
        (Function.update s.holds c.target false) s.log) : Advanced s i f s' none
  | unlogged (c : Call) (e : String) (hc : s.calls i = .written c) (hf : f.audit = some e)
      (hm : Moved s s' i (.returned c (.error e)) (Function.update s.mu c.table none) s.holds s.log) :
      Advanced s i f s' none
  | logged (c : Call) (hc : s.calls i = .written c) (hf : f.audit = none)
      (hm : Moved s s' i (.returned c (.ok ())) (Function.update s.mu c.table none) s.holds
        (s.log ++ [c.entry])) :
      Advanced s i f s' (some c.entry)

section
variable {s s₁ : Stores} {i : Nat} {c : Call} {f : EnforceFaults} {now : Time}

/-- `s₁` is `s` with other entries in its stores. -/
structure SameCalls (s s₁ : Stores) : Prop where
  calls : s₁.calls = s.calls
  mu : s₁.mu = s.mu
  hasMutex : s₁.hasMutex = s.hasMutex

theorem holds_setCall (s : Stores) (i : Nat) (p : Phase) : (s.setCall i p).holds = s.holds := by
  funext t
  cases t <;> rfl

theorem hasMutex_setCall (s : Stores) (i : Nat) (p : Phase) :
    (s.setCall i p).hasMutex = s.hasMutex := by
  funext t
  cases t <;> rfl

theorem SameCalls.setCall (h : SameCalls s s₁) (i : Nat) (p : Phase) :
    Moved s (s₁.setCall i p) i p s.mu s₁.holds s₁.log where
  calls := by
    show Function.update s₁.calls i p = _
    rw [h.calls]
  mu := h.mu
  holds := holds_setCall s₁ i p
  log := rfl
  hasMutex := (hasMutex_setCall s₁ i p).trans h.hasMutex

theorem SameCalls.finish (h : SameCalls s s₁) (i : Nat) (c : Call) (r : Except String Unit) :
    Moved s (s₁.finish i c r) i (.returned c r) (Function.update s.mu c.table none)
    s₁.holds s₁.log where
  calls := by
    show Function.update s₁.calls i (.returned c r) = _
    rw [h.calls]
  mu := by
    show Function.update s₁.mu c.table none = _
    rw [h.mu]
  holds := by
    funext t
    cases t <;> rfl
  log := rfl
  hasMutex := by
    rw [← h.hasMutex]
    funext t
    cases t <;> rfl

theorem sameCalls_refl (s : Stores) : SameCalls s s := ⟨rfl, rfl, rfl⟩

/-- What a lookup in the changed table says about the sets. -/
theorem holds_revocations {r : RevocationStore} {id : String} {b : Bool}
    (h : ∀ k', r.has k' = if k' = id then b else s.revocations.has k') :
    { s with revocations := r }.holds = Function.update s.holds (.client id) b := by
  funext t
  cases t with
  | client id' =>
    by_cases hid : id' = id
    · subst hid
      simp [Stores.holds, h]
    · simp [Stores.holds, h, hid]
  | hardware id' => simp [Stores.holds]

theorem holds_bans {r : BanStore} {id : Blob 32} {b : Bool}
    (h : ∀ k', r.has k' = if k' = id then b else s.bans.has k') :
    { s with bans := r }.holds = Function.update s.holds (.hardware id) b := by
  funext t
  cases t with
  | client id' => simp [Stores.holds]
  | hardware id' =>
    by_cases hid : id' = id
    · subst hid
      simp [Stores.holds, h]
    · simp [Stores.holds, h, hid]

theorem sameCalls_revocations (s : Stores) (r : RevocationStore) :
    SameCalls s { s with revocations := r } :=
  ⟨rfl, rfl, by funext t; cases t <;> rfl⟩

theorem sameCalls_bans {r : BanStore} (h : r.isSqlite = s.bans.isSqlite) :
    SameCalls s { s with bans := r } := by
  refine ⟨rfl, rfl, ?_⟩
  funext t
  cases t with
  | revocations => rfl
  | hardwareBans => simp [Stores.hasMutex, h]

/-- The select of an addition. -/
theorem select_advanced {r : Except String Unit} (hc : s.calls i = .entered c) (ha : c.adds = true)
    (hr : r = .ok () → s.holds c.target = false) :
    Advanced s i f (s.proceed i c r (.absent c)) none := by
  cases r with
  | error e =>
    refine .refused c e (.inl hc) ?_ ((sameCalls_refl s).finish i c (.error e))
    intro _ hd
    rw [ha] at hd
    cases hd
  | ok u => exact .selected c hc ha (hr rfl) ((sameCalls_refl s).setCall i (.absent c))

/-- The insert of an addition. -/
theorem insert_advanced {r : Except String Unit} (hs : SameCalls s s₁) (hlog : s₁.log = s.log)
    (hc : s.calls i = .absent c) (ha : c.adds = true) (herr : ∀ e, r = .error e → s₁.holds = s.holds)
    (hok : r = .ok () → (s.holds c.target = true → s.hasMutex c.table = true) ∧
      s₁.holds = Function.update s.holds c.target true) :
    Advanced s i f (s₁.proceed i c r (.written c)) none := by
  cases r with
  | error e =>
    have hm := hs.finish i c (.error e)
    rw [herr e rfl, hlog] at hm
    refine .refused c e (.inr hc) ?_ hm
    intro hen
    rw [hc] at hen
    cases hen
  | ok u =>
    have hm := hs.setCall i (.written c)
    rw [(hok rfl).2, hlog] at hm
    exact .inserted c hc ha (hok rfl).1 hm

/-- The delete of a removal. -/
theorem delete_advanced {r : Except String Unit} (hs : SameCalls s s₁) (hlog : s₁.log = s.log)
    (hc : s.calls i = .entered c) (ha : c.adds = false)
    (h : (∃ e, r = .error e ∧ s₁.holds = s.holds ∧ ¬ RowsLost s c f) ∨
      (∃ e, r = .error e ∧ s₁.holds = Function.update s.holds c.target false ∧ RowsLost s c f) ∨
      (r = .ok () ∧ s.holds c.target = true ∧ s₁.holds = Function.update s.holds c.target false ∧
        ¬ RowsLost s c f)) :
    Advanced s i f (s₁.proceed i c r (.written c)) none := by
  obtain ⟨e, rfl, hh, hf⟩ | ⟨e, rfl, hh, hf⟩ | ⟨rfl, hyes, hh, hf⟩ := h
  · have hm := hs.finish i c (.error e)
    rw [hh, hlog] at hm
    exact .refused c e (.inl hc) (fun _ _ => hf) hm
  · have hm := hs.finish i c (.error e)
    rw [hh, hlog] at hm
    exact .uncounted c e hc ha hf hm
  · have hm := hs.setCall i (.written c)
    rw [hh, hlog] at hm
    exact .deleted c hc ha hyes hf hm

theorem first_advanced (hc : s.calls i = .entered c) : Advanced s i f (s.first i c f) none := by
  cases c with
  | revoke id reason revokedBy note => exact select_advanced hc rfl fun h => EntryStore.select_ok h
  | banHardware id reason bannedBy note => exact select_advanced hc rfl fun h => EntryStore.select_ok h
  | unrevoke id =>
    unfold Stores.first
    refine delete_advanced (sameCalls_revocations s _) rfl hc rfl ?_
    obtain ⟨r, e, hr, -, hh, hf⟩ | ⟨r, e, hr, -, hh, hf⟩ | ⟨r, hr, -, hyes, hh, hf⟩ :=
      s.revocations.delete_cases f id "client is not revoked"
        "failed to read affected rows after unrevoke: "
    · refine .inl ⟨e, by rw [hr], ?_, hf⟩
      rw [hr]
      funext t
      cases t with
      | client id' => exact hh id'
      | hardware id' => rfl
    · exact .inr (.inl ⟨e, by rw [hr], by rw [hr]; exact holds_revocations hh, hf⟩)
    · exact .inr (.inr ⟨by rw [hr], hyes, by rw [hr]; exact holds_revocations hh, hf⟩)
  | unbanHardware id =>
    unfold Stores.first
    obtain ⟨r, e, hr, hq, hh, hf⟩ | ⟨r, e, hr, hq, hh, hf⟩ | ⟨r, hr, hq, hyes, hh, hf⟩ :=
      s.bans.delete_cases f id "hardware ID is not banned"
        "failed to read affected rows after hardware unban: "
    · simp only [hr]
      refine delete_advanced (sameCalls_bans hq) rfl hc rfl (.inl ⟨e, rfl, ?_, hf⟩)
      funext t
      cases t with
      | client id' => rfl
      | hardware id' => exact hh id'
    · simp only [hr]
      exact delete_advanced (sameCalls_bans hq) rfl hc rfl (.inr (.inl ⟨e, rfl, holds_bans hh, hf⟩))
    · simp only [hr]
      exact delete_advanced (sameCalls_bans hq) rfl hc rfl (.inr (.inr ⟨rfl, hyes, holds_bans hh, hf⟩))

theorem second_advanced (hc : s.calls i = .absent c) : Advanced s i f (s.second i c f now) none := by
  have hstuck : Advanced s i f s none := by
    refine .stuck (fun c' => ⟨?_, ?_⟩) rfl
    · rw [hc]
      exact Phase.noConfusion
    · rw [hc]
      exact Phase.noConfusion
  cases c with
  | unrevoke id => exact hstuck
  | unbanHardware id => exact hstuck
  | revoke id reason revokedBy note =>
    unfold Stores.second
    refine insert_advanced (sameCalls_revocations s _) rfl hc rfl ?_ ?_
    all_goals
      obtain ⟨e, hr⟩ | ⟨r, hr, -, -, hh⟩ :=
        s.revocations.insert_cases f id { clientID := id, reason, revokedAt := now, revokedBy, note }
    · intro _ _
      rw [hr]
    · intro e he
      rw [hr] at he
      cases he
    · intro he
      rw [hr] at he
      cases he
    · intro _
      rw [hr]
      exact ⟨fun _ => rfl, holds_revocations hh⟩
  | banHardware id reason bannedBy note =>
    unfold Stores.second
    obtain ⟨e, hr⟩ | ⟨r, hr, hq, hno, hh⟩ :=
      s.bans.insert_cases f id { hardwareID := id, reason, bannedAt := now, bannedBy, note }
    · simp only [hr]
      exact insert_advanced (sameCalls_refl s) rfl hc rfl (fun _ _ => rfl) (fun h => by cases h)
    · simp only [hr]
      refine insert_advanced (sameCalls_bans hq) rfl hc rfl (fun e h => by cases h) fun _ =>
        ⟨?_, holds_bans hh⟩
      intro hyes
      exact congrArg (!·) (hno hyes)

theorem audit_advanced (hc : s.calls i = .written c) :
    Advanced s i f (s.audit i c f).1 (s.audit i c f).2 := by
  unfold Stores.audit EntryStore.audited
  cases hf : f.audit with
  | some e => exact .unlogged c e hc hf ((sameCalls_refl s).finish i c (.error e))
  | none =>
    have hs : SameCalls s { s with log := s.log ++ [c.entry] } :=
      ⟨rfl, rfl, by funext t; cases t <;> rfl⟩
    have hm := hs.finish i c (.ok ())
    have hh : { s with log := s.log ++ [c.entry] }.holds = s.holds := by
      funext t
      cases t <;> rfl
    rw [hh] at hm
    exact .logged c hc hf hm

/-- **One statement.** -/
theorem advance_cases (s : Stores) (i : Nat) (f : EnforceFaults) (now : Time) :
    Advanced s i f (s.advance i f now).1 (s.advance i f now).2 := by
  unfold Stores.advance
  cases hc : s.calls i with
  | idle => exact .stuck (fun c => by simp [hc]) rfl
  | returned c r => exact .stuck (fun c => by simp [hc]) rfl
  | entered c => exact first_advanced hc
  | absent c => exact second_advanced hc
  | written c => exact audit_advanced hc
  | waiting c =>
    show Advanced s i f (s.lock i c) none
    unfold Stores.lock
    have hsc := (sameCalls_refl s).setCall i (.entered c)
    cases hm : s.hasMutex c.table with
    | false =>
      refine .locked c hc (fun h => by simp [hm] at h) ?_
      rw [hm]
      exact hsc
    | true =>
      cases hmu : s.mu c.table with
      | some j => exact .stuck (fun c' => by simp [hc]) (by simp)
      | none =>
        refine .locked c hc (fun _ => hmu) ?_
        rw [hm]
        refine ⟨rfl, rfl, ?_, rfl, ?_⟩
        · funext t
          cases t <;> rfl
        · funext t
          cases t <;> rfl

end

/-- Making a call changes neither the sets nor the log. -/
theorem invoke_cases (s : Stores) (i : Nat) (c : Call) :
    machine.step s (.invoke i c) = (s, none) ∨
    (s.calls i = .idle ∧ (machine.step s (.invoke i c)).2 = none ∧
      Moved s (machine.step s (.invoke i c)).1 i (.waiting c) s.mu s.holds s.log) := by
  simp only [machine]
  cases hc : s.calls i with
  | idle => exact .inr ⟨rfl, rfl, (sameCalls_refl s).setCall i (.waiting c)⟩
  | waiting _ => exact .inl rfl
  | entered _ => exact .inl rfl
  | absent _ => exact .inl rfl
  | written _ => exact .inl rfl
  | returned _ _ => exact .inl rfl

/-! ## The mutex -/

section
variable {s s' : Stores} {i : Nat} {p : Phase} {mu : Table → Option Nat} {set : Target → Bool}
  {log : List AuditEntry}

theorem Moved.call_self (hm : Moved s s' i p mu set log) : s'.calls i = p := by
  rw [hm.calls]
  exact Function.update_self i p s.calls

theorem Moved.call_ne (hm : Moved s s' i p mu set log) {j : Nat} (hj : j ≠ i) :
    s'.calls j = s.calls j := by
  rw [hm.calls]
  exact Function.update_of_ne hj p s.calls

/-- A call inside a store with a mutex holds it, and finds its own select and
its own write still in force. -/
structure Locked (s : Stores) : Prop where
  holder : ∀ i c, (s.calls i).inside = some c → s.hasMutex c.table = true → s.mu c.table = some i
  absent : ∀ i c, s.calls i = .absent c → s.hasMutex c.table = true → s.holds c.target = false
  written : ∀ i c, s.calls i = .written c → s.hasMutex c.table = true → s.holds c.target = c.adds

theorem Locked.alone (h : Locked s) {i j : Nat} {c d : Call} (hi : (s.calls i).inside = some c)
    (hj : (s.calls j).inside = some d) (ht : d.table = c.table) (hm : s.hasMutex d.table = true) :
    j = i := by
  have h1 := h.holder j d hj hm
  have h2 := h.holder i c hi (ht ▸ hm)
  rw [ht, h2] at h1
  exact (Option.some.inj h1).symm

theorem Locked.moved (h : Locked s) (hm : Moved s s' i p mu set log)
    (hmu : ∀ j c, j ≠ i → (s.calls j).inside = some c → s.hasMutex c.table = true → mu c.table = some j)
    (hset : ∀ j c, j ≠ i → (s.calls j).inside = some c → s.hasMutex c.table = true →
      set c.target = s.holds c.target)
    (hp : ∀ c, p.inside = some c → s.hasMutex c.table = true → mu c.table = some i ∧
      (p = .absent c → set c.target = false) ∧ (p = .written c → set c.target = c.adds)) :
      Locked s' := by
  constructor
  · intro j c hj ht
    rw [hm.hasMutex] at ht
    rw [hm.mu]
    by_cases hji : j = i
    · rw [hji, hm.call_self] at hj
      rw [hji]
      exact (hp c hj ht).1
    · rw [hm.call_ne hji] at hj
      exact hmu j c hji hj ht
  · intro j c hj ht
    rw [hm.hasMutex] at ht
    rw [hm.holds]
    by_cases hji : j = i
    · rw [hji, hm.call_self] at hj
      exact (hp c (by rw [hj]; rfl) ht).2.1 hj
    · rw [hm.call_ne hji] at hj
      exact (hset j c hji (by rw [hj]; rfl) ht).trans (h.absent j c hj ht)
  · intro j c hj ht
    rw [hm.hasMutex] at ht
    rw [hm.holds]
    by_cases hji : j = i
    · rw [hji, hm.call_self] at hj
      exact (hp c (by rw [hj]; rfl) ht).2.2 hj
    · rw [hm.call_ne hji] at hj
      exact (hset j c hji (by rw [hj]; rfl) ht).trans (h.written j c hj ht)

/-- Unlocking takes the mutex from no other call. -/
theorem Locked.unlock (h : Locked s) {c : Call} (hc : (s.calls i).inside = some c) :
    ∀ j d, j ≠ i → (s.calls j).inside = some d → s.hasMutex d.table = true →
      Function.update s.mu c.table none d.table = some j := by
  intro j d hj hd hm
  rw [Function.update_of_ne]
  · exact h.holder j d hd hm
  · intro ht
    exact hj (h.alone hc hd ht hm)

/-- A write changes nothing for another call under a mutex. -/
theorem Locked.frame (h : Locked s) {c : Call} (hc : (s.calls i).inside = some c) (b : Bool) :
    ∀ j d, j ≠ i → (s.calls j).inside = some d → s.hasMutex d.table = true →
      Function.update s.holds c.target b d.target = s.holds d.target := by
  intro j d hj hd hm
  rw [Function.update_of_ne]
  intro ht
  exact hj (h.alone hc hd (congrArg Target.table ht) hm)

theorem Locked.advanced (h : Locked s) {f : EnforceFaults} {o : Option AuditEntry}
    (hadv : Advanced s i f s' o) : Locked s' := by
  have hkeep : ∀ j c, j ≠ i → (s.calls j).inside = some c → s.hasMutex c.table = true →
      s.mu c.table = some j :=
    fun j c _ hj hm => h.holder j c hj hm
  cases hadv with
  | stuck hc hs =>
    rw [hs]
    exact h
  | locked c hc hmu hm =>
    refine h.moved hm ?_ (fun _ _ _ _ _ => rfl) ?_
    · intro j d hj hd ht
      have hown := h.holder j d hd ht
      split
      · rename_i hmx
        rw [Function.update_of_ne]
        · exact hown
        · intro htab
          rw [htab, hmu hmx] at hown
          cases hown
      · exact hown
    · intro d hd ht
      cases hd
      rw [if_pos ht]
      exact ⟨Function.update_self _ _ _, nofun, nofun⟩
  | refused c e hc hf hm =>
    have hin : (s.calls i).inside = some c := by
      rcases hc with hc | hc <;> rw [hc] <;> rfl
    exact h.moved hm (h.unlock hin) (fun _ _ _ _ _ => rfl) nofun
  | selected c hc ha hno hm =>
    refine h.moved hm hkeep (fun _ _ _ _ _ => rfl) ?_
    intro d hd ht
    cases hd
    exact ⟨h.holder i c (by rw [hc]; rfl) ht, fun _ => hno, nofun⟩
  | inserted c hc ha hno hm =>
    have hin : (s.calls i).inside = some c := by rw [hc]; rfl
    refine h.moved hm hkeep (h.frame hin true) ?_
    intro d hd ht
    cases hd
    exact ⟨h.holder i c hin ht, nofun, fun _ => by rw [Function.update_self, ha]⟩
  | deleted c hc ha hyes hf hm =>
    have hin : (s.calls i).inside = some c := by rw [hc]; rfl
    refine h.moved hm hkeep (h.frame hin false) ?_
    intro d hd ht
    cases hd
    exact ⟨h.holder i c hin ht, nofun, fun _ => by rw [Function.update_self, ha]⟩
  | uncounted c e hc ha hf hm =>
    have hin : (s.calls i).inside = some c := by rw [hc]; rfl
    exact h.moved hm (h.unlock hin) (h.frame hin false) nofun
  | unlogged c e hc hf hm =>
    have hin : (s.calls i).inside = some c := by rw [hc]; rfl
    exact h.moved hm (h.unlock hin) (fun _ _ _ _ _ => rfl) nofun
  | logged c hc hf hm =>
    have hin : (s.calls i).inside = some c := by rw [hc]; rfl
    exact h.moved hm (h.unlock hin) (fun _ _ _ _ _ => rfl) nofun

/-- **Step: locks.** -/
theorem locked_step (h : Locked s) (x : Input) : Locked (machine.step s x).1 := by
  cases x with
  | advance i f now => exact h.advanced (advance_cases s i f now)
  | invoke i c =>
    obtain hs | ⟨-, -, hm⟩ := invoke_cases s i c
    · rw [hs]
      exact h
    · exact h.moved hm (fun j c _ hj ht => h.holder j c hj ht) (fun _ _ _ _ _ => rfl) nofun

end

/-! ## What a call has done so far -/

section
variable {s s' : Stores} {i : Nat} {p : Phase} {mu : Table → Option Nat} {set : Target → Bool}
  {log : List AuditEntry}
  {T : Nat → Prop} {L : Nat → List AuditEntry}

/-- The call has not reached its write. -/
def Phase.early : Phase → Bool
  | .idle => true
  | .waiting _ => true
  | .entered _ => true
  | .absent _ => true
  | .written _ => false
  | .returned _ _ => false

/-- `T` are the calls that changed a set and `L` what each of them logged. -/
structure Tracked (s : Stores) (T : Nat → Prop) (L : Nat → List AuditEntry) : Prop where
  early : ∀ i, (s.calls i).early = true → ¬ T i
  written : ∀ i c, s.calls i = .written c → T i
  unlogged : ∀ i, (∀ c, s.calls i ≠ .returned c (.ok ())) → L i = []
  logged : ∀ i c, s.calls i = .returned c (.ok ()) → L i = [c.entry]

/-- `T` and `L` after a step of call `i`. -/
def touchedNext (s s' : Stores) (i : Nat) (T : Nat → Prop) : Nat → Prop :=
  fun j => T j ∨ (i = j ∧ s'.holds ≠ s.holds)

def loggedNext (i : Nat) (o : Option AuditEntry) (L : Nat → List AuditEntry) : Nat → List AuditEntry :=
  fun j => L j ++ if i = j then o.toList else []

theorem tracked_same (h : Tracked s T L) (i : Nat) :
    Tracked s (touchedNext s s i T) (loggedNext i none L) := by
  have hT : touchedNext s s i T = T := by
    funext j
    simp [touchedNext]
  have hL : loggedNext i none L = L := by
    funext j
    simp [loggedNext]
  rw [hT, hL]
  exact h

theorem Tracked.moved (h : Tracked s T L) {o : Option AuditEntry} (hm : Moved s s' i p mu set log)
    (hearly : p.early = true → (s.calls i).early = true ∧ set = s.holds)
    (hwritten : ∀ c, p = .written c → T i ∨ set ≠ s.holds)
    (hbefore : ∀ c, s.calls i ≠ .returned c (.ok ()))
    (hlogged : ∀ c, p = .returned c (.ok ()) → o = some c.entry)
    (hunlogged : (∀ c, p ≠ .returned c (.ok ())) → o = none) :
    Tracked s' (touchedNext s s' i T) (loggedNext i o L) := by
  have hL : L i = [] := h.unlogged i hbefore
  constructor
  · intro j hj
    rintro (ht | ⟨rfl, hne⟩)
    · by_cases hji : j = i
      · rw [hji, hm.call_self] at hj
        rw [hji] at ht
        exact h.early i (hearly hj).1 ht
      · rw [hm.call_ne hji] at hj
        exact h.early j hj ht
    · rw [hm.call_self] at hj
      rw [hm.holds] at hne
      exact hne (hearly hj).2
  · intro j c hj
    by_cases hji : j = i
    · rw [hji, hm.call_self] at hj
      rw [hji]
      rcases hwritten c hj with ht | hne
      · exact .inl ht
      · exact .inr ⟨rfl, by rw [hm.holds]; exact hne⟩
    · rw [hm.call_ne hji] at hj
      exact .inl (h.written j c hj)
  · intro j hj
    by_cases hji : j = i
    · rw [hji, hm.call_self] at hj
      rw [hji]
      simp [loggedNext, hL, hunlogged hj]
    · rw [hm.call_ne hji] at hj
      simp [loggedNext, h.unlogged j hj, Ne.symm hji]
  · intro j c hj
    by_cases hji : j = i
    · rw [hji, hm.call_self] at hj
      rw [hji]
      simp [loggedNext, hL, hlogged c hj]
    · rw [hm.call_ne hji] at hj
      simp [loggedNext, h.logged j c hj, Ne.symm hji]

/-- A write changes the set. -/
theorem update_ne {t : Target} {b : Bool} (h : s.holds t ≠ b) :
    Function.update s.holds t b ≠ s.holds := by
  intro he
  exact h (by rw [← he, Function.update_self])

theorem Tracked.advanced (hl : Locked s) (h : Tracked s T L) {f : EnforceFaults} {o : Option AuditEntry}
    (hadv : Advanced s i f s' o) : Tracked s' (touchedNext s s' i T) (loggedNext i o L) := by
  cases hadv with
  | stuck hc hs =>
    rw [hs]
    exact tracked_same h i
  | locked c hc hmu hm =>
    exact h.moved hm (fun _ => ⟨by rw [hc]; rfl, rfl⟩) nofun (fun c => by simp [hc])
      nofun (fun _ => rfl)
  | refused c e hc hf hm =>
    refine h.moved hm nofun nofun ?_ nofun (fun _ => rfl)
    intro d
    rcases hc with hc | hc <;> rw [hc] <;> exact Phase.noConfusion
  | selected c hc ha hno hm =>
    exact h.moved hm (fun _ => ⟨by rw [hc]; rfl, rfl⟩) nofun (fun c => by simp [hc])
      nofun (fun _ => rfl)
  | inserted c hc ha hno hm =>
    have hnot : s.holds c.target ≠ true := by
      intro hyes
      have hfree := hl.absent i c hc (hno hyes)
      rw [hyes] at hfree
      cases hfree
    exact h.moved hm nofun (fun d _ => .inr (update_ne hnot)) (fun c => by simp [hc])
      nofun (fun _ => rfl)
  | deleted c hc ha hyes hf hm =>
    exact h.moved hm nofun (fun d _ => .inr (update_ne (by simp [hyes]))) (fun c => by simp [hc])
      nofun (fun _ => rfl)
  | uncounted c e hc ha hf hm =>
    exact h.moved hm nofun nofun (fun c => by simp [hc])
      nofun (fun _ => rfl)
  | unlogged c e hc hf hm =>
    exact h.moved hm nofun nofun (fun c => by simp [hc])
      nofun (fun _ => rfl)
  | logged c hc hf hm =>
    refine h.moved hm nofun nofun (fun c => by simp [hc]) ?_ ?_
    · intro d hp
      cases hp
      rfl
    · intro hp
      exact absurd rfl (hp c)

/-- **Step: what calls have done.** -/
theorem tracked_step (hl : Locked s) (h : Tracked s T L) (x : Input) :
    Tracked (machine.step s x).1 (touchedNext s (machine.step s x).1 x.caller T)
      (loggedNext x.caller (machine.step s x).2 L) := by
  cases x with
  | advance i f now => exact Tracked.advanced hl h (advance_cases s i f now)
  | invoke i c =>
    show Tracked _ (touchedNext _ _ i T) (loggedNext i _ L)
    obtain hs | ⟨hc, ho, hm⟩ := invoke_cases s i c
    · rw [hs]
      exact tracked_same h i
    · rw [ho]
      exact h.moved hm (fun _ => ⟨by rw [hc]; rfl, rfl⟩) nofun (fun c => by simp [hc])
        nofun (fun _ => rfl)

end

/-! ## Replaying the log -/

theorem effect_entry (c : Call) (t : Target) :
    c.entry.effect t = if t = c.target then some c.adds else none := by
  have hex : ∀ a b : Blob 32, formatHardwareID a = formatHardwareID b ↔ b = a := by
    intro a b
    constructor
    · intro h
      exact (Subtype.ext (hexEncode_injective h)).symm
    · rintro rfl
      rfl
  cases c <;> cases t <;> simp [Call.entry, AuditEntry.effect, Call.target, Call.adds, hex, eq_comm]

theorem replay_entry (log : List AuditEntry) (c : Call) (t : Target) :
    replay (log ++ [c.entry]) t = if t = c.target then c.adds else replay log t := by
  unfold replay
  rw [List.foldl_append, List.foldl_cons, List.foldl_nil, effect_entry]
  split <;> rfl

section
variable {s s' : Stores} {i : Nat} {p : Phase} {mu : Table → Option Nat} {set : Target → Bool}
  {log : List AuditEntry}
  {T : Nat → Prop} {L : Nat → List AuditEntry}

theorem Moved.outstanding_ne (hm : Moved s s' i p mu set log) {j : Nat} (hj : j ≠ i) (t : Target) :
    Outstanding s' t j ↔ Outstanding s t j := by
  unfold Outstanding
  rw [hm.call_ne hj]

/-- No call that failed has changed a set, and the log tells the sets where no
entry is outstanding. -/
structure Faithful (s : Stores) (T : Nat → Prop) : Prop where
  failed : ∀ i c e, s.calls i = .returned c (.error e) → ¬ T i
  replayed : ∀ t, (∀ i, ¬ Outstanding s t i) → replay s.log t = s.holds t

theorem Faithful.moved (h : Faithful s T) (hm : Moved s s' i p mu set log)
    (hfail : ∀ c e, p = .returned c (.error e) → ¬ T i ∧ set = s.holds)
    (hrep : ∀ t, (∀ j, j ≠ i → ¬ Outstanding s t j) → (∀ c, p = .written c → c.target ≠ t) →
      replay log t = set t) :
    Faithful s' (touchedNext s s' i T) := by
  constructor
  · intro j c e hj
    by_cases hji : j = i
    · rw [hji, hm.call_self] at hj
      obtain ⟨hT, hset⟩ := hfail c e hj
      rintro (ht | ⟨-, hne⟩)
      · exact hT (hji ▸ ht)
      · exact hne (hm.holds.trans hset)
    · rw [hm.call_ne hji] at hj
      rintro (ht | ⟨hij, -⟩)
      · exact h.failed j c e hj ht
      · exact hji hij.symm
  · intro t hout
    rw [hm.log, hm.holds]
    refine hrep t ?_ ?_
    · intro j hj
      rw [← hm.outstanding_ne hj]
      exact hout j
    · intro c hp ht
      exact hout i ⟨c, hm.call_self.trans hp, ht⟩

/-- A call that has not written yet has no entry outstanding. -/
theorem Faithful.quiet (h : Faithful s T) (hi : ∀ c, s.calls i ≠ .written c) {t : Target}
    (hout : ∀ j, j ≠ i → ¬ Outstanding s t j) : replay s.log t = s.holds t := by
  refine h.replayed t fun j => ?_
  by_cases hj : j = i
  · rintro ⟨c, hc, -⟩
    exact hi c (hj ▸ hc)
  · exact hout j hj

theorem Faithful.advanced (hl : Locked s) (ht : Tracked s T L) (h : Faithful s T)
    {f : EnforceFaults} {now : Time}
    {o : Option AuditEntry} (hclean : Clean s (.advance i f now)) (hadv : Advanced s i f s' o) :
    Faithful s' (touchedNext s s' i T) := by
  cases hadv with
  | stuck hc hs =>
    subst hs
    refine ⟨fun j c e hj => ?_, h.replayed⟩
    rintro (hT | ⟨-, hne⟩)
    · exact h.failed j c e hj hT
    · exact hne rfl
  | locked c hc hmu hm => exact h.moved hm nofun fun t hout _ => h.quiet (by simp [hc]) hout
  | refused c e hc hf hm =>
    refine h.moved hm (fun d e' _ => ⟨ht.early i ?_, rfl⟩) fun t hout _ => h.quiet ?_ hout
    · rcases hc with hc | hc <;> rw [hc] <;> rfl
    · intro d
      rcases hc with hc | hc <;> rw [hc] <;> exact Phase.noConfusion
  | selected c hc ha hno hm => exact h.moved hm nofun fun t hout _ => h.quiet (by simp [hc]) hout
  | inserted c hc ha hno hm =>
    refine h.moved hm nofun fun t hout hp => ?_
    rw [Function.update_of_ne (hp c rfl).symm]
    exact h.quiet (by simp [hc]) hout
  | deleted c hc ha hyes hf hm =>
    refine h.moved hm nofun fun t hout hp => ?_
    rw [Function.update_of_ne (hp c rfl).symm]
    exact h.quiet (by simp [hc]) hout
  | uncounted c e hc ha hf hm => exact absurd hf (hclean.1 c hc ha)
  | unlogged c e hc hf hm =>
    have hok := (hclean.2 c hc).1
    rw [hf] at hok
    cases hok
  | logged c hc hf hm =>
    refine h.moved hm nofun fun t hout _ => ?_
    rw [replay_entry]
    split
    · rename_i hteq
      subst hteq
      -- the call's own write is still in force
      cases hmx : s.hasMutex c.table with
      | true => exact (hl.written i c hc hmx).symm
      | false => exact ((hclean.2 c hc).2 hmx hout).symm
    · rename_i hne
      refine h.replayed t fun j => ?_
      by_cases hj : j = i
      · rintro ⟨d, hd, hdt⟩
        rw [hj, hc] at hd
        cases hd
        exact hne hdt.symm
      · exact hout j hj

/-- **Step: agreement.** -/
theorem faithful_step (hl : Locked s) (ht : Tracked s T L) (h : Faithful s T) {x : Input}
    (hclean : Clean s x) :
    Faithful (machine.step s x).1 (touchedNext s (machine.step s x).1 x.caller T) := by
  cases x with
  | advance i f now => exact Faithful.advanced hl ht h hclean (advance_cases s i f now)
  | invoke i c =>
    show Faithful _ (touchedNext _ _ i T)
    obtain hs | ⟨hc, -, hm⟩ := invoke_cases s i c
    · rw [hs]
      refine ⟨fun j c e hj => ?_, h.replayed⟩
      rintro (hT | ⟨-, hne⟩)
      · exact h.failed j c e hj hT
      · exact hne rfl
    · exact h.moved hm nofun fun t hout _ => h.quiet (by simp [hc]) hout

end

/-! ## Runs -/

section
variable {s₀ : Stores} {is : List Input} {x : Input}

theorem run_snoc : machine.run s₀ (is ++ [x]) = (machine.step (machine.run s₀ is) x).1 :=
  Machine.run_append machine s₀ is [x]

theorem touched_snoc : Touched s₀ (is ++ [x]) =
    touchedNext (machine.run s₀ is) (machine.step (machine.run s₀ is) x).1 x.caller
    (Touched s₀ is) := by
  funext j
  refine propext ⟨?_, ?_⟩
  · rintro ⟨pre, y, post, his, hy, hne⟩
    rcases append_singleton_split his with ⟨-, rfl, rfl⟩ | ⟨post', rfl⟩
    · rw [run_snoc] at hne
      exact .inr ⟨hy, hne⟩
    · exact .inl ⟨pre, y, post', rfl, hy, hne⟩
  · rintro (⟨pre, y, post, rfl, hy, hne⟩ | ⟨hx, hne⟩)
    · exact ⟨pre, y, post ++ [x], by simp, hy, hne⟩
    · exact ⟨is, x, [], rfl, hx, by rw [run_snoc]; exact hne⟩

theorem hist_snoc :
    machine.hist s₀ (is ++ [x]) = machine.hist s₀ is ++ [(x, (machine.step (machine.run s₀ is) x).2)] :=
  Machine.hist_append machine s₀ is [x]

theorem loggedBy_snoc : loggedBy (machine.hist s₀ (is ++ [x])) =
    loggedNext x.caller (machine.step (machine.run s₀ is) x).2 (loggedBy (machine.hist s₀ is)) := by
  funext j
  unfold loggedBy loggedNext
  rw [hist_snoc, List.filter_append, List.filterMap_append]
  by_cases hj : x.caller = j
  · cases (machine.step (machine.run s₀ is) x).2 <;> simp [hj]
  · simp [hj]

theorem start_locked (h : Start s₀) : Locked s₀ := by
  constructor
  · intro i c hi
    rw [h.calls] at hi
    cases hi
  · intro i c hi
    rw [h.calls] at hi
    cases hi
  · intro i c hi
    rw [h.calls] at hi
    cases hi

theorem not_touched_nil (i : Nat) : ¬ Touched s₀ [] i := by
  rintro ⟨pre, x, post, h, -⟩
  simp at h

theorem start_tracked (h : Start s₀) : Tracked s₀ (Touched s₀ []) (loggedBy (machine.hist s₀ [])) := by
  refine ⟨fun i _ => not_touched_nil i, ?_, fun _ _ => rfl, ?_⟩
  · intro i c hi
    rw [h.calls] at hi
    cases hi
  · intro i c hi
    rw [h.calls] at hi
    cases hi

theorem start_faithful (h : Start s₀) : Faithful s₀ (Touched s₀ []) :=
  ⟨fun i _ _ _ => not_touched_nil i, fun t _ => h.replayed t⟩

/-- **Run: locks and calls.** In every run, whatever fails. -/
theorem tracked_run (h : Start s₀) (is : List Input) :
    Locked (machine.run s₀ is) ∧ Tracked (machine.run s₀ is) (Touched s₀ is)
    (loggedBy (machine.hist s₀ is)) := by
  induction is using List.reverseRecOn with
  | nil => exact ⟨start_locked h, start_tracked h⟩
  | append_singleton is x ih =>
    rw [run_snoc, touched_snoc, loggedBy_snoc]
    exact ⟨locked_step ih.1 x, tracked_step ih.1 ih.2 x⟩

/-- **Run: agreement.** -/
theorem faithful_run (h : Start s₀) (hc : machine.AllSteps Clean s₀ is) :
    Faithful (machine.run s₀ is) (Touched s₀ is) := by
  induction is using List.reverseRecOn with
  | nil => exact start_faithful h
  | append_singleton is x ih =>
    obtain ⟨h1, h2⟩ := Machine.allSteps_append.mp hc
    obtain ⟨hl, ht⟩ := tracked_run h is
    rw [run_snoc, touched_snoc]
    exact faithful_step hl ht (ih h1) h2.1

theorem advanced_log {s s' : Stores} {i : Nat} {f : EnforceFaults} {o : Option AuditEntry}
    (h : Advanced s i f s' o) : s'.log = s.log ++ o.toList := by
  cases h with
  | stuck hc hs => simp [hs]
  | locked c hc hmu hm => simp [hm.log]
  | refused c e hc hf hm => simp [hm.log]
  | selected c hc ha hno hm => simp [hm.log]
  | inserted c hc ha hno hm => simp [hm.log]
  | deleted c hc ha hyes hf hm => simp [hm.log]
  | uncounted c e hc ha hf hm => simp [hm.log]
  | unlogged c e hc hf hm => simp [hm.log]
  | logged c hc hf hm => simp [hm.log]

theorem step_log (s : Stores) (x : Input) :
    (machine.step s x).1.log = s.log ++ (machine.step s x).2.toList := by
  cases x with
  | advance i f now => exact advanced_log (advance_cases s i f now)
  | invoke i c =>
    obtain hs | ⟨-, ho, hm⟩ := invoke_cases s i c
    · rw [hs]
      simp
    · rw [ho, hm.log]
      simp

/-- The log is append-only, and nothing else writes to it. -/
theorem log_run (s₀ : Stores) (is : List Input) :
    (machine.run s₀ is).log = s₀.log ++ (machine.hist s₀ is).filterMap (·.2) := by
  induction is using List.reverseRecOn with
  | nil => simp [Machine.run, Machine.hist]
  | append_singleton is x ih =>
    rw [run_snoc, step_log, ih, hist_snoc, List.filterMap_append, List.append_assoc]
    cases (machine.step (machine.run s₀ is) x).2 <;> rfl

/-- A step that loses an entry leaves a failed call that changed a set; one
that logs too late leaves a log that tells another set. -/
theorem clean_of_agrees (h : Start s₀) (hnext : AuditAgrees s₀ (is ++ [x])) :
    Clean (machine.run s₀ is) x := by
  obtain ⟨-, ht⟩ := tracked_run h is
  cases x with
  | invoke i c => trivial
  | advance i f now =>
    have hfailed := hnext.failed
    have hreplayed := hnext.replayed
    rw [run_snoc, touched_snoc] at hfailed
    rw [run_snoc] at hreplayed
    have hadv : Advanced (machine.run s₀ is) i f (machine.step (machine.run s₀ is) (.advance i f now)).1
        (machine.step (machine.run s₀ is) (.advance i f now)).2 := advance_cases _ i f now
    generalize machine.run s₀ is = s at *
    generalize (machine.step s (.advance i f now)).1 = s' at *
    generalize (machine.step s (.advance i f now)).2 = o at *
    refine ⟨fun c hc ha hlost => ?_, fun c hc => ?_⟩
    · cases hadv with
      | stuck hc' hs => exact (hc' c).1 hc
      | uncounted d e hd ha' hf hm =>
        refine hfailed i d e hm.call_self (.inr ⟨rfl, ?_⟩)
        rw [hm.holds]
        exact update_ne (by simp [hf.2.2.2])
      | refused d e hd hf hm => rcases hd with hd | hd <;> simp_all
      | _ => simp_all
    · cases hadv with
      | stuck hc' hs => exact absurd hc (hc' c).2
      | unlogged d e hd hf hm => exact absurd (.inl (ht.written i c hc)) (hfailed i d e hm.call_self)
      | logged d hd hf hm =>
        rw [hd] at hc
        cases hc
        refine ⟨hf, fun _ hout => ?_⟩
        have hrep := hreplayed c.target fun j => ?_
        · rw [hm.log, hm.holds, replay_entry, if_pos rfl] at hrep
          exact hrep.symm
        · by_cases hj : j = i
          · rintro ⟨c, hc, -⟩
            rw [hj, hm.call_self] at hc
            cases hc
          · rw [hm.outstanding_ne hj]
            exact hout j hj
      | refused d e hd hf hm => rcases hd with hd | hd <;> simp_all
      | _ => simp_all

/-- **The audit log.** Over every interleaving of calls and every failing
statement, the sets and the log agree in every state exactly when every step
is clean: no audit write fails, `RowsAffected` does not fail after a delete
that took a row, and no call on a store without a mutex writes the last entry
for a target that another call has changed since. -/
theorem audit_agrees_iff (h : Start s₀) :
    (∀ pre post, is = pre ++ post → AuditAgrees s₀ pre) ↔ machine.AllSteps Clean s₀ is := by
  constructor
  · intro hagree
    refine Machine.allSteps_iff.mpr fun pre x post his =>
      clean_of_agrees h (hagree (pre ++ [x]) post ?_)
    rw [his, List.append_assoc]
    rfl
  · rintro hclean pre post rfl
    obtain ⟨-, ht⟩ := tracked_run h pre
    have hf := faithful_run h (Machine.allSteps_append.mp hclean).1
    exact ⟨hf.failed, ht.logged, log_run s₀ pre, hf.replayed⟩

end

/-! ## Where it goes wrong -/

def freshSqlite : Stores := ⟨.sqlite ∅, .sqlite ∅, [], fun _ => none, fun _ => .idle⟩

def freshMemory : Stores := ⟨.memory ∅, .memory ∅, [], fun _ => none, fun _ => .idle⟩

theorem freshSqlite_start : Start freshSqlite := by
  refine ⟨fun _ => rfl, fun _ => rfl, ?_⟩
  intro t
  cases t <;> rfl

theorem freshMemory_start : Start freshMemory := by
  refine ⟨fun _ => rfl, fun _ => rfl, ?_⟩
  intro t
  cases t <;> rfl

/-- A hardware ID is banned and unbanned at once: the unban deletes the row
before the ban has logged, and logs first. No statement fails. -/
def overtaken : List Input :=
  [.invoke 0 (.banHardware (Blob.zero 32) .cheating "admin" ""), .advance 0 {} 1, .advance 0 {} 1,
    .advance 0 {} 1,
   .invoke 1 (.unbanHardware (Blob.zero 32)), .advance 1 {} 2, .advance 1 {} 2, .advance 1 {} 2,
   .advance 0 {} 3]

/-- A client is revoked and the audit write fails. -/
def unrecorded : List Input :=
  [.invoke 0 (.revoke "c1" .cheating "admin" ""), .advance 0 {} 1, .advance 0 {} 1, .advance 0 {} 1,
   .advance 0 { audit := some "disk full" } 1]

/-- The log of SQLite bans ends in a ban of hardware that is not banned, and a
revocation that reports an error is in force without an entry. -/
theorem unban_overtakes_ban :
    (Start freshSqlite ∧ ¬ AuditAgrees freshSqlite overtaken) ∧
    (Start freshMemory ∧ ¬ AuditAgrees freshMemory unrecorded) := by
  refine ⟨⟨freshSqlite_start, fun h => ?_⟩, ⟨freshMemory_start, fun h => ?_⟩⟩
  · have hrep := h.replayed (.hardware (Blob.zero 32)) ?_
    · revert hrep
      decide
    · rintro i ⟨c, hc, -⟩
      rcases i with _ | _ | i
      · exact Phase.noConfusion hc
      · exact Phase.noConfusion hc
      · exact Phase.noConfusion hc
  · refine h.failed 0 (.revoke "c1" .cheating "admin" "") "disk full" rfl ?_
    refine ⟨unrecorded.take 3, .advance 0 {} 1, unrecorded.drop 4, rfl, rfl, fun he => ?_⟩
    have hc := congrFun he (.client "c1")
    revert hc
    decide

/-- A ban of a fresh SQLite store, with nothing else going on. -/
def plainBan : List Input :=
  [.invoke 0 (.banHardware (Blob.zero 32) .cheating "admin" ""), .advance 0 {} 1, .advance 0 {} 1,
    .advance 0 {} 1,
   .advance 0 {} 1]

theorem audit_agrees_plain_ban :
    machine.AllSteps Clean freshSqlite plainBan ∧ AuditAgrees freshSqlite plainBan := by
  have hclean : machine.AllSteps Clean freshSqlite plainBan := by
    refine ⟨trivial, ⟨nofun, nofun⟩, ⟨?_, nofun⟩, ⟨nofun, nofun⟩, ⟨nofun, ?_⟩, trivial⟩
    · intro c hc ha
      cases hc
      cases ha
    · intro c hc
      cases hc
      exact ⟨rfl, fun _ _ => by decide⟩
  exact ⟨hclean, (audit_agrees_iff freshSqlite_start).mpr hclean plainBan [] (List.append_nil _).symm⟩

end Lota.L2.AuditLog

import Lota.Core.Clock
import Lota.L1Wire.Report

/-!
# Revocations and bans (`verifier/store`)

The two enforcement stores a verifier may be configured with. A memory store
answers from its map; a SQLite store answers "not there" when its query
fails.

* `add_lookup`, `remove_lookup`: what the administration can do to the
  entries.
-/
namespace Lota.L2.Revocation
open Lota.Core Lota.L1.Report

/-- mirrors src/verifier/store/revocation.go:27-34 -/
inductive RevocationReason where
  | cheating | compromised | hardwareChange | admin
  deriving DecidableEq, Repr

def RevocationReason.text : RevocationReason → String
  | .cheating => "cheating"
  | .compromised => "compromised"
  | .hardwareChange => "hardware_change"
  | .admin => "admin"

/-- mirrors src/verifier/store/revocation.go:54-60 -/
structure RevocationEntry where
  clientID : String
  reason : RevocationReason
  revokedAt : Time
  revokedBy : String
  note : String
  deriving DecidableEq

/-- mirrors src/verifier/store/banlist.go:30-36 -/
structure BanEntry where
  hardwareID : Blob 32
  reason : RevocationReason
  bannedAt : Time
  bannedBy : String
  note : String
  deriving DecidableEq

/-- mirrors src/verifier/store/banlist.go:111-113 -/
def formatHardwareID (hwid : Blob 32) : String := hexEncode hwid.toList

/-- A map behind one of the two store kinds. -/
inductive EntryStore (K V : Type) where
  | memory (m : GoMap K V)
  | sqlite (t : GoMap K V)

/-- The entry a query finds; `fails` is a failing SQL query. -/
def EntryStore.query {K V : Type} [DecidableEq K] (s : EntryStore K V) (fails : Bool) (k : K) :
    Option V :=
  match s with
  | .memory m => m.lookup k
  | .sqlite t => if fails then none else t.lookup k

abbrev RevocationStore := EntryStore String RevocationEntry

abbrev BanStore := EntryStore (Blob 32) BanEntry

/-- mirrors src/verifier/store/revocation.go:132-141 and sqlite_revocation.go:65-81 (`IsRevoked`) -/
def RevocationStore.isRevoked (s : RevocationStore) (fails : Bool) (clientID : String) :
    Option RevocationEntry :=
  s.query fails clientID

/-- mirrors src/verifier/store/banlist.go:182-191 and sqlite_revocation.go:174-191 (`IsBanned`) -/
def BanStore.isBanned (s : BanStore) (fails : Bool) (hardwareID : Blob 32) : Option BanEntry :=
  s.query fails hardwareID

/-! ## Administration -/

/-- Which statement of a call fails, and with which error. A memory store
only has an audit log. -/
structure EnforceFaults where
  select : Option String := none
  write : Option String := none
  rowsAffected : Option String := none
  audit : Option String := none

namespace EntryStore

variable {K V : Type} [DecidableEq K]

/-- What the store holds, whether or not it can be read. -/
def entries (s : EntryStore K V) : GoMap K V :=
  match s with
  | .memory m => m
  | .sqlite t => t

/-- The audit entry comes after the write. -/
def audited (f : EnforceFaults) : Except String Unit :=
  match f.audit with
  | some e => .error e
  | none => .ok ()

/-- mirrors src/verifier/store/revocation.go:107-130, banlist.go:157-180 and
sqlite_revocation.go:33-63, 145-172 -/
def add (s : EntryStore K V) (f : EnforceFaults) (k : K) (entry : V) (already : String) :
    EntryStore K V × Except String Unit :=
  match s with
  | .memory m =>
    if (m.lookup k).isSome then (s, .error already) else (.memory (m.insert k entry), audited f)
  | .sqlite t =>
    match f.select with
    | some e => (s, .error e)
    | none =>
      if (t.lookup k).isSome then (s, .error already)
      else
        match f.write with
        | some e => (s, .error e)
        | none => (.sqlite (t.insert k entry), audited f)

/-- mirrors src/verifier/store/revocation.go:143-160, banlist.go:193-210 and
sqlite_revocation.go:83-107, 193-214 -/
def remove (s : EntryStore K V) (f : EnforceFaults) (k : K) (missing rows : String) :
    EntryStore K V × Except String Unit :=
  match s with
  | .memory m => if (m.lookup k).isSome then (.memory (m.erase k), audited f) else (s, .error missing)
  | .sqlite t =>
    match f.write with
    | some e => (s, .error e)
    | none =>
      match f.rowsAffected with
      | some e => (.sqlite (t.erase k), .error (rows ++ e))
      | none => if (t.lookup k).isSome then (.sqlite (t.erase k), audited f) else (s, .error missing)

/-- An addition fails and changes nothing, or it puts the entry where none
was; its audit entry may fail even then. -/
theorem add_cases (s : EntryStore K V) (f : EnforceFaults) (k : K) (entry : V) (already : String) :
    ((s.add f k entry already).2 ≠ .ok () ∧ (s.add f k entry already).1.entries = s.entries) ∨
      (s.entries.lookup k = none ∧ (s.add f k entry already).1.entries = s.entries.insert k entry) := by
  cases s with
  | memory m =>
    unfold add
    simp only
    split
    · exact .inl ⟨nofun, rfl⟩
    · next hn => exact .inr ⟨Option.not_isSome_iff_eq_none.mp hn, rfl⟩
  | sqlite t =>
    unfold add
    simp only
    split
    · exact .inl ⟨nofun, rfl⟩
    · split
      · exact .inl ⟨nofun, rfl⟩
      · next hn =>
        split
        · exact .inl ⟨nofun, rfl⟩
        · exact .inr ⟨Option.not_isSome_iff_eq_none.mp hn, rfl⟩

/-- Adding replaces nothing and touches one key; an addition that reports
success is there. -/
theorem add_lookup (s : EntryStore K V) (f : EnforceFaults) (k : K) (entry : V) (already : String) :
    (∀ k' e, s.entries.lookup k' = some e → (s.add f k entry already).1.entries.lookup k' = some e) ∧
      ((s.add f k entry already).2 = .ok () → (s.add f k entry already).1.entries.lookup k =
        some entry) := by
  rcases s.add_cases f k entry already with ⟨hfail, h⟩ | ⟨hnone, h⟩
  · rw [h]
    exact ⟨fun _ _ he => he, fun hok => absurd hok hfail⟩
  · rw [h]
    refine ⟨fun k' e he => ?_, fun _ => AList.lookup_insert _⟩
    rw [lookup_insert_ite, if_neg]
    · exact he
    · rintro rfl
      rw [hnone] at he
      cases he

/-- A call changes the entries by what it is for, or not at all. -/
theorem add_entries (s : EntryStore K V) (f : EnforceFaults) (k : K) (entry : V) (already : String) :
    (s.add f k entry already).1.entries = s.entries ∨
    (s.add f k entry already).1.entries = s.entries.insert k entry := by
  rcases s.add_cases f k entry already with ⟨-, h⟩ | ⟨-, h⟩
  · exact .inl h
  · exact .inr h

theorem remove_entries (s : EntryStore K V) (f : EnforceFaults) (k : K) (missing rows : String) :
    (s.remove f k missing rows).1.entries = s.entries ∨
    (s.remove f k missing rows).1.entries = s.entries.erase k := by
  cases s with
  | memory m =>
    unfold remove
    simp only
    split
    · exact .inr rfl
    · exact .inl rfl
  | sqlite t =>
    unfold remove
    simp only
    split
    · exact .inl rfl
    · split
      · exact .inr rfl
      · split
        · exact .inr rfl
        · exact .inl rfl

/-- Removing touches one key. -/
theorem remove_lookup (s : EntryStore K V) (f : EnforceFaults) {k k' : K} (missing rows : String)
    (hne : k' ≠ k) : (s.remove f k missing rows).1.entries.lookup k' = s.entries.lookup k' := by
  obtain h | h := s.remove_entries f k missing rows
  · rw [h]
  · rw [h]
    exact AList.lookup_erase_ne hne

/-- A query misses an entry exactly when it fails in SQLite. -/
theorem query_none_iff {s : EntryStore K V} {fails : Bool} {k : K} {e : V}
    (h : s.entries.lookup k = some e) :
    s.query fails k = none ↔ (∃ t, s = .sqlite t) ∧ fails = true := by
  cases s with
  | memory m =>
    have hm : m.lookup k = some e := h
    simp [query, hm]
  | sqlite t =>
    have ht : t.lookup k = some e := h
    cases fails with
    | true => simp [query]
    | false => simp [query, ht]

end EntryStore

/-- mirrors src/verifier/store/revocation.go:107-130 and sqlite_revocation.go:33-63 (`Revoke`) -/
def RevocationStore.revoke (s : RevocationStore) (f : EnforceFaults) (clientID : String)
    (reason : RevocationReason)
    (revokedBy note : String) (now : Time) : RevocationStore × Except String Unit :=
  s.add f clientID { clientID, reason, revokedAt := now, revokedBy, note } "client is already revoked"

/-- mirrors src/verifier/store/revocation.go:143-160 and sqlite_revocation.go:83-107 (`Unrevoke`) -/
def RevocationStore.unrevoke (s : RevocationStore) (f : EnforceFaults) (clientID : String) :
    RevocationStore × Except String Unit :=
  s.remove f clientID "client is not revoked" "failed to read affected rows after unrevoke: "

/-- mirrors src/verifier/store/banlist.go:157-180 and sqlite_revocation.go:145-172 (`BanHardware`) -/
def BanStore.banHardware (s : BanStore) (f : EnforceFaults) (hardwareID : Blob 32)
    (reason : RevocationReason)
    (bannedBy note : String) (now : Time) : BanStore × Except String Unit :=
  s.add f hardwareID { hardwareID, reason, bannedAt := now, bannedBy, note }
    "hardware ID is already banned"

/-- mirrors src/verifier/store/banlist.go:193-210 and sqlite_revocation.go:193-214 (`UnbanHardware`) -/
def BanStore.unbanHardware (s : BanStore) (f : EnforceFaults) (hardwareID : Blob 32) :
    BanStore × Except String Unit :=
  s.remove f hardwareID "hardware ID is not banned"
    "failed to read affected rows after hardware unban: "

end Lota.L2.Revocation

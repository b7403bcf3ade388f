import Mathlib.Logic.Basic

/-!
# A database connection with a transaction

`Conn T` is one connection to a database with contents `T`: the committed
contents and, while a transaction is open, the working copy its statements
change. Every statement may fail, and then it has no effect (`none`).
`rollback` drops the working copy, `commit` publishes it.

The lemmas say what reaches the committed contents: nothing before
`commit`, the working copy after it.
-/
namespace Lota.Core

structure Conn (T : Type) where
  db : T
  work : Option T

namespace Conn

variable {T : Type}

/-- A fresh connection, no transaction open. -/
def acquire (db : T) : Conn T := ⟨db, none⟩

/-- `BEGIN IMMEDIATE`. -/
def begin (fails : Bool) (c : Conn T) : Option (Conn T) :=
  if fails then none else some { c with work := some c.db }

/-- What a query on the connection sees. -/
def view (c : Conn T) : T := c.work.getD c.db

/-- A data statement; outside a transaction it commits by itself. -/
def exec (fails : Bool) (f : T → T) (c : Conn T) : Option (Conn T) :=
  if fails then none
  else match c.work with
    | none => some { c with db := f c.db }
    | some w => some { c with work := some (f w) }

/-- `COMMIT`. -/
def commit (fails : Bool) (c : Conn T) : Option (Conn T) :=
  if fails then none else some ⟨c.view, none⟩

/-- `ROLLBACK`. -/
def rollback (c : Conn T) : Conn T := { c with work := none }

@[simp] theorem rollback_db (c : Conn T) : c.rollback.db = c.db := rfl

theorem begin_some {fails : Bool} {c c' : Conn T} (h : c.begin fails = some c') :
    fails = false ∧ c' = ⟨c.db, some c.db⟩ := by
  unfold begin at h
  cases fails with
  | true => cases h
  | false => cases h; exact ⟨rfl, rfl⟩

theorem begin_none {fails : Bool} {c : Conn T} (h : c.begin fails = none) : fails = true := by
  cases fails with
  | true => rfl
  | false => cases h

theorem exec_none {fails : Bool} {f : T → T} {db w : T} (h : exec fails f ⟨db, some w⟩ = none) :
    fails = true := by
  cases fails with
  | true => rfl
  | false => cases h

theorem commit_none {fails : Bool} {c : Conn T} (h : c.commit fails = none) : fails = true := by
  cases fails with
  | true => rfl
  | false => cases h

theorem exec_some {fails : Bool} {f : T → T} {db w : T} {c' : Conn T}
    (h : exec fails f ⟨db, some w⟩ = some c') : fails = false ∧ c' = ⟨db, some (f w)⟩ := by
  unfold exec at h
  cases fails with
  | true => cases h
  | false => cases h; exact ⟨rfl, rfl⟩

theorem commit_some {fails : Bool} {db w : T} {c' : Conn T}
    (h : commit fails ⟨db, some w⟩ = some c') : fails = false ∧ c' = ⟨w, none⟩ := by
  unfold commit at h
  cases fails with
  | true => cases h
  | false => cases h; exact ⟨rfl, rfl⟩

end Conn

end Lota.Core

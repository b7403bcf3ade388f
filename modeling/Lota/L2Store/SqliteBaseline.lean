import Lota.Core.Transaction
import Lota.L2Store.Baseline

/-!
# Baselines in SQLite (`verifier/verify/sqlite_baseline.go`)

One row per client, with nullable columns for what is not pinned yet. A
call gets the clock reading it would take and says which of its statements
fail; a failing statement has no effect.

`CheckAndUpdateAttestation` runs in a transaction on its own connection,
rolled back on every exit that has not committed.
-/
namespace Lota.L2.SqliteBaseline
open Lota.Core Lota.L1.Report Lota.L2.Baseline

/-- A row of the `baselines` table. The schema checks the length of `pcr14`
and of no other column.
mirrors src/verifier/store/db.go:62-68, 134-138, 145 -/
structure BaselineRow where
  pcr14 : Hash
  agentHash : Option Bytes := none
  firstSeen : Time
  lastSeen : Time
  attestCount : UInt64
  pcr0 : Option Bytes := none
  pcr1 : Option Bytes := none
  pcr7 : Option Bytes := none
  bootFirstSeen : Option Time := none
  bootLastSeen : Option Time := none

/-- The `baselines` table, by primary key. -/
abbrev SQLiteBaselineStore := GoMap String BaselineRow

/-- Which statements of a call fail. -/
structure Faults where
  conn : Bool := false
  begin : Bool := false
  select : Bool := false
  write : Bool := false
  commit : Bool := false
  deriving DecidableEq

/-- One failing statement is enough for a faulty call. -/
theorem Faults.ne_of {f : Faults} (stmt : Faults → Bool) (h : stmt f = true)
    (h0 : stmt {} = false) : f ≠ {} := by
  intro he
  rw [he, h0] at h
  cases h

/-- `UPDATE … WHERE client_id = ?`. -/
def updateRow (clientID : String) (set : BaselineRow → BaselineRow) (db : SQLiteBaselineStore) :
    SQLiteBaselineStore :=
  match db.lookup clientID with
  | none => db
  | some row => db.insert clientID (set row)

/-- A statement outside a transaction. -/
def execDB (fails : Bool) (f : SQLiteBaselineStore → SQLiteBaselineStore) (db : SQLiteBaselineStore) :
    Option SQLiteBaselineStore :=
  ((Conn.acquire db).exec fails f).map Conn.db

/-- Copy a column into a `[HashSize]byte` when it has the right length. -/
def columnHash (col : Option Bytes) : Option Hash :=
  match col with
  | none => none
  | some b => if h : b.length = 32 then some ⟨b, h⟩ else none

/-- `len(col) == 0`. -/
def columnEmpty (col : Option Bytes) : Bool := (col.getD []).length == 0

theorem columnHash_toList (h : Hash) : columnHash (some h.toList) = some h := by
  unfold columnHash
  exact dif_pos h.toList_length

theorem columnEmpty_toList (h : Hash) : columnEmpty (some h.toList) = false := by
  simp [columnEmpty]

namespace BaselineRow

/-- `agent_hash`, when it counts as stored. -/
def storedAgentHash (row : BaselineRow) : Option Hash := columnHash row.agentHash

/-- All three boot columns are empty. -/
def bootZero (row : BaselineRow) : Bool :=
  columnEmpty row.pcr0 && columnEmpty row.pcr1 && columnEmpty row.pcr7

/-- The boot columns as a `BootBaseline`. -/
def storedBoot (row : BaselineRow) : BootBaseline where
  pcr0 := (columnHash row.pcr0).getD (Blob.zero 32)
  pcr1 := (columnHash row.pcr1).getD (Blob.zero 32)
  pcr7 := (columnHash row.pcr7).getD (Blob.zero 32)
  firstSeen := row.bootFirstSeen.getD zeroTime
  lastSeen := row.bootLastSeen.getD zeroTime

/-- The boot baseline of a row, `none` when it was never pinned. -/
def boot? (row : BaselineRow) : Option BootBaseline :=
  if row.bootZero then none else some row.storedBoot

/-- The row as a `ClientBaseline`. -/
def client (row : BaselineRow) : ClientBaseline where
  pcr14 := row.pcr14
  agentHash := row.storedAgentHash.getD (Blob.zero 32)
  firstSeen := row.firstSeen
  lastSeen := row.lastSeen
  attestCount := row.attestCount

/-- A new row with the agent hash and no boot columns. -/
def fresh (pcr14 agentHash : Hash) (now : Time) : BaselineRow where
  pcr14 := pcr14
  agentHash := some agentHash.toList
  firstSeen := now
  lastSeen := now
  attestCount := 1

/-- Set the boot columns. -/
def setBoot (boot : BootBaseline) (now : Time) (row : BaselineRow) : BaselineRow :=
  { row with
    pcr0 := some boot.pcr0.toList
    pcr1 := some boot.pcr1.toList
    pcr7 := some boot.pcr7.toList
    bootFirstSeen := some now
    bootLastSeen := some now }

/-- Set `agent_hash`. -/
def setAgentHash (agentHash : Hash) (row : BaselineRow) : BaselineRow :=
  { row with agentHash := some agentHash.toList }

/-- Set `boot_last_seen`. -/
def touchBoot (now : Time) (row : BaselineRow) : BaselineRow := { row with bootLastSeen := some now }

/-- Count one more attestation. -/
def touch (now : Time) (row : BaselineRow) : BaselineRow :=
  { row with lastSeen := now, attestCount := row.attestCount + 1 }

theorem boot?_setBoot (row : BaselineRow) (b : BootBaseline) (now : Time) :
    (row.setBoot b now).boot? = some { b with firstSeen := now, lastSeen := now } := by
  simp [boot?, bootZero, setBoot, storedBoot, columnEmpty_toList, columnHash_toList]

end BaselineRow

namespace SQLiteBaselineStore

/-- mirrors src/verifier/verify/sqlite_baseline.go:32-111 (`CheckAndUpdate`) -/
def checkAndUpdate (db : SQLiteBaselineStore) (f : Faults) (clientID : String) (pcr14 : Hash)
    (now : Time) : SQLiteBaselineStore × TOFUResult × Option ClientBaseline :=
  if f.select then (db, .error, none)
  else match db.lookup clientID with
  | none =>
    match execDB f.write
      (AList.insert clientID { pcr14, firstSeen := now, lastSeen := now, attestCount := 1 }) db with
    | none => (db, .error, none)
    | some db' => (db', .firstUse, some { pcr14, firstSeen := now, lastSeen := now, attestCount := 1 })
  | some row =>
    if row.pcr14 ≠ pcr14 then (db, .mismatch, some row.client)
    else
      -- a failed update is only logged
      ((execDB f.write (updateRow clientID (.touch now)) db).getD db, .matched,
        some (row.touch now).client)

/-- mirrors src/verifier/verify/sqlite_baseline.go:118-213 (`CheckAndUpdateAgentHash`) -/
def checkAndUpdateAgentHash (db : SQLiteBaselineStore) (f : Faults) (clientID : String)
    (currentPCR14 agentHash : Hash) (now : Time) :
    SQLiteBaselineStore × TOFUResult × Option ClientBaseline :=
  if f.select then (db, .error, none)
  else match db.lookup clientID with
  | none =>
    match execDB f.write
      (AList.insert clientID (.fresh currentPCR14 agentHash now)) db with
    | none => (db, .error, none)
    | some db' =>
      (db', .firstUse,
        some { pcr14 := currentPCR14, agentHash, firstSeen := now, lastSeen := now, attestCount := 1 })
  | some row =>
    match row.storedAgentHash with
    | none =>
      match execDB f.write
        (updateRow clientID fun r => (r.touch now).setAgentHash agentHash) db with
      | none => (db, .error, none)
      | some db' => (db', .legacyBackfill, some { (row.touch now).client with agentHash })
    | some stored =>
      if stored ≠ agentHash then (db, .mismatch, some row.client)
      else
        ((execDB f.write (updateRow clientID (.touch now)) db).getD db, .matched,
          some (row.touch now).client)

/-- mirrors src/verifier/verify/sqlite_baseline.go:248-284 (`GetBootBaseline`) -/
def getBootBaseline (db : SQLiteBaselineStore) (f : Faults) (clientID : String) : Option BootBaseline :=
  if f.select then none else (db.lookup clientID).bind BaselineRow.boot?

/-- mirrors src/verifier/verify/sqlite_baseline.go:286-293 (`ClearBaseline`) -/
def clearBaseline (db : SQLiteBaselineStore) (f : Faults) (clientID : String) : SQLiteBaselineStore :=
  (execDB f.write (AList.erase clientID) db).getD db

/-- mirrors src/verifier/verify/sqlite_baseline.go:340-416 (`CheckAndUpdateBootPCRs`) -/
def checkAndUpdateBootPCRs (db : SQLiteBaselineStore) (f : Faults) (clientID : String)
    (boot : BootBaseline)
    (now : Time) : SQLiteBaselineStore × TOFUResult × Option BootBaseline :=
  if f.select then (db, .error, none)
  else match db.lookup clientID with
  | none => (db, .error, none)
  | some row =>
    if row.bootZero then
      match execDB f.write (updateRow clientID (.setBoot boot now)) db with
      | none => (db, .error, none)
      | some db' => (db', .firstUse, some { boot with firstSeen := now, lastSeen := now })
    else if ¬ row.storedBoot.SamePCRs boot then (db, .mismatch, some row.storedBoot)
    else
      ((execDB f.write (updateRow clientID (.touchBoot now)) db).getD db, .matched,
        some { row.storedBoot with lastSeen := now })

/-! ## The combined call -/

/-- Both results `TOFUError`; the boot one only when boot values were given. -/
def failOutcome (o : AttestationOutcome) (boot : Option BootBaseline) : AttestationOutcome :=
  { o with agentHashResult := .error, bootResult := if boot.isSome then .error else o.bootResult }

/-- A data statement, then `COMMIT`. `written` is the outcome once the
statement went through; the flag says whether the transaction committed. -/
def writeAndCommit (f : Faults) (c : Conn SQLiteBaselineStore)
    (stmt : SQLiteBaselineStore → SQLiteBaselineStore)
    (boot : Option BootBaseline) (before written : AttestationOutcome) :
    Conn SQLiteBaselineStore × AttestationOutcome × Bool :=
  match c.exec f.write stmt with
  | none => (c, failOutcome before boot, false)
  | some c =>
    match c.commit f.commit with
    | none => (c, failOutcome written boot, false)
    | some c => (c, written, true)

/-- No row yet: insert both halves in one statement.
mirrors src/verifier/verify/sqlite_baseline.go:495-550 -/
def insertFresh (f : Faults) (c : Conn SQLiteBaselineStore) (clientID : String) (pcr14 agentHash : Hash)
    (boot : Option BootBaseline) (now : Time) : Conn SQLiteBaselineStore × AttestationOutcome × Bool :=
  let row := BaselineRow.fresh pcr14 agentHash now
  let outcome : AttestationOutcome := { bootProvided := boot.isSome }
  let written : AttestationOutcome :=
    { outcome with
      agentHashResult := .firstUse
      agentHashBaseline :=
        some { pcr14, agentHash, firstSeen := now, lastSeen := now, attestCount := 1 } }
  match boot with
  | none => writeAndCommit f c (AList.insert clientID row) none outcome written
  | some b =>
    writeAndCommit f c (AList.insert clientID (row.setBoot b now)) (some b) outcome
      { written with bootResult := .firstUse,
                     bootBaseline := some { b with firstSeen := now, lastSeen := now } }

/-- The commit phase for an existing row: one `UPDATE`, chosen by the boot
result.
mirrors src/verifier/verify/sqlite_baseline.go:630-712 -/
def updateExisting (f : Faults) (c : Conn SQLiteBaselineStore) (clientID : String) (row : BaselineRow)
    (agentHash : Hash) (boot : Option BootBaseline) (agentHashResult bootResult : TOFUResult)
    (now : Time) : Conn SQLiteBaselineStore × AttestationOutcome × Bool :=
  let set (r : BaselineRow) : BaselineRow := (r.touch now).setAgentHash agentHash
  let outcome : AttestationOutcome := { agentHashResult, bootProvided := boot.isSome, bootResult }
  let written : AttestationOutcome :=
    { outcome with agentHashBaseline := some { (row.touch now).client with agentHash } }
  match boot, bootResult with
  | none, _ => writeAndCommit f c (updateRow clientID set) none outcome written
  | some b, .firstUse =>
    writeAndCommit f c (updateRow clientID fun r => (set r).setBoot b now) (some b) outcome
      { written with bootBaseline := some { b with firstSeen := now, lastSeen := now } }
  | some b, _ =>
    writeAndCommit f c (updateRow clientID fun r => (set r).touchBoot now) (some b) outcome
      { written with
        bootBaseline := some { b with firstSeen := row.bootFirstSeen.getD zeroTime, lastSeen := now } }

/-- Everything between `BEGIN IMMEDIATE` and the end of the call.
mirrors src/verifier/verify/sqlite_baseline.go:478-712 -/
def attestationTx (f : Faults) (c : Conn SQLiteBaselineStore) (clientID : String)
    (pcr14 agentHash : Hash)
    (boot : Option BootBaseline) (now : Time) : Conn SQLiteBaselineStore × AttestationOutcome × Bool :=
  let outcome : AttestationOutcome := { bootProvided := boot.isSome }
  if f.select then (c, failOutcome outcome boot, false)
  else match c.view.lookup clientID with
  | none => insertFresh f c clientID pcr14 agentHash boot now
  | some row =>
    let mismatch := row.storedAgentHash.any (· ≠ agentHash)
    let agentHashResult : TOFUResult := if row.storedAgentHash.isNone then .legacyBackfill else .matched
    if mismatch then
      (c, { outcome with agentHashResult := .mismatch, agentHashBaseline := some row.client,
                         bootResult := if boot.isSome then .error else .firstUse }, false)
    else match boot with
    | none => updateExisting f c clientID row agentHash none agentHashResult .firstUse now
    | some b =>
      if row.bootZero then updateExisting f c clientID row agentHash (some b)
        agentHashResult .firstUse now
      else if ¬ row.storedBoot.SamePCRs b then
        (c, { outcome with agentHashResult, agentHashBaseline := some row.client,
                           bootResult := .mismatch, bootBaseline := some row.storedBoot }, false)
      else updateExisting f c clientID row agentHash (some b) agentHashResult .matched now

/-- mirrors src/verifier/verify/sqlite_baseline.go:438-712 (`CheckAndUpdateAttestation`) -/
def checkAndUpdateAttestation (db : SQLiteBaselineStore) (f : Faults) (clientID : String)
    (pcr14 agentHash : Hash) (boot : Option BootBaseline) (now : Time) :
    SQLiteBaselineStore × AttestationOutcome :=
  let outcome : AttestationOutcome := { bootProvided := boot.isSome }
  if f.conn then (db, failOutcome outcome boot)
  else match (Conn.acquire db).begin f.begin with
  | none => (db, failOutcome outcome boot)
  | some c =>
    match attestationTx f c clientID pcr14 agentHash boot now with
    | (c, outcome, committed) => (if committed then c.db else c.rollback.db, outcome)

/-! ### Faults -/

/-- A transaction that ended in an error and left the committed table alone. -/
def Aborted (f : Faults) (db : SQLiteBaselineStore)
    (r : Conn SQLiteBaselineStore × AttestationOutcome × Bool) : Prop :=
  r.1.db = db ∧ r.2.1.agentHashResult = .error ∧ r.2.2 = false ∧ f ≠ {}

/-- Inside a transaction a data statement and `COMMIT` go through together
or the transaction is aborted. -/
theorem writeAndCommit_cases (f : Faults) (db w : SQLiteBaselineStore)
    (stmt : SQLiteBaselineStore → SQLiteBaselineStore) (boot : Option BootBaseline)
    (before written : AttestationOutcome) :
    Aborted f db (writeAndCommit f ⟨db, some w⟩ stmt boot before written) ∨
      writeAndCommit f ⟨db, some w⟩ stmt boot before written =
        writeAndCommit {} ⟨db, some w⟩ stmt boot before written := by
  unfold writeAndCommit
  cases hw : Conn.exec f.write stmt ⟨db, some w⟩ with
  | none =>
    exact .inl ⟨rfl, rfl, rfl, Faults.ne_of Faults.write (Conn.exec_none hw) rfl⟩
  | some c =>
    obtain ⟨-, rfl⟩ := Conn.exec_some hw
    cases hc : Conn.commit f.commit ⟨db, some (stmt w)⟩ with
    | none =>
      refine .inl ?_
      simp only [hc]
      exact ⟨rfl, rfl, rfl, Faults.ne_of Faults.commit (Conn.commit_none hc) rfl⟩
    | some c' =>
      obtain ⟨-, rfl⟩ := Conn.commit_some hc
      refine .inr ?_
      simp only [hc]
      rfl

theorem insertFresh_cases (f : Faults) (db : SQLiteBaselineStore) (c : String) (q a : Hash)
    (boot : Option BootBaseline) (now : Time) :
    Aborted f db (insertFresh f ⟨db, some db⟩ c q a boot now) ∨
      insertFresh f ⟨db, some db⟩ c q a boot now = insertFresh {} ⟨db, some db⟩ c q a boot now := by
  unfold insertFresh
  cases boot with
  | none => exact writeAndCommit_cases ..
  | some b => exact writeAndCommit_cases ..

theorem updateExisting_cases (f : Faults) (db : SQLiteBaselineStore) (c : String)
    (row : BaselineRow) (a : Hash)
    (boot : Option BootBaseline) (r r' : TOFUResult) (now : Time) :
    Aborted f db (updateExisting f ⟨db, some db⟩ c row a boot r r' now) ∨
      updateExisting f ⟨db, some db⟩ c row a boot r r' now =
        updateExisting {} ⟨db, some db⟩ c row a boot r r' now := by
  unfold updateExisting
  cases boot with
  | none => exact writeAndCommit_cases ..
  | some b => cases r' <;> exact writeAndCommit_cases ..

theorem attestationTx_cases (f : Faults) (db : SQLiteBaselineStore) (c : String) (q a : Hash)
    (boot : Option BootBaseline) (now : Time) :
    Aborted f db (attestationTx f ⟨db, some db⟩ c q a boot now) ∨
      attestationTx f ⟨db, some db⟩ c q a boot now = attestationTx {} ⟨db, some db⟩ c q a boot now := by
  unfold attestationTx
  cases hs : f.select with
  | true => exact .inl ⟨rfl, rfl, rfl, Faults.ne_of Faults.select hs rfl⟩
  | false =>
    simp only [Bool.false_eq_true, if_false]
    split
    · exact insertFresh_cases ..
    · split
      · exact .inr rfl
      · split
        · exact updateExisting_cases ..
        · split
          · exact updateExisting_cases ..
          · split
            · exact .inr rfl
            · exact updateExisting_cases ..

/-- **Faults.** A call whose statements fail reports an error and changes
nothing, or it is the call without faults. -/
theorem checkAndUpdateAttestation_faults (db : SQLiteBaselineStore) (f : Faults)
    (c : String) (q a : Hash)
    (boot : Option BootBaseline) (now : Time) :
    (db.checkAndUpdateAttestation f c q a boot now).1 = db ∧
      (db.checkAndUpdateAttestation f c q a boot now).2.agentHashResult = .error ∧ f ≠ {} ∨
    db.checkAndUpdateAttestation f c q a boot now = db.checkAndUpdateAttestation {} c q a boot now := by
  unfold checkAndUpdateAttestation
  cases hn : f.conn with
  | true => exact .inl ⟨rfl, rfl, Faults.ne_of Faults.conn hn rfl⟩
  | false =>
    simp only [Bool.false_eq_true, if_false]
    cases hb : (Conn.acquire db).begin f.begin with
    | none => exact .inl ⟨rfl, rfl, Faults.ne_of Faults.begin (Conn.begin_none hb) rfl⟩
    | some c' =>
      obtain ⟨-, rfl⟩ := Conn.begin_some hb
      rcases attestationTx_cases f db c q a boot now with ⟨h1, h2, h3, h4⟩ | h
      · refine .inl ⟨?_, h2, h4⟩
        simp only [Conn.acquire, h3, Bool.false_eq_true, if_false, Conn.rollback_db]
        exact h1
      · refine .inr ?_
        simp only [Conn.acquire, h]
        rfl

/-- A failing data statement or `COMMIT` is reported. -/
theorem writeAndCommit_refused {f : Faults} (hf : f.write = true ∨ f.commit = true)
    (db w : SQLiteBaselineStore)
    (stmt : SQLiteBaselineStore → SQLiteBaselineStore) (boot : Option BootBaseline)
    (before written : AttestationOutcome) :
    (writeAndCommit f ⟨db, some w⟩ stmt boot before written).2.1.agentHashResult = .error := by
  unfold writeAndCommit
  cases hw : Conn.exec f.write stmt ⟨db, some w⟩ with
  | none => rfl
  | some c =>
    obtain ⟨h, rfl⟩ := Conn.exec_some hw
    have hc : f.commit = true := by
      rcases hf with hf | hf
      · rw [h] at hf; cases hf
      · exact hf
    simp only [Conn.commit, hc, if_true]
    rfl

/-- **A call that goes through had no fault.** -/
theorem checkAndUpdateAttestation_faultless {db : SQLiteBaselineStore} {f : Faults}
    {c : String} {q a : Hash}
    {boot : Option BootBaseline} {now : Time}
    (h : (db.checkAndUpdateAttestation f c q a boot now).2.refused = false) : f = {} := by
  have hinsert : f.write = true ∨ f.commit = true →
      (insertFresh f ⟨db, some db⟩ c q a boot now).2.1.agentHashResult = .error := by
    intro hf
    unfold insertFresh
    cases boot with
    | none => exact writeAndCommit_refused hf ..
    | some b => exact writeAndCommit_refused hf ..
  have hupdate : f.write = true ∨ f.commit = true → ∀ (row : BaselineRow) (boot : Option BootBaseline)
      (r r' : TOFUResult),
      (updateExisting f ⟨db, some db⟩ c row a boot r r' now).2.1.agentHashResult = .error := by
    intro hf row boot r r'
    unfold updateExisting
    cases boot with
    | none => exact writeAndCommit_refused hf ..
    | some b => cases r' <;> exact writeAndCommit_refused hf ..
  have herr : ∀ o : AttestationOutcome, o.agentHashResult = .error → o.refused = true := by
    intro o ho
    rw [AttestationOutcome.refused, ho]
    rfl
  have htx : f.select = true ∨ f.write = true ∨ f.commit = true →
      (attestationTx f ⟨db, some db⟩ c q a boot now).2.1.refused = true := by
    intro hf
    unfold attestationTx
    split
    · exact herr _ rfl
    · rename_i hs
      replace hf := hf.resolve_left hs
      split
      · exact herr _ (hinsert hf)
      · simp only
        split
        · rfl
        · split
          · exact herr _ (hupdate hf ..)
          · split
            · exact herr _ (hupdate hf ..)
            · split
              · simp [AttestationOutcome.refused, TOFUResult.refused]
              · exact herr _ (hupdate hf ..)
  unfold checkAndUpdateAttestation at h
  cases hn : f.conn with
  | true => rw [hn] at h; cases h
  | false =>
    simp only [hn, Bool.false_eq_true, if_false] at h
    cases hb : (Conn.acquire db).begin f.begin with
    | none => rw [hb] at h; cases h
    | some c' =>
      obtain ⟨hbegin, rfl⟩ := Conn.begin_some hb
      simp only [hb] at h
      have hno : ¬ (f.select = true ∨ f.write = true ∨ f.commit = true) := by
        intro hf
        have := htx hf
        rw [Conn.acquire] at h
        rw [h] at this
        cases this
      simp only [not_or, Bool.not_eq_true] at hno
      cases f
      simp_all

theorem failOutcome_bootHalf {o : AttestationOutcome} {boot : Option BootBaseline}
    (h : o.BootHalf boot) : (failOutcome o boot).BootHalf boot := by
  refine ⟨h.1, fun hn => ?_⟩
  subst hn
  exact h.2 rfl

theorem writeAndCommit_bootHalf (f : Faults) (c : Conn SQLiteBaselineStore)
    (stmt : SQLiteBaselineStore → SQLiteBaselineStore) {boot : Option BootBaseline}
    {before written : AttestationOutcome} (h : before.BootHalf boot) (h' : written.BootHalf boot) :
    (writeAndCommit f c stmt boot before written).2.1.BootHalf boot := by
  unfold writeAndCommit
  split
  · exact failOutcome_bootHalf h
  · split
    · exact failOutcome_bootHalf h'
    · exact h'

theorem checkAndUpdateAttestation_bootHalf (db : SQLiteBaselineStore) (f : Faults)
    (c : String) (q a : Hash)
    (boot : Option BootBaseline) (now : Time) :
    (db.checkAndUpdateAttestation f c q a boot now).2.BootHalf boot := by
  have hstart : ({ bootProvided := boot.isSome } : AttestationOutcome).BootHalf boot :=
    ⟨rfl, fun _ => rfl⟩
  have hupdate : ∀ (conn : Conn SQLiteBaselineStore) (row : BaselineRow) (r r' : TOFUResult),
      (boot = none → r' = .firstUse) →
      (updateExisting f conn c row a boot r r' now).2.1.BootHalf boot := by
    intro conn row r r' hr
    have hout : ({ agentHashResult := r, bootProvided := boot.isSome, bootResult := r' } :
        AttestationOutcome).BootHalf boot := ⟨rfl, hr⟩
    unfold updateExisting
    cases boot with
    | none => exact writeAndCommit_bootHalf _ _ _ hout hout
    | some b => cases r' <;> exact writeAndCommit_bootHalf _ _ _ hout hout
  have hinsert : ∀ conn : Conn SQLiteBaselineStore,
      (insertFresh f conn c q a boot now).2.1.BootHalf boot := by
    intro conn
    unfold insertFresh
    cases boot with
    | none => exact writeAndCommit_bootHalf _ _ _ hstart hstart
    | some b => exact writeAndCommit_bootHalf _ _ _ hstart hstart
  have htx : ∀ conn : Conn SQLiteBaselineStore,
      (attestationTx f conn c q a boot now).2.1.BootHalf boot := by
    intro conn
    unfold attestationTx
    split
    · exact failOutcome_bootHalf hstart
    · split
      · exact hinsert conn
      · simp only
        split
        · refine ⟨rfl, fun h => ?_⟩
          subst h
          rfl
        · cases boot with
          | none => exact hupdate _ _ _ _ fun _ => rfl
          | some b =>
            simp only
            split
            · exact hupdate _ _ _ _ fun h => by cases h
            · split
              · exact ⟨rfl, fun h => by cases h⟩
              · exact hupdate _ _ _ _ fun h => by cases h
  unfold checkAndUpdateAttestation
  simp only
  split
  · exact failOutcome_bootHalf hstart
  · split
    · exact failOutcome_bootHalf hstart
    · exact htx _

/-! ### What the combined call does -/

/-- The write of a combined call that went through: one row, with the
presented agent hash and the presented registers. -/
structure Wrote (db db' : SQLiteBaselineStore) (clientID : String) (agentHash : Hash)
    (boot : Option BootBaseline) : Prop where
  row : ∃ row : BaselineRow, row.agentHash = some agentHash.toList ∧ db' = db.insert clientID row ∧
    (boot = none → row.boot? = (db.lookup clientID).bind BaselineRow.boot?) ∧
    ∀ b, boot = some b → ∃ stored, row.boot? = some stored ∧ stored.SamePCRs b

theorem insertFresh_wrote (db : SQLiteBaselineStore) (c : String) (q a : Hash)
    (boot : Option BootBaseline)
    (now : Time) (hr : db.lookup c = none) :
    let r := insertFresh {} ⟨db, some db⟩ c q a boot now
    r.2.2 = true ∧ r.2.1.refused = false ∧ Wrote db r.1.db c a boot := by
  unfold insertFresh
  cases boot with
  | none =>
    refine ⟨rfl, rfl, ⟨_, rfl, rfl, ?_, ?_⟩⟩
    · intro _
      rw [hr]
      rfl
    · intro b h
      cases h
  | some b =>
    refine ⟨rfl, rfl, ⟨_, rfl, rfl, ?_, ?_⟩⟩
    · intro h
      cases h
    · intro b' h
      cases h
      exact ⟨_, BaselineRow.boot?_setBoot _ b now, rfl, rfl, rfl⟩

theorem updateExisting_wrote {db : SQLiteBaselineStore} {c : String} {row : BaselineRow} (a : Hash)
    (boot : Option BootBaseline) {r : TOFUResult} (r' : TOFUResult) (now : Time)
    (hr : db.lookup c = some row)
    (hf : r.refused = false)
    (hb : ∀ b, boot = some b → r' = .firstUse ∨
      r' = .matched ∧ row.bootZero = false ∧
      row.storedBoot.SamePCRs b) (hn : boot = none → r' = .firstUse) :
    let u := updateExisting {} ⟨db, some db⟩ c row a boot r r' now
    u.2.2 = true ∧ u.2.1.refused = false ∧ Wrote db u.1.db c a boot := by
  have hset : ∀ set : BaselineRow → BaselineRow, updateRow c set db = db.insert c (set row) := by
    intro set
    rw [updateRow, hr]
  unfold updateExisting
  cases boot with
  | none =>
    rw [hn rfl]
    refine ⟨rfl, ?_, ⟨_, ?_, hset _, ?_, ?_⟩⟩
    · show (r.refused || TOFUResult.refused .firstUse) = false
      rw [hf]; rfl
    · rfl
    · intro _
      rw [hr]
      rfl
    · intro b h
      cases h
  | some b =>
    rcases hb b rfl with h | ⟨h, hz, hs⟩
    · subst h
      refine ⟨rfl, ?_, ⟨_, ?_, hset _, ?_, ?_⟩⟩
      · show (r.refused || TOFUResult.refused .firstUse) = false
        rw [hf]; rfl
      · rfl
      · intro h
        cases h
      · intro b' h
        cases h
        exact ⟨_, BaselineRow.boot?_setBoot _ b now, rfl, rfl, rfl⟩
    · subst h
      refine ⟨rfl, ?_, ⟨_, ?_, hset _, ?_, ?_⟩⟩
      · show (r.refused || TOFUResult.refused .matched) = false
        rw [hf]; rfl
      · rfl
      · intro h
        cases h
      · intro b' h
        cases h
        exact ⟨_, if_neg (Bool.eq_false_iff.mp hz), hs⟩

/-- Everything the combined call can do, whatever fails: refuse and change
nothing, or write both halves into one row. -/
theorem checkAndUpdateAttestation_cases (db : SQLiteBaselineStore) (f : Faults)
    (c : String) (q a : Hash)
    (boot : Option BootBaseline) (now : Time) :
    let r := db.checkAndUpdateAttestation f c q a boot now
    (r.2.refused = true ∧ r.1 = db) ∨ (r.2.refused = false ∧ Wrote db r.1 c a boot) := by
  rcases checkAndUpdateAttestation_faults db f c q a boot now with ⟨hdb, he, -⟩ | h
  · refine .inl ⟨?_, hdb⟩
    rw [AttestationOutcome.refused, he]
    rfl
  simp only [h]
  have hcall : ∀ r, attestationTx {} ⟨db, some db⟩ c q a boot now = r →
      db.checkAndUpdateAttestation {} c q a boot now =
      (if r.2.2 then r.1.db else r.1.rollback.db, r.2.1) := by
    intro r hr
    subst hr
    rfl
  have hdone : ∀ r, attestationTx {} ⟨db, some db⟩ c q a boot now = r →
      r.2.2 = true ∧ r.2.1.refused = false ∧ Wrote db r.1.db c a boot →
      (db.checkAndUpdateAttestation {} c q a boot now).2.refused = false ∧
        Wrote db (db.checkAndUpdateAttestation {} c q a boot now).1 c a boot := by
    rintro r hr ⟨h1, h2, h3⟩
    rw [hcall r hr, if_pos h1]
    exact ⟨h2, h3⟩
  have hrefuse : (∃ o : AttestationOutcome,
      attestationTx {} ⟨db, some db⟩ c q a boot now = (⟨db, some db⟩, o, false) ∧ o.refused = true) →
      (db.checkAndUpdateAttestation {} c q a boot now).2.refused = true ∧
        (db.checkAndUpdateAttestation {} c q a boot now).1 = db := by
    rintro ⟨o, ho, h⟩
    rw [hcall _ ho]
    exact ⟨h, rfl⟩
  cases hr : db.lookup c with
  | none =>
    right
    refine hdone _ ?_ (insertFresh_wrote db c q a boot now hr)
    simp [attestationTx, Conn.view, hr]
  | some row =>
    have hres : ∀ o : Option Hash,
        TOFUResult.refused (if o.isNone then .legacyBackfill else .matched) = false := by
      intro o; cases o <;> rfl
    by_cases hm : row.storedAgentHash.any (· ≠ a) = true
    · left
      apply hrefuse
      simp only [attestationTx, Conn.view, Option.getD_some, hr, Bool.false_eq_true,
        if_false, if_pos hm]
      exact ⟨_, rfl, rfl⟩
    cases boot with
    | none =>
      right
      refine hdone _ ?_ (updateExisting_wrote a none .firstUse now hr (hres row.storedAgentHash)
        ?_ fun _ => rfl)
      · simp only [attestationTx, Conn.view, Option.getD_some, hr, Bool.false_eq_true,
          if_false, if_neg hm]
      · intro b h
        cases h
    | some b =>
      cases hz : row.bootZero with
      | true =>
        right
        refine hdone _ ?_ (updateExisting_wrote a (some b) .firstUse now hr (hres row.storedAgentHash)
          (fun _ _ => .inl rfl) fun _ => rfl)
        simp only [attestationTx, Conn.view, Option.getD_some, hr, Bool.false_eq_true, if_false,
          if_neg hm, hz, if_true]
      | false =>
        by_cases hs : row.storedBoot.SamePCRs b
        · right
          refine hdone _ ?_
            (updateExisting_wrote a (some b) .matched now hr (hres row.storedAgentHash) ?_ ?_)
          · simp only [attestationTx, Conn.view, Option.getD_some, hr, Bool.false_eq_true,
              if_false, if_neg hm, hz, hs, not_true_eq_false]
          · intro b' h
            cases h
            exact .inr ⟨rfl, hz, hs⟩
          · intro h
            cases h
        · left
          apply hrefuse
          simp only [attestationTx, Conn.view, Option.getD_some, hr, Bool.false_eq_true,
            if_false, if_neg hm, hz, hs, not_false_eq_true, if_true]
          exact ⟨_, rfl, by simp [AttestationOutcome.refused, TOFUResult.refused]⟩

end SQLiteBaselineStore

end Lota.L2.SqliteBaseline

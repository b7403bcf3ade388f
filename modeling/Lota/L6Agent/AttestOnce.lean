import Lota.L1Wire.ReportC

/-!
# From the event log to the verifier (`agent/attest.c`, `verifier/server/server.go`)

One attestation round after the report has been built: the agent reads the
firmware's event log, puts the serialized report on the connection, and the
server decides from the header whether it reads the rest.

The two sides have limits of their own. The agent's buffer holds a log of
512 KiB; the server refuses a message of more than 64 KiB.

* `tpmReadEventLog_chunks`: every log of at most 512 KiB is read, however the
  kernel cuts it.
* `attestOnce_sent`: what is then on the connection.
* `report_received_iff`: it reaches `VerifyReport` exactly when the log has at
  most 57576 bytes.
-/
namespace Lota.L6.AttestOnce
open Lota.Core Lota.L1.Report Lota.L1.ReportC

/-! ## The event log -/

/-- mirrors src/agent/tpm.h:780-781 -/
def tpmMaxEventLogSize : Nat := 512 * 1024

/-- A buffer of `size` bytes, filled from the front. -/
structure Buffer (size : Nat) where
  bytes : Bytes
  fits : bytes.length ≤ size

namespace Buffer

def empty (size : Nat) : Buffer size := ⟨[], Nat.zero_le _⟩

/-- `read(fd, buf + total, buf_size - total)`: the kernel never returns more
than it is asked for. -/
def fill {size : Nat} (b : Buffer size) (chunk : Bytes) : Buffer size where
  bytes := b.bytes ++ chunk.take (size - b.bytes.length)
  fits := by
    have := b.fits
    rw [List.length_append, List.length_take]
    omega

end Buffer

/-- What went wrong: an error of `open` or `read`, or a log that is too large. -/
inductive LogError where
  | errno (code : UInt32)
  | enospc
  deriving DecidableEq

/-- The answers of `read`, in order; an empty one is the end of the file, and
so is the end of the list. -/
abbrev Reads := List (Except UInt32 Bytes)

/-- The loop, with the answers that are left.
mirrors src/agent/tpm.c:3922-3932 -/
def readLoop {size : Nat} : Reads → Buffer size → Except LogError (Buffer size × Reads)
  | [], buf => .ok (buf, [])
  | r :: rest, buf =>
    if buf.bytes.length < size then
      match r with
      | .error code => .error (.errno code)
      | .ok chunk => if chunk = [] then .ok (buf, rest) else readLoop rest (buf.fill chunk)
    else .ok (buf, r :: rest)

/-- The byte read past a full buffer; a failed read counts as no byte.
mirrors src/agent/tpm.c:3939-3947 -/
def probe : Reads → Bool
  | .ok chunk :: _ => chunk ≠ []
  | _ => false

/-- mirrors src/agent/tpm.c:3907-3952 -/
def tpmReadEventLog (size : Nat) (opened : Except UInt32 Reads) : Except LogError (Buffer size) :=
  match opened with
  | .error code => .error (.errno code)
  | .ok reads =>
    match readLoop reads (.empty size) with
    | .error e => .error e
    | .ok (buf, rest) => if buf.bytes.length = size ∧ probe rest then .error .enospc else .ok buf

/-! ## The agent's side -/

/-- The pointer and the size that `attest_once` passes on: no buffer without
memory, and no bytes after a failed read.
mirrors src/agent/attest.c:661-680 -/
def eventLogArray (allocated : Bool) (opened : Except UInt32 Reads) : CArray UInt8 :=
  if allocated then
    match tpmReadEventLog tpmMaxEventLogSize opened with
    | .error _ => ⟨some [], 0, rfl⟩
    | .ok buf =>
      ⟨some buf.bytes, UInt32.ofNat buf.bytes.length, by
        have hf : buf.bytes.length ≤ 512 * 1024 := buf.fits
        rw [Option.getD_some, UInt32.toNat_ofNat_of_lt']
        exact Nat.lt_of_le_of_lt hf (by decide)⟩
  else .null _

/-- What is sent for a report that has been built.
mirrors src/agent/attest.c:682-709 -/
def attestOnce (report : LotaAttestationReport) (allocated : Bool) (opened : Except UInt32 Reads) :
    Except Errno Bytes :=
  let eventLog := eventLogArray allocated opened
  let total := calculateReportSize 0 eventLog.count
  serializeReport { report with header := { report.header with reportSize := total.toUInt32 } }
    (.null _)
    eventLog total

/-! ## The server's side -/

/-- How `handleConnection` goes on with what arrives on the connection. -/
inductive Received where
  | closed (what : String)
  | refused (code : ResultCode)
  | verifyReport (reportData : Bytes)
  deriving DecidableEq

/-- mirrors src/verifier/server/server.go:375-419 -/
def handleConnection (conn : Bytes) : Received :=
  if conn.length < 32 then .closed "failed to read report header"
  else
    let headerBuf := conn.take 32
    if ofLE (headerBuf.take 4) ≠ reportMagic.toNat then .refused .oldVersion
    else
      let totalSize := ofLE ((headerBuf.drop 8).take 4)
      if totalSize < 32 ∨ totalSize > 64 * 1024 then .refused .oldVersion
      else if totalSize > 32 ∧ (conn.drop 32).length < totalSize - 32
        then .closed "failed to read report body"
      else .verifyReport (headerBuf ++ (conn.drop 32).take (totalSize - 32))


/-! ## Reading the log -/

theorem Buffer.fill_bytes {size : Nat} (b : Buffer size) (chunk : Bytes)
    (h : b.bytes.length + chunk.length ≤ size) : (b.fill chunk).bytes = b.bytes ++ chunk := by
  simp only [fill]
  rw [List.take_of_length_le (by omega)]

/-- **Run.** The loop collects the chunks of a log that fits. -/
theorem readLoop_chunks {size : Nat} (chunks : List Bytes) (hne : ∀ c ∈ chunks, c ≠ []) :
    ∀ buf : Buffer size, buf.bytes.length + chunks.flatten.length ≤ size →
      ∃ buf', readLoop (chunks.map .ok) buf = .ok (buf', []) ∧
      buf'.bytes = buf.bytes ++ chunks.flatten := by
  induction chunks with
  | nil =>
    intro buf _
    exact ⟨buf, rfl, by simp⟩
  | cons c cs ih =>
    intro buf hfit
    have hc : c ≠ [] := hne c (by simp)
    have hpos : 0 < c.length := List.length_pos_iff.mpr hc
    simp only [List.flatten_cons, List.length_append] at hfit
    have hfill := buf.fill_bytes c (by omega)
    have hfit' : (buf.fill c).bytes.length + cs.flatten.length ≤ size := by
      rw [hfill, List.length_append]
      omega
    obtain ⟨buf', hrun, hbytes⟩ := ih (fun d hd => hne d (by simp [hd])) (buf.fill c) hfit'
    refine ⟨buf', ?_, ?_⟩
    · simp only [List.map_cons, readLoop]
      rw [if_pos (by omega), if_neg hc]
      exact hrun
    · rw [hbytes, hfill, List.flatten_cons, List.append_assoc]

/-- Every log that fits the buffer is read, however `read` cuts it. -/
theorem tpmReadEventLog_chunks {size : Nat} (chunks : List Bytes) (hne : ∀ c ∈ chunks, c ≠ [])
    (hfit : chunks.flatten.length ≤ size) :
    ∃ buf, tpmReadEventLog size (.ok (chunks.map .ok)) = .ok buf ∧ buf.bytes = chunks.flatten := by
  obtain ⟨buf, hrun, hbytes⟩ :=
    readLoop_chunks chunks hne (.empty size) (by simpa [Buffer.empty] using hfit)
  refine ⟨buf, ?_, by simpa [Buffer.empty] using hbytes⟩
  unfold tpmReadEventLog
  simp only [hrun]
  exact if_neg (by simp [probe])

/-! ## What is sent and what arrives -/

variable (r : LotaAttestationReport) (opened : Except UInt32 Reads)

theorem eventLogArray_items {buf : Buffer tpmMaxEventLogSize}
    (h : tpmReadEventLog tpmMaxEventLogSize opened = .ok buf) :
    (eventLogArray true opened).items = buf.bytes := by
  simp only [eventLogArray, if_true, CArray.items]
  rw [h]
  rfl

/-- The report that goes out, with its size in the header. -/
def sentReport (logSize : Nat) : LotaAttestationReport :=
  { r with header := { r.header with reportSize := UInt32.ofNat (minReportSize + logSize) } }

theorem attestOnce_sent {buf : Buffer tpmMaxEventLogSize}
    (h : tpmReadEventLog tpmMaxEventLogSize opened = .ok buf) :
    attestOnce r true opened =
    .ok (wireReport (goReport (sentReport r buf.bytes.length) buf.bytes)) := by
  have hitems := eventLogArray_items opened h
  have hcount : (eventLogArray true opened).count.toNat = buf.bytes.length := by
    rw [← hitems, ← CArray.given_eq, CArray.given_toNat]
  have hsize : (calculateReportSize 0 (eventLogArray true opened).count).toUInt32 =
      UInt32.ofNat (minReportSize + buf.bytes.length) := by
    apply UInt32.toNat_inj.mp
    rw [UInt64.toNat_toUInt32, calculateReportSize_toNat, hcount, UInt32.toNat_ofNat']
    rfl
  unfold attestOnce
  rw [serializeReport_null, hitems, hsize]
  rfl

/-- The words of the header, as the server picks them out. -/
theorem wireReport_words (g : AttestationReport) :
    ofLE (((wireReport g).take 32).take 4) = g.header.magic.toNat ∧
    ofLE ((((wireReport g).take 32).drop 8).take 4) = g.header.reportSize.toNat := by
  have hw : ∃ rest, wireReport g = toLE 4 g.header.magic.toNat ++
      (toLE 4 g.header.version.toNat ++ (toLE 4 g.header.reportSize.toNat ++ rest)) := by
    simp only [wireReport, wireHeader, List.append_assoc]
    exact ⟨_, rfl⟩
  obtain ⟨rest, hw⟩ := hw
  constructor
  · rw [List.take_take, hw, show min 4 32 = 4 from rfl, List.take_left' (toLE_length 4 _)]
    exact ofLE_toLE 4 _ g.header.magic.toNat_lt
  · rw [List.drop_take, List.take_take, hw, show min 4 (32 - 8) = 4 from rfl, ← List.append_assoc,
      List.drop_left' (by simp), List.take_left' (toLE_length 4 _)]
    exact ofLE_toLE 4 _ g.header.reportSize.toNat_lt

/-- A report that says its own length is read whole, up to 64 KiB. -/
theorem handleConnection_wireReport (g : AttestationReport) (hm : g.header.magic = reportMagic)
    (hs : g.header.reportSize.toNat = (wireReport g).length) :
    handleConnection (wireReport g) =
      if (wireReport g).length ≤ 64 * 1024 then .verifyReport (wireReport g)
        else .refused .oldVersion := by
  obtain ⟨hmagic, hsize⟩ := wireReport_words g
  have hlen : 7960 ≤ (wireReport g).length := by
    rw [wireReport_length]
    exact Nat.le_add_right _ _
  unfold handleConnection
  rw [if_neg (by omega)]
  simp only [hmagic, hsize, hm, hs]
  rw [if_neg (by simp)]
  by_cases h : (wireReport g).length ≤ 64 * 1024
  · have hbody : ((wireReport g).drop 32).take ((wireReport g).length - 32) = (wireReport g).drop 32 :=
      List.take_of_length_le (by rw [List.length_drop])
    rw [if_pos h, if_neg (by omega), if_neg (by rw [List.length_drop]; omega), hbody,
      List.take_append_drop]
  · rw [if_neg h, if_pos (by omega)]

/-- The message that carries `log`. -/
def sentWire (log : Bytes) : Bytes := wireReport (goReport (sentReport r log.length) log)

/-- The size in the header is the size of the message, and the fixed part
takes 7960 of the server's 65536 bytes. -/
theorem handleConnection_sentWire (hm : r.header.magic = reportMagic)
    (buf : Buffer tpmMaxEventLogSize) : handleConnection (sentWire r buf.bytes) =
      if buf.bytes.length ≤ 57576 then .verifyReport (sentWire r buf.bytes)
        else .refused .oldVersion := by
  have hf : buf.bytes.length ≤ 512 * 1024 := buf.fits
  have hlen : (sentWire r buf.bytes).length = 7960 + buf.bytes.length := wireReport_length _
  have hself : (goReport (sentReport r buf.bytes.length) buf.bytes).header.reportSize.toNat =
      (sentWire r buf.bytes).length := by
    rw [hlen]
    show (UInt32.ofNat (7960 + buf.bytes.length)).toNat = 7960 + buf.bytes.length
    rw [UInt32.toNat_ofNat']
    omega
  have hsmall : (sentWire r buf.bytes).length ≤ 64 * 1024 ↔ buf.bytes.length ≤ 57576 := by
    rw [hlen]
    omega
  rw [← if_congr hsmall rfl rfl]
  exact handleConnection_wireReport _ hm hself

/-- **Receivable reports.** What the agent sends for an event log it has read
reaches `VerifyReport`, whole, exactly when the log has at most 57576 bytes. -/
theorem report_received_iff (hm : r.header.magic = reportMagic) (buf : Buffer tpmMaxEventLogSize)
    (h : tpmReadEventLog tpmMaxEventLogSize opened = .ok buf) :
    (∃ wire, attestOnce r true opened = .ok wire ∧ handleConnection wire = .verifyReport wire) ↔
      buf.bytes.length ≤ 57576 := by
  have hconn := handleConnection_sentWire r hm buf
  constructor
  · rintro ⟨wire, hw, hv⟩
    obtain rfl := Except.ok.inj ((attestOnce_sent r opened h).symm.trans hw)
    by_contra hbig
    have hr := hconn.symm.trans hv
    rw [if_neg hbig] at hr
    cases hr
  · intro hle
    exact ⟨_, attestOnce_sent r opened h, hconn.trans (if_pos hle)⟩

/-- A log of `n` zero bytes that one `read` returns. -/
def zeroLog (n : Nat) : Except UInt32 Reads := .ok ([List.replicate n 0].map .ok)

theorem tpmReadEventLog_zeroLog (n : Nat) (h0 : n ≠ 0) (h : n ≤ tpmMaxEventLogSize) :
    ∃ buf, tpmReadEventLog tpmMaxEventLogSize (zeroLog n) = .ok buf ∧ buf.bytes.length = n := by
  obtain ⟨buf, hr, hb⟩ := @tpmReadEventLog_chunks tpmMaxEventLogSize [List.replicate n 0] (by simp [h0])
    (by simpa using h)
  exact ⟨buf, hr, by simp [hb]⟩

theorem report_received_iff_small :
    ∃ wire, attestOnce blankReport true (zeroLog 57576) = .ok wire ∧
    handleConnection wire = .verifyReport wire := by
  obtain ⟨buf, hr, hb⟩ := tpmReadEventLog_zeroLog 57576 (by decide) (by decide)
  exact (report_received_iff blankReport (zeroLog 57576) rfl buf hr).mpr (Nat.le_of_eq hb)

/-- One byte more, far below the 512 KiB of the agent's buffer: the log is
read and attached, and the server refuses the report that carries it. -/
theorem report_refused_large :
    ∃ buf wire, tpmReadEventLog tpmMaxEventLogSize (zeroLog 57577) = .ok buf ∧
      attestOnce blankReport true (zeroLog 57577) = .ok wire ∧
      handleConnection wire = .refused .oldVersion := by
  obtain ⟨buf, hr, hb⟩ := tpmReadEventLog_zeroLog 57577 (by decide) (by decide)
  have hconn := handleConnection_sentWire blankReport rfl buf
  rw [if_neg (by omega)] at hconn
  exact ⟨buf, _, hr, attestOnce_sent blankReport (zeroLog 57577) hr, hconn⟩

end Lota.L6.AttestOnce

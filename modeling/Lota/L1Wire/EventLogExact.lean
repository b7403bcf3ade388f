import Lota.Core.OffsetReader
import Lota.L1Wire.TcgReplay

/-!
# Exactness of the event log parser (`verifier/verify/eventlog.go`)

The parser finds each event by skipping exactly over the ones before it. Here
it is written once more as the source has it, with offsets into the input and
reads that fault outside of it (`Checked`), and shown to be the parser on
suffixes. The log's own encoding is a definition apart (`SpecHeader.bytes`,
`TcgEvent.bytes`).

* `Checked.parseEventLog_eq`: the two parsers are one, so no read faults.
* `parseEventLog_encoded`: an encoded log parses to its header and its events.
* `parseEventLog_decoded`: what parses is a header and the events in a row.
* `event_log_exact`: both, for the parser with offsets.
-/
namespace Lota.L1.EventLog
open Lota.Core Lota.L1.Report

/-! ## The parser with offsets -/

namespace Checked

/-- The second half of an algorithm entry is skipped.
mirrors src/verifier/verify/eventlog.go:166-174 -/
def readAlgs : (n : Nat) → (algs : List UInt16) → OReader (List UInt16)
  | 0, algs => pure algs
  | n + 1, algs => do
    let b ← OReader.needFirst "truncated algorithm list" 2 2
    readAlgs n (algs ++ [UInt16.ofNat (ofLE b)])

/-- mirrors src/verifier/verify/eventlog.go:141-177 -/
def parseSpecIDEvent (data : Bytes) : Except (Stop String) (List UInt16) :=
  if data.length < 28 then .error (.err "spec ID event too short")
  else do
    let numAlgs := ofLE (← load data 24 4)
    if numAlgs = 0 ∨ numAlgs > 8 then .error (.err ("invalid algorithm count: " ++ toString numAlgs))
    else ((readAlgs numAlgs []).run data 28).map Prod.fst

/-- mirrors src/verifier/verify/eventlog.go:207-227 -/
def readDigests : (n : Nat) → (digests : GoMap UInt16 Bytes) → OReader (GoMap UInt16 Bytes)
  | 0, digests => pure digests
  | n + 1, digests => do
    let b ← (do OReader.ensure errUnexpectedEOF 2; OReader.take 2)
    let algID := UInt16.ofNat (ofLE b)
    let digestSize := algDigestSize algID
    if digestSize = 0 then .fail ("unknown digest algorithm: 0x" ++ fmtx 4 algID.toNat)
    else
      let digest ← (do OReader.ensure errUnexpectedEOF digestSize; OReader.take digestSize)
      readDigests n (digests.insert algID digest)

/-- The offset starts at zero in the slice that is passed in.
mirrors src/verifier/verify/eventlog.go:180-247 -/
def parsePCREvent2 : OReader EventLogEntry := do
  let (pcrIndex, eventType) ← OReader.needTwo errUnexpectedEOF 4 4
  let cnt ← (do OReader.ensure errUnexpectedEOF 4; OReader.take 4)
  let digestCount := ofLE cnt
  if digestCount > maxTCGDigestCount then .fail ("digest count too large: " ++ toString digestCount)
  else
    let digests ← readDigests digestCount ∅
    let sz ← (do OReader.ensure errUnexpectedEOF 4; OReader.take 4)
    let eventDataSize := ofLE sz
    if eventDataSize > maxTCGEventDataSize
      then .fail ("event data too large: " ++ toString eventDataSize)
    else
      let eventData ← (do OReader.ensure errUnexpectedEOF eventDataSize; OReader.take eventDataSize)
      pure { pcrIndex := UInt32.ofNat (ofLE pcrIndex), eventType := UInt32.ofNat (ofLE eventType),
             digests, eventData }

/-- The entry loop over `data[offset:]`.
mirrors src/verifier/verify/eventlog.go:123-135 -/
def parseEntries (data : Bytes) (offset : Nat) : Except (Stop String) (List EventLogEntry) :=
  if _hlt : offset < data.length then
    match load data offset (data.length - offset) with
    | .error e => .error e
    | .ok sub =>
      match parsePCREvent2.run sub 0 with
      | .error .fault => .error .fault
      | .error (.err e) =>
        .error (.err ("event log truncated or malformed at offset " ++ toString offset ++ ": " ++ e))
      | .ok (entry, consumed) =>
        if _h : consumed = 0 then
          .error (.err ("event log parser consumed zero bytes at offset " ++ toString offset))
        else (parseEntries data (offset + consumed)).map (entry :: ·)
  else .ok []
termination_by data.length - offset

/-- mirrors src/verifier/verify/eventlog.go:80-138 (`ParseEventLog`) -/
def parseEventLog (data : Bytes) : Except (Stop String) ParsedEventLog :=
  if data.length < 32 then .error (.err "event log too short")
  else do
    let headerPCR := ofLE (← load data 0 4)
    let headerType := ofLE (← load data 4 4)
    let headerDataSize := ofLE (← load data 28 4)
    if headerPCR ≠ 0 ∨ headerType ≠ evNoAction.toNat then
      .error (.err ("invalid event log header: pcr=" ++ toString headerPCR ++ " type=0x" ++
        fmtx 0 headerType))
    else if headerDataSize > maxTCGHeaderDataSize then
      .error (.err ("event log header data too large: " ++ toString headerDataSize))
    else if headerDataSize > data.length - 32 then .error (.err "event log truncated at header data")
    else
      let specData ← load data 32 headerDataSize
      match parseSpecIDEvent specData with
      | .error .fault => .error .fault
      | .error (.err e) => .error (.err ("failed to parse Spec ID Event: " ++ e))
      | .ok algList =>
        let entries ← parseEntries data (32 + headerDataSize)
        pure { entries, algorithmList := algList }

/-! ## The same parser -/

theorem readAlgs_as (n : Nat) (algs : List UInt16) :
    ReadsAs (readAlgs n algs) (EventLog.readAlgs n algs) := by
  induction n generalizing algs with
  | zero => exact .pure algs
  | succ n ih =>
    have h := (ReadsAs.needFirst "truncated algorithm list" 2 2).bind fun b =>
      ih (algs ++ [UInt16.ofNat (ofLE b)])
    rwa [Reader.bind_pure_bind] at h

theorem readDigests_as (n : Nat) (digests : GoMap UInt16 Bytes) :
    ReadsAs (readDigests n digests) (EventLog.readDigests n digests) := by
  induction n generalizing digests with
  | zero => exact .pure digests
  | succ n ih =>
    refine (ReadsAs.need errUnexpectedEOF 2).bind fun b => ?_
    refine .ite (.fail _) ?_
    exact (ReadsAs.need errUnexpectedEOF _).bind fun digest => ih _

theorem parsePCREvent2_as : ReadsAs parsePCREvent2 EventLog.parsePCREvent2 := by
  have h : ReadsAs parsePCREvent2
      ((Lota.Core.need errUnexpectedEOF (4 + 4) >>=
        fun b => (pure (b.take 4, b.drop 4) : Reader (Bytes × Bytes))) >>= fun p => do
          let cnt ← Lota.Core.need errUnexpectedEOF 4
          let digestCount := ofLE cnt
          if digestCount > maxTCGDigestCount
            then .fail ("digest count too large: " ++ toString digestCount)
          else
            let digests ← EventLog.readDigests digestCount ∅
            let sz ← Lota.Core.need errUnexpectedEOF 4
            let eventDataSize := ofLE sz
            if eventDataSize > maxTCGEventDataSize
              then .fail ("event data too large: " ++ toString eventDataSize)
            else
              let eventData ← Lota.Core.need errUnexpectedEOF eventDataSize
              pure { pcrIndex := UInt32.ofNat (ofLE p.1), eventType := UInt32.ofNat (ofLE p.2),
                     digests, eventData }) := by
    refine (ReadsAs.needTwo errUnexpectedEOF 4 4).bind fun p => ?_
    refine (ReadsAs.need errUnexpectedEOF 4).bind fun cnt => ?_
    refine .ite (.fail _) ?_
    refine (readDigests_as _ _).bind fun digests => ?_
    refine (ReadsAs.need errUnexpectedEOF 4).bind fun sz => ?_
    refine .ite (.fail _) ?_
    exact (ReadsAs.need errUnexpectedEOF _).bind fun eventData => .pure _
  rwa [Reader.bind_pure_bind] at h

theorem parseSpecIDEvent_eq (data : Bytes) :
    parseSpecIDEvent data = liftErr (EventLog.parseSpecIDEvent data) := by
  unfold parseSpecIDEvent EventLog.parseSpecIDEvent
  by_cases hlen : data.length < 28
  · rw [if_pos hlen, if_pos hlen]
    rfl
  rw [if_neg hlen, if_neg hlen, load_ok (by omega)]
  simp only [bind, Except.bind]
  split
  · rfl
  · rcases readAlgs_as (ofLE ((data.drop 24).take 4)) [] data 28 (by omega) with ⟨e, hr, hx⟩ | ⟨a,
      off, hr, hx, -, -⟩
    · rw [hr, hx]
      rfl
    · rw [hr, hx]
      rfl

theorem parseEntries_eq (data : Bytes) (offset : Nat) (hoff : offset ≤ data.length) :
    parseEntries data offset = liftErr (EventLog.parseEntries offset (data.drop offset)) := by
  induction hn : data.length - offset using Nat.strongRecOn generalizing offset with
  | ind n ih =>
    have hlen : (data.drop offset).length = data.length - offset := List.length_drop
    rw [parseEntries, EventLog.parseEntries]
    by_cases hlt : offset < data.length
    · have hsub : (load data offset (data.length - offset) : Except (Stop String) Bytes) =
          .ok (data.drop offset) := by
        rw [load_ok (by omega), List.take_of_length_le (by rw [hlen])]
      rw [dif_pos hlt, hsub, if_neg (by omega)]
      rcases parsePCREvent2_as (data.drop offset) 0 (Nat.zero_le _) with ⟨e, hr, hx⟩ | ⟨entry,
        consumed, hr, hx, -, hle⟩
      · rw [List.drop_zero] at hr
        simp only [hr, hx]
        rfl
      · rw [List.drop_zero] at hr
        simp only [hr, hx]
        have hcons : (data.drop offset).length - ((data.drop offset).drop consumed).length =
            consumed := by
          simp only [List.length_drop] at hle ⊢
          omega
        simp only [hcons]
        by_cases h0 : consumed = 0
        · rw [dif_pos h0, dif_pos h0]
          rfl
        · rw [dif_neg h0, dif_neg h0, ih (data.length - (offset + consumed)) (by omega) _ (by omega)
            rfl, List.drop_drop]
          cases EventLog.parseEntries (offset + consumed) (data.drop (offset + consumed)) <;> rfl
    · rw [dif_neg hlt, if_pos (by omega)]
      rfl

/-- **One parser.** No read is outside the input. -/
theorem parseEventLog_eq (data : Bytes) :
    parseEventLog data = liftErr (EventLog.parseEventLog data) := by
  unfold parseEventLog EventLog.parseEventLog
  by_cases hlen : data.length < 32
  · rw [if_pos hlen, if_pos hlen]
    rfl
  rw [if_neg hlen, if_neg hlen, load_ok (by omega), load_ok (by omega), load_ok (by omega)]
  simp only [bind, Except.bind, List.drop_zero, List.length_drop]
  split
  · rfl
  split
  · rfl
  split
  · rfl
  rename_i hsize
  rw [load_ok (by omega)]
  simp only [parseSpecIDEvent_eq]
  cases EventLog.parseSpecIDEvent ((data.drop 32).take (ofLE ((data.drop 28).take 4))) with
  | error e => rfl
  | ok algList =>
    simp only [liftErr]
    rw [parseEntries_eq data _ (by omega), List.drop_drop]
    cases EventLog.parseEntries (32 + ofLE ((data.drop 28).take 4))
      (data.drop (32 + ofLE ((data.drop 28).take 4))) <;> rfl

end Checked

/-! ## The encoding -/

/-- The legacy header event with its Spec ID Event. `preamble` has the
signature, the platform class and the version of the specification; `vendor`
follows the algorithms. -/
structure SpecHeader where
  digest : Blob 20
  preamble : Blob 24
  algs : List (UInt16 × UInt16)
  vendor : Bytes

namespace SpecHeader

def specBytes (h : SpecHeader) : Bytes :=
  h.preamble.toList ++ (toLE 4 h.algs.length ++
    (h.algs.flatMap (fun a => toLE 2 a.1.toNat ++ toLE 2 a.2.toNat) ++ h.vendor))

def bytes (h : SpecHeader) : Bytes :=
  toLE 4 0 ++
    (toLE 4 evNoAction.toNat ++ (h.digest.toList ++ (toLE 4 h.specBytes.length ++ h.specBytes)))

structure Valid (h : SpecHeader) : Prop where
  some : 0 < h.algs.length
  most : h.algs.length ≤ 8
  size : h.specBytes.length ≤ maxTCGHeaderDataSize

end SpecHeader

/-- A `TCG_PCR_EVENT2`; its digests in the order they are written. -/
structure TcgEvent where
  pcrIndex : UInt32
  eventType : UInt32
  digests : List (UInt16 × Bytes)
  eventData : Bytes

namespace TcgEvent

def bytes (e : TcgEvent) : Bytes :=
  toLE 4 e.pcrIndex.toNat ++ (toLE 4 e.eventType.toNat ++ (toLE 4 e.digests.length ++
    (e.digests.flatMap (fun d => toLE 2 d.1.toNat ++ d.2) ++
      (toLE 4 e.eventData.length ++ e.eventData))))

/-- A later digest of an algorithm overwrites an earlier one. -/
def entry (e : TcgEvent) : EventLogEntry where
  pcrIndex := e.pcrIndex
  eventType := e.eventType
  digests := e.digests.foldl (fun m d => m.insert d.1 d.2) ∅
  eventData := e.eventData

/-- What the parser takes: known algorithms, at most 16 digests. -/
structure Parses (e : TcgEvent) : Prop where
  count : e.digests.length ≤ maxTCGDigestCount
  known : ∀ d ∈ e.digests, algDigestSize d.1 ≠ 0 ∧ d.2.length = algDigestSize d.1
  size : e.eventData.length ≤ maxTCGEventDataSize

end TcgEvent

/-! ## Events -/

theorem readDigests_encoded (ds : List (UInt16 × Bytes)) (m : GoMap UInt16 Bytes) (rest : Bytes)
    (h : ∀ d ∈ ds, algDigestSize d.1 ≠ 0 ∧ d.2.length = algDigestSize d.1) :
    (readDigests ds.length m).run (ds.flatMap (fun d => toLE 2 d.1.toNat ++ d.2) ++ rest) =
      .ok (ds.foldl (fun m d => m.insert d.1 d.2) m, rest) := by
  induction ds generalizing m with
  | nil => rfl
  | cons d ds ih =>
    obtain ⟨hknown, hlen⟩ := h d List.mem_cons_self
    have halg : UInt16.ofNat (ofLE (toLE 2 d.1.toNat)) = d.1 := by
      rw [ofLE_toLE 2 _ d.1.toNat_lt, UInt16.ofNat_toNat]
    simp only [List.flatMap_cons, List.append_assoc, List.length_cons, readDigests]
    rw [Reader.bind_run (need_append (toLE_length 2 _) _), halg, if_neg hknown,
      Reader.bind_run (need_append hlen _)]
    exact ih (m.insert d.1 d.2) fun e he => h e (List.mem_cons_of_mem d he)

/-- The parser inverts the encoding of an event. -/
theorem parsePCREvent2_encoded {e : TcgEvent} (h : e.Parses) (rest : Bytes) :
    parsePCREvent2.run (e.bytes ++ rest) = .ok (e.entry, rest) := by
  have hcount := h.count
  have hsize := h.size
  unfold maxTCGDigestCount at hcount
  unfold maxTCGEventDataSize at hsize
  have hc : ofLE (toLE 4 e.digests.length) = e.digests.length := ofLE_toLE 4 _ (by omega)
  have hs : ofLE (toLE 4 e.eventData.length) = e.eventData.length := ofLE_toLE 4 _ (by omega)
  have hhead : (toLE 4 e.pcrIndex.toNat ++ toLE 4 e.eventType.toNat).length = 8 := by simp
  unfold parsePCREvent2 TcgEvent.bytes
  simp only [List.append_assoc]
  rw [← List.append_assoc (toLE 4 e.pcrIndex.toNat), Reader.bind_run (need_append hhead _),
    Reader.bind_run (need_append (toLE_length 4 _) _), hc]
  rw [if_neg (by unfold maxTCGDigestCount; omega), Reader.bind_run (readDigests_encoded _ ∅ _ h.known),
    Reader.bind_run (need_append (toLE_length 4 _) _), hs,
    if_neg (by unfold maxTCGEventDataSize; omega),
    Reader.bind_run (need_append rfl _), Reader.pure_run, List.take_left' (toLE_length 4 _),
    List.drop_left' (toLE_length 4 _), ofLE_toLE 4 _ e.pcrIndex.toNat_lt,
    ofLE_toLE 4 _ e.eventType.toNat_lt, UInt32.ofNat_toNat, UInt32.ofNat_toNat]
  rfl

theorem TcgEvent.bytes_pos (e : TcgEvent) : 0 < e.bytes.length := by
  unfold TcgEvent.bytes
  rw [List.length_append, toLE_length]
  omega

theorem parseEntries_encoded {events : List TcgEvent} (h : ∀ e ∈ events, e.Parses) (offset : Nat) :
    parseEntries offset (events.flatMap TcgEvent.bytes) = .ok (events.map TcgEvent.entry) := by
  induction events generalizing offset with
  | nil =>
    rw [parseEntries]
    rfl
  | cons e events ih =>
    have hpos := e.bytes_pos
    rw [parseEntries, List.flatMap_cons, parsePCREvent2_encoded (h e List.mem_cons_self),
      List.length_append]
    simp only
    rw [if_neg (by omega), dif_neg (by omega), ih fun d hd => h d (List.mem_cons_of_mem e hd)]
    rfl

theorem readDigests_decoded {n : Nat} {m m' : GoMap UInt16 Bytes} {r r' : Bytes}
    (h : (readDigests n m).run r = .ok (m', r')) :
    ∃ ds : List (UInt16 × Bytes), ds.length = n ∧
      (∀ d ∈ ds, algDigestSize d.1 ≠ 0 ∧ d.2.length = algDigestSize d.1) ∧
      r = ds.flatMap (fun d => toLE 2 d.1.toNat ++ d.2) ++ r' ∧
      m' = ds.foldl (fun m d => m.insert d.1 d.2) m := by
  induction n generalizing m r with
  | zero =>
    cases h
    exact ⟨[], rfl, by simp, rfl, rfl⟩
  | succ n ih =>
    unfold readDigests at h
    obtain ⟨b, r₁, hb, h⟩ := Reader.bind_ok.mp h
    obtain ⟨hblen, hr⟩ := need_ok hb
    simp only at h
    split at h
    · cases h
    · rename_i hknown
      obtain ⟨digest, r₂, hd, h⟩ := Reader.bind_ok.mp h
      obtain ⟨hdlen, hr₁⟩ := need_ok hd
      obtain ⟨ds, hlen, hds, hr₂, hm⟩ := ih h
      have hlt := ofLE_lt b
      rw [hblen] at hlt
      have halg : toLE 2 (UInt16.ofNat (ofLE b)).toNat = b := by
        rw [UInt16.toNat_ofNat', Nat.mod_eq_of_lt (by omega), ← hblen, toLE_ofLE]
      refine ⟨(UInt16.ofNat (ofLE b), digest) :: ds, by rw [List.length_cons, hlen], ?_, ?_, hm⟩
      · intro d hd
        rcases List.mem_cons.mp hd with heq | hd
        · rw [heq]
          exact ⟨hknown, hdlen⟩
        · exact hds d hd
      · rw [hr, hr₁, hr₂, List.flatMap_cons, halg, List.append_assoc, List.append_assoc]

theorem toLE_four {b : Bytes} (h : b.length = 4) : toLE 4 (UInt32.ofNat (ofLE b)).toNat = b := by
  have hlt := ofLE_lt b
  rw [h] at hlt
  rw [UInt32.toNat_ofNat', Nat.mod_eq_of_lt (by omega), ← h, toLE_ofLE]

/-- An event that parses is the encoding of what is returned. -/
theorem parsePCREvent2_decoded {r r' : Bytes} {entry : EventLogEntry}
    (h : parsePCREvent2.run r = .ok (entry, r')) :
    ∃ e : TcgEvent, e.Parses ∧ r = e.bytes ++ r' ∧ entry = e.entry := by
  unfold parsePCREvent2 at h
  obtain ⟨head, r₁, hhead, h⟩ := Reader.bind_ok.mp h
  obtain ⟨hhlen, hr⟩ := need_ok hhead
  obtain ⟨cnt, r₂, hcnt, h⟩ := Reader.bind_ok.mp h
  obtain ⟨hclen, hr₁⟩ := need_ok hcnt
  simp only at h
  split at h
  · cases h
  rename_i hcount
  obtain ⟨digests, r₃, hdigests, h⟩ := Reader.bind_ok.mp h
  obtain ⟨ds, hlen, hknown, hr₂, hm⟩ := readDigests_decoded hdigests
  obtain ⟨sz, r₄, hsz, h⟩ := Reader.bind_ok.mp h
  obtain ⟨hslen, hr₃⟩ := need_ok hsz
  split at h
  · cases h
  rename_i hsize
  obtain ⟨eventData, r₅, hdata, h⟩ := Reader.bind_ok.mp h
  obtain ⟨hdlen, hr₄⟩ := need_ok hdata
  cases h
  have hdsle : ds.length ≤ maxTCGDigestCount := by omega
  have hdatale : eventData.length ≤ maxTCGEventDataSize := by omega
  refine ⟨{ pcrIndex := UInt32.ofNat (ofLE (head.take 4)),
            eventType := UInt32.ofNat (ofLE (head.drop 4))
            digests := ds, eventData := eventData }, ⟨hdsle, hknown, hdatale⟩, ?_, ?_⟩
  · have hcb : toLE 4 ds.length = cnt := by rw [hlen, ← hclen, toLE_ofLE]
    have hsb : toLE 4 eventData.length = sz := by rw [hdlen, ← hslen, toLE_ofLE]
    unfold TcgEvent.bytes
    simp only
    rw [toLE_four (by rw [List.length_take]; omega), toLE_four (by rw [List.length_drop]; omega),
      hcb, hsb, hr, hr₁, hr₂, hr₃, hr₄]
    simp only [List.append_assoc]
    rw [← List.append_assoc (head.take 4), List.take_append_drop]
  · rw [hm]
    rfl

theorem parseEntries_decoded {offset : Nat} {data : Bytes} {entries : List EventLogEntry}
    (h : parseEntries offset data = .ok entries) :
    ∃ events : List TcgEvent, (∀ e ∈ events, e.Parses) ∧ data = events.flatMap TcgEvent.bytes ∧
      entries = events.map TcgEvent.entry := by
  induction hlen : data.length using Nat.strongRecOn generalizing offset data entries with
  | ind n ih =>
    rw [parseEntries] at h
    split at h
    · rename_i hnil
      cases h
      exact ⟨[], by simp, List.eq_nil_of_length_eq_zero hnil, rfl⟩
    · rcases hok : parsePCREvent2.run data with err | ⟨entry, rest⟩
      · rw [hok] at h
        cases h
      · simp only [hok] at h
        split at h
        · cases h
        · rename_i hpos
          obtain ⟨e, he, hdata, hentry⟩ := parsePCREvent2_decoded hok
          rcases hrest : parseEntries (offset + (data.length - rest.length)) rest with err | tail
          · rw [hrest] at h
            cases h
          · rw [hrest] at h
            cases h
            obtain ⟨events, hevents, hrb, htail⟩ := ih rest.length (by omega) hrest rfl
            refine ⟨e :: events, ?_, ?_, ?_⟩
            · intro d hd
              rcases List.mem_cons.mp hd with heq | hd
              · exact heq ▸ he
              · exact hevents d hd
            · rw [hdata, List.flatMap_cons, ← hrb]
            · rw [hentry, htail, List.map_cons]

/-! ## The header -/

theorem readAlgs_encoded (algs : List (UInt16 × UInt16)) (acc : List UInt16) (rest : Bytes) :
    (readAlgs algs.length acc).run
    (algs.flatMap (fun a => toLE 2 a.1.toNat ++ toLE 2 a.2.toNat) ++ rest) =
      .ok (acc ++ algs.map Prod.fst, rest) := by
  induction algs generalizing acc with
  | nil => simp [readAlgs]
  | cons a algs ih =>
    have hlen : (toLE 2 a.1.toNat ++ toLE 2 a.2.toNat).length = 4 := by simp
    have halg : UInt16.ofNat (ofLE ((toLE 2 a.1.toNat ++ toLE 2 a.2.toNat).take 2)) = a.1 := by
      rw [List.take_left' (toLE_length 2 _), ofLE_toLE 2 _ a.1.toNat_lt, UInt16.ofNat_toNat]
    rw [List.flatMap_cons, List.append_assoc, List.length_cons, readAlgs,
      Reader.bind_run (need_append hlen _), halg, ih]
    simp

theorem readAlgs_decoded {n : Nat} {acc algs : List UInt16} {r r' : Bytes}
    (h : (readAlgs n acc).run r = .ok (algs, r')) :
    ∃ as : List (UInt16 × UInt16), as.length = n ∧ algs = acc ++ as.map Prod.fst ∧
      r = as.flatMap (fun a => toLE 2 a.1.toNat ++ toLE 2 a.2.toNat) ++ r' := by
  induction n generalizing acc r with
  | zero =>
    cases h
    exact ⟨[], rfl, by simp, rfl⟩
  | succ n ih =>
    obtain ⟨b, r₁, hb, h⟩ := Reader.bind_ok.mp h
    obtain ⟨hblen, hr⟩ := need_ok hb
    obtain ⟨as, hlen, halgs, hr₁⟩ := ih h
    have htwo (c : Bytes) (hc : c.length = 2) : toLE 2 (UInt16.ofNat (ofLE c)).toNat = c := by
      have hlt := ofLE_lt c
      rw [hc] at hlt
      rw [UInt16.toNat_ofNat', Nat.mod_eq_of_lt (by omega), ← hc, toLE_ofLE]
    refine ⟨(UInt16.ofNat (ofLE (b.take 2)), UInt16.ofNat (ofLE (b.drop 2))) :: as,
      by rw [List.length_cons, hlen], ?_, ?_⟩
    · rw [halgs]
      simp
    · rw [List.flatMap_cons, htwo _ (by rw [List.length_take]; omega),
        htwo _ (by rw [List.length_drop]; omega),
        List.take_append_drop, List.append_assoc, ← hr₁, hr]

namespace SpecHeader

variable {h : SpecHeader}

theorem specBytes_drop (h : SpecHeader) : h.specBytes.drop 28 =
    h.algs.flatMap (fun a => toLE 2 a.1.toNat ++ toLE 2 a.2.toNat) ++ h.vendor := by
  unfold specBytes
  rw [← List.append_assoc]
  exact List.drop_left' (by simp)

theorem specBytes_count (h : SpecHeader) : (h.specBytes.drop 24).take 4 = toLE 4 h.algs.length := by
  unfold specBytes
  rw [List.drop_left' h.preamble.toList_length]
  exact List.take_left' (toLE_length 4 _)

theorem specBytes_length (h : SpecHeader) : 28 ≤ h.specBytes.length := by
  unfold specBytes
  simp only [List.length_append, toLE_length, List.Vector.toList_length]
  omega

theorem bytes_length (h : SpecHeader) : h.bytes.length = 32 + h.specBytes.length := by
  unfold bytes
  simp only [List.length_append, toLE_length, List.Vector.toList_length]
  omega

end SpecHeader

theorem parseSpecIDEvent_encoded {h : SpecHeader} (hv : h.Valid) :
    parseSpecIDEvent h.specBytes = .ok (h.algs.map Prod.fst) := by
  have hpos := hv.some
  have hmost := hv.most
  have hlen := h.specBytes_length
  unfold parseSpecIDEvent
  rw [if_neg (by omega), h.specBytes_count, ofLE_toLE 4 _ (by omega)]
  simp only
  rw [if_neg (by omega), h.specBytes_drop, readAlgs_encoded]
  rfl

theorem parseSpecIDEvent_decoded {data : Bytes} {algs : List UInt16}
    (hdata : data.length ≤ maxTCGHeaderDataSize)
    (h : parseSpecIDEvent data = .ok algs) (digest : Blob 20) :
    ∃ hdr : SpecHeader, hdr.digest = digest ∧ hdr.Valid ∧ data = hdr.specBytes ∧
    algs = hdr.algs.map Prod.fst := by
  unfold parseSpecIDEvent at h
  split at h
  · cases h
  rename_i hlen
  simp only at h
  split at h
  · cases h
  rename_i hcount
  rcases hrun : (readAlgs (ofLE ((data.drop 24).take 4)) []).run (data.drop 28) with e | ⟨as, vendor⟩
  · rw [hrun] at h
    cases h
  · rw [hrun] at h
    cases h
    obtain ⟨entries, hn, halgs, hr⟩ := readAlgs_decoded hrun
    have hfour : ((data.drop 24).take 4).length = 4 := by
      rw [List.length_take, List.length_drop]
      omega
    have hcnt : toLE 4 entries.length = (data.drop 24).take 4 := by
      rw [hn]
      have hto := toLE_ofLE ((data.drop 24).take 4)
      rwa [hfour] at hto
    have hbytes : data = SpecHeader.specBytes
        { digest, preamble := ⟨data.take 24, by rw [List.length_take]; omega⟩, algs := entries,
          vendor } := by
      show data = data.take 24 ++ (toLE 4 entries.length ++ _)
      rw [← hr, hcnt]
      conv_lhs => rw [← List.take_append_drop 24 data, ← List.take_append_drop 4 (data.drop 24),
        List.drop_drop]
    refine ⟨_, rfl, ⟨?_, ?_, ?_⟩, hbytes, halgs⟩
    · show 0 < entries.length
      omega
    · show entries.length ≤ 8
      omega
    · rw [← hbytes]
      exact hdata

/-! ## The whole log -/

/-- Behind its header a log is entries. -/
theorem parseEventLog_after_header {h : SpecHeader} (hv : h.Valid) (rest : Bytes) :
    parseEventLog (h.bytes ++ rest) = (parseEntries (32 + h.specBytes.length) rest).map fun entries =>
      { entries, algorithmList := h.algs.map Prod.fst } := by
  have hsize := hv.size
  unfold maxTCGHeaderDataSize at hsize
  have hlen : (h.bytes ++ rest).length = 32 + h.specBytes.length + rest.length := by
    rw [List.length_append, h.bytes_length]
  have hb : h.bytes ++ rest = toLE 4 0 ++ (toLE 4 evNoAction.toNat ++ (h.digest.toList ++
      (toLE 4 h.specBytes.length ++ (h.specBytes ++ rest)))) := by
    unfold SpecHeader.bytes
    simp only [List.append_assoc]
  have h4 : (h.bytes ++ rest).drop 4 = toLE 4 evNoAction.toNat ++ (h.digest.toList ++
      (toLE 4 h.specBytes.length ++ (h.specBytes ++ rest))) := by
    rw [hb]
    exact List.drop_left' (toLE_length 4 _)
  have h28 : (h.bytes ++ rest).drop 28 = toLE 4 h.specBytes.length ++ (h.specBytes ++ rest) := by
    rw [hb, ← List.append_assoc, ← List.append_assoc]
    exact List.drop_left' (by simp)
  have h32 : (h.bytes ++ rest).drop 32 = h.specBytes ++ rest := by
    rw [show 32 = 28 + 4 from rfl, ← List.drop_drop, h28]
    exact List.drop_left' (toLE_length 4 _)
  have hpcr : ofLE ((h.bytes ++ rest).take 4) = 0 := by
    rw [hb, List.take_left' (toLE_length 4 _)]
    exact ofLE_toLE 4 0 (by decide)
  have htype : ofLE (((h.bytes ++ rest).drop 4).take 4) = evNoAction.toNat := by
    rw [h4, List.take_left' (toLE_length 4 _)]
    exact ofLE_toLE 4 _ (by decide)
  have hds : ofLE (((h.bytes ++ rest).drop 28).take 4) = h.specBytes.length := by
    rw [h28, List.take_left' (toLE_length 4 _)]
    exact ofLE_toLE 4 _ (by omega)
  unfold parseEventLog
  rw [if_neg (by omega)]
  simp only [hpcr, htype, hds, h32]
  rw [if_neg (by simp), if_neg (by unfold maxTCGHeaderDataSize; omega),
    if_neg (by rw [List.length_append]; omega),
    List.take_left' rfl, List.drop_left' rfl, parseSpecIDEvent_encoded hv]

/-- **Encoded log.** -/
theorem parseEventLog_encoded {h : SpecHeader} (hv : h.Valid) {events : List TcgEvent}
    (he : ∀ e ∈ events, e.Parses) : parseEventLog (h.bytes ++ events.flatMap TcgEvent.bytes) =
      .ok { entries := events.map TcgEvent.entry, algorithmList := h.algs.map Prod.fst } := by
  rw [parseEventLog_after_header hv, parseEntries_encoded he]
  rfl

/-- **Accepted log.** It is a header and events in a row, with nothing between
or behind them. -/
theorem parseEventLog_decoded {data : Bytes} {parsed : ParsedEventLog}
    (hp : parseEventLog data = .ok parsed) :
    ∃ (h : SpecHeader) (events : List TcgEvent), h.Valid ∧ (∀ e ∈ events, e.Parses) ∧
      data = h.bytes ++ events.flatMap TcgEvent.bytes ∧ parsed.entries = events.map TcgEvent.entry ∧
      parsed.algorithmList = h.algs.map Prod.fst := by
  unfold parseEventLog at hp
  split at hp
  · cases hp
  rename_i hlen
  simp only at hp
  split at hp
  · cases hp
  rename_i hkind
  split at hp
  · cases hp
  rename_i hcap
  split at hp
  · cases hp
  rename_i hfits
  split at hp
  · cases hp
  rename_i algList hspec
  rcases hent : parseEntries (32 + ofLE ((data.drop 28).take 4))
    ((data.drop 32).drop (ofLE ((data.drop 28).take 4)))
    with e | entries
  · rw [hent] at hp
    cases hp
  rw [hent] at hp
  cases hp
  obtain ⟨events, hev, hrest, hentries⟩ := parseEntries_decoded hent
  rw [not_or, not_not, not_not] at hkind
  have hdl : ((data.drop 8).take 20).length = 20 := by
    rw [List.length_take, List.length_drop]
    omega
  have hspecLen : ((data.drop 32).take (ofLE ((data.drop 28).take 4))).length =
      ofLE ((data.drop 28).take 4) := by
    rw [List.length_take]
    omega
  obtain ⟨h, hdigest, hv, hbytes, halgs⟩ :=
    parseSpecIDEvent_decoded (by rw [hspecLen]; omega) hspec ⟨(data.drop 8).take 20, hdl⟩
  refine ⟨h, events, hv, hev, ?_, hentries, halgs⟩
  -- the five pieces of the header, then the rest
  have hword (off : Nat) (ho : off + 4 ≤ 32) : ((data.drop off).take 4).length = 4 := by
    rw [List.length_take, List.length_drop]
    omega
  have hpcr : toLE 4 0 = data.take 4 := by
    have hto := toLE_ofLE (data.take 4)
    rwa [hkind.1, show (data.take 4).length = 4 by rw [List.length_take]; omega] at hto
  have htype : toLE 4 evNoAction.toNat = (data.drop 4).take 4 := by
    have hto := toLE_ofLE ((data.drop 4).take 4)
    rwa [hkind.2, hword 4 (by omega)] at hto
  have hsize : toLE 4 h.specBytes.length = (data.drop 28).take 4 := by
    rw [← hbytes, hspecLen]
    have hto := toLE_ofLE ((data.drop 28).take 4)
    rwa [hword 28 (by omega)] at hto
  have hdig : h.digest.toList = (data.drop 8).take 20 := by rw [hdigest]; rfl
  unfold SpecHeader.bytes
  rw [hpcr, htype, hsize, hdig, ← hbytes, ← hrest]
  simp only [List.append_assoc, List.take_append_drop]
  have hjoin (off k : Nat) : (data.drop off).take k ++ data.drop (off + k) = data.drop off := by
    rw [← List.drop_drop, List.take_append_drop]
  rw [hjoin 28 4, hjoin 8 20, hjoin 4 4, List.take_append_drop]

/-- An event whose digests are of distinct known algorithms and whose data is
bounded. -/
structure TcgEvent.WellFormed (e : TcgEvent) : Prop where
  distinct : (e.digests.map Prod.fst).Nodup
  known : ∀ d ∈ e.digests, d.1 ∈ [algSHA1, algSHA256, algSHA384, algSHA512] ∧
    d.2.length = algDigestSize d.1
  size : e.eventData.length ≤ maxTCGEventDataSize

/-- The returned entry has the values of the event. -/
structure TcgEvent.Is (e : TcgEvent) (entry : EventLogEntry) : Prop where
  pcrIndex : entry.pcrIndex = e.pcrIndex
  eventType : entry.eventType = e.eventType
  digests : ∀ alg d, entry.digests.lookup alg = some d ↔ (alg, d) ∈ e.digests
  eventData : entry.eventData = e.eventData

theorem TcgEvent.WellFormed.parses {e : TcgEvent} (h : e.WellFormed) : e.Parses where
  count := by
    have hsub : e.digests.map Prod.fst ⊆ [algSHA1, algSHA256, algSHA384, algSHA512] := by
      intro alg halg
      obtain ⟨d, hd, rfl⟩ := List.mem_map.mp halg
      exact (h.known d hd).1
    have hle := (List.subperm_of_subset h.distinct hsub).length_le
    rw [List.length_map] at hle
    exact hle.trans (by decide)
  known d hd := by
    obtain ⟨hmem, hlen⟩ := h.known d hd
    refine ⟨?_, hlen⟩
    simp only [List.mem_cons, List.not_mem_nil, or_false] at hmem
    rcases hmem with h | h | h | h <;> rw [h] <;> decide
  size := h.size

theorem lookup_foldl_insert {ds : List (UInt16 × Bytes)} (hnd : (ds.map Prod.fst).Nodup)
    (m : GoMap UInt16 Bytes)
    (alg : UInt16) (d : Bytes) : (ds.foldl (fun m d => m.insert d.1 d.2) m).lookup alg = some d ↔
      (alg, d) ∈ ds ∨ alg ∉ ds.map Prod.fst ∧ m.lookup alg = some d := by
  induction ds generalizing m with
  | nil => simp
  | cons x ds ih =>
    rw [List.map_cons, List.nodup_cons] at hnd
    rw [List.foldl_cons, ih hnd.2, lookup_insert_ite]
    by_cases hx : alg = x.1
    · subst hx
      have hno : (x.1, d) ∉ ds := fun hmem => hnd.1 (List.mem_map.mpr ⟨(x.1, d), hmem, rfl⟩)
      simp only [if_true, hno, hnd.1, false_or, not_false_eq_true, true_and, List.mem_cons,
        List.map_cons, not_true_eq_false, false_and, or_false, Option.some.injEq]
      constructor
      · intro h
        rw [← h]
      · intro h
        exact (congrArg Prod.snd h).symm
    · have hne : (alg, d) ≠ x := fun h => hx (congrArg Prod.fst h)
      simp [hx, hne]

theorem TcgEvent.WellFormed.is_entry {e : TcgEvent} (h : e.WellFormed) : e.Is e.entry where
  pcrIndex := rfl
  eventType := rfl
  digests alg d := by
    rw [TcgEvent.entry, lookup_foldl_insert h.distinct]
    simp
  eventData := rfl

/-- **Event log.** An encoded log of well-formed events parses to these events
in order. On every input the parser stops, reads nothing outside the input, and
if it succeeds the input is the header event and the returned events in a row. -/
theorem event_log_exact :
    (∀ (h : SpecHeader) (events : List TcgEvent), h.Valid → (∀ e ∈ events, e.WellFormed) →
      ∃ parsed, Checked.parseEventLog (h.bytes ++ events.flatMap TcgEvent.bytes) = .ok parsed ∧
        List.Forall₂ TcgEvent.Is events parsed.entries) ∧
    ∀ data, Checked.parseEventLog data ≠ .error .fault ∧
      ∀ parsed, Checked.parseEventLog data = .ok parsed → ∃ (h : SpecHeader) (events : List TcgEvent),
        h.Valid ∧ (∀ e ∈ events, e.Parses) ∧ data = h.bytes ++ events.flatMap TcgEvent.bytes ∧
        parsed.entries = events.map TcgEvent.entry := by
  constructor
  · intro h events hv hev
    refine ⟨{ entries := events.map TcgEvent.entry, algorithmList := h.algs.map Prod.fst }, ?_, ?_⟩
    · rw [Checked.parseEventLog_eq, liftErr_ok]
      exact parseEventLog_encoded hv fun e he => (hev e he).parses
    · show List.Forall₂ TcgEvent.Is events (events.map TcgEvent.entry)
      rw [List.forall₂_map_right_iff, List.forall₂_same]
      exact fun e he => (hev e he).is_entry
  · intro data
    rw [Checked.parseEventLog_eq]
    refine ⟨liftErr_ne_fault _, fun parsed hp => ?_⟩
    obtain ⟨h, events, hv, hev, hdata, hentries, -⟩ := parseEventLog_decoded (liftErr_ok.mp hp)
    exact ⟨h, events, hv, hev, hdata, hentries⟩

/-- A header with the SHA-256 bank and no vendor information. -/
def sampleHeader : SpecHeader where
  digest := Blob.zero 20
  preamble := Blob.zero 24
  algs := [(algSHA256, 32)]
  vendor := [0]

def sampleEvent : TcgEvent where
  pcrIndex := 7
  eventType := 13
  digests := [(algSHA256, List.replicate 32 0xab)]
  eventData := [1, 2, 3]

theorem event_log_exact_sample :
    ∃ parsed, Checked.parseEventLog (sampleHeader.bytes ++ sampleEvent.bytes) = .ok parsed ∧
      List.Forall₂ TcgEvent.Is [sampleEvent] parsed.entries := by
  have hv : sampleHeader.Valid := ⟨by decide, by decide, by decide⟩
  have he : ∀ e ∈ [sampleEvent], e.WellFormed := by
    intro e hmem
    rw [List.mem_singleton.mp hmem]
    exact ⟨by decide, by decide, by decide⟩
  simpa using event_log_exact.1 sampleHeader [sampleEvent] hv he

end Lota.L1.EventLog

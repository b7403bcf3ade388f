import Lota.L1Wire.EventLog

/-!
# The replay against the TCG rules (`verifier/verify/eventlog.go`)

The TCG log format says which events a TPM was extended with: all but
`EV_NO_ACTION`, which only inform the reader of the log. It also says where a
register starts: the registers 17 to 22 of the dynamic launch with all ones,
PCR 0 with the locality that an `EV_NO_ACTION` event of its own names, all
others with zeros. `ReplayEventLog` starts every register with zeros and does
not look at the type of an event.

* `parseEventLog_digests`: in an accepted log every digest has the size of its
  algorithm.
* `digestsFor_eq_tcg`: the digests the code folds are those of the extended
  events where no informative event carries one.
* `replay_follows_tcg`: the replay of such a register.
* `replay_departs_from_tcg`: two logs on which the code and the rules differ.
-/
namespace Lota.L1.EventLog
open Lota.Core Lota.L1.Report

/-! ## The rules -/

/-- An event that was extended into its register. -/
def tcgExtends (e : EventLogEntry) : Bool := e.eventType ≠ evNoAction

/-- The SHA-256 digests of the extended events of a register, in log order. -/
def tcgDigests (entries : List EventLogEntry) (i : Fin 24) : List Bytes :=
  entries.filterMap fun e =>
    if e.pcrIndex.toNat = i.val ∧ tcgExtends e = true then e.digests.lookup algSHA256 else none

/-- The locality an `EV_NO_ACTION` event for PCR 0 names. -/
def startupLocality (entries : List EventLogEntry) : Option UInt8 :=
  entries.findSome? fun e =>
    if e.pcrIndex = 0 ∧ e.eventType = evNoAction ∧
      e.eventData.take 16 = ascii "StartupLocality" ++ [0] then
      e.eventData[16]?
    else none

def tcgInitial (entries : List EventLogEntry) (i : Fin 24) : Hash :=
  if 17 ≤ i.val ∧ i.val ≤ 22 then List.Vector.replicate 32 0xFF
  else if i.val = 0 then toBlob 32 (List.replicate 31 0 ++ [(startupLocality entries).getD 0])
  else Blob.zero 32

/-- No informative event for the register carries a SHA-256 digest. -/
def NoActionSilent (entries : List EventLogEntry) (i : Fin 24) : Prop :=
  ∀ e ∈ entries, e.pcrIndex.toNat = i.val → e.eventType = evNoAction → e.digests.lookup algSHA256 = none

/-- The register is not one of the dynamic launch, and the log names no
locality for it. -/
def StartsAtZero (entries : List EventLogEntry) (i : Fin 24) : Prop :=
  ¬ (17 ≤ i.val ∧ i.val ≤ 22) ∧ (i.val = 0 → startupLocality entries = none)

theorem tcgInitial_zero {entries : List EventLogEntry} {i : Fin 24} (h : StartsAtZero entries i) :
    tcgInitial entries i = Blob.zero 32 := by
  unfold tcgInitial
  rw [if_neg h.1]
  split
  · rename_i h0
    rw [h.2 h0]
    decide
  · rfl

/-! ## Digests have their size -/

/-- Every digest has the size of its algorithm. -/
def Sized (digests : GoMap UInt16 Bytes) : Prop :=
  ∀ alg d, digests.lookup alg = some d → d.length = algDigestSize alg

theorem readDigests_sized {n : Nat} {digests digests' : GoMap UInt16 Bytes} {r r' : Bytes}
    (h0 : Sized digests)
    (h : (readDigests n digests).run r = .ok (digests', r')) : Sized digests' := by
  induction n generalizing digests r with
  | zero =>
    cases h
    exact h0
  | succ n ih =>
    unfold readDigests at h
    obtain ⟨b, r₁, -, h⟩ := Reader.bind_ok.mp h
    simp only at h
    split at h
    · cases h
    · obtain ⟨digest, r₂, hneed, h⟩ := Reader.bind_ok.mp h
      refine ih (fun alg d hd => ?_) h
      rw [lookup_insert_ite] at hd
      split at hd
      · rename_i halg
        cases hd
        rw [halg]
        exact (need_ok hneed).1
      · exact h0 alg d hd

theorem parsePCREvent2_sized {r r' : Bytes} {entry : EventLogEntry}
    (h : parsePCREvent2.run r = .ok (entry, r')) : Sized entry.digests := by
  unfold parsePCREvent2 at h
  obtain ⟨head, r₁, -, h⟩ := Reader.bind_ok.mp h
  obtain ⟨cnt, r₂, -, h⟩ := Reader.bind_ok.mp h
  simp only at h
  split at h
  · cases h
  · obtain ⟨digests, r₃, hdigests, h⟩ := Reader.bind_ok.mp h
    obtain ⟨sz, r₄, -, h⟩ := Reader.bind_ok.mp h
    split at h
    · cases h
    · obtain ⟨eventData, r₅, -, h⟩ := Reader.bind_ok.mp h
      cases h
      exact readDigests_sized (fun alg d hd => by simp at hd) hdigests

theorem parseEntries_sized {offset : Nat} {data : Bytes} {entries : List EventLogEntry}
    (h : parseEntries offset data = .ok entries) : ∀ e ∈ entries, Sized e.digests := by
  induction hlen : data.length using Nat.strongRecOn generalizing offset data entries with
  | ind n ih =>
    rw [parseEntries] at h
    split at h
    · cases h
      exact fun e he => by cases he
    · rcases hok : parsePCREvent2.run data with err | ⟨entry, rest⟩
      · rw [hok] at h
        cases h
      · simp only [hok] at h
        split at h
        · cases h
        · rename_i hpos
          rcases hrest : parseEntries (offset + (data.length - rest.length)) rest with err | tail
          · rw [hrest] at h
            cases h
          · rw [hrest] at h
            cases h
            intro e he
            rcases List.mem_cons.mp he with rfl | he
            · exact parsePCREvent2_sized hok
            · exact ih rest.length (by omega) hrest rfl e he

/-- In an accepted log every digest has the size of its algorithm. -/
theorem parseEventLog_digests {data : Bytes} {parsed : ParsedEventLog}
    (h : parseEventLog data = .ok parsed) : ∀ e ∈ parsed.entries, Sized e.digests := by
  unfold parseEventLog at h
  split at h
  · cases h
  · simp only at h
    split at h
    · cases h
    · split at h
      · cases h
      · split at h
        · cases h
        · split at h
          · cases h
          · rename_i algList hspec
            rcases hentries : parseEntries (32 + ofLE ((data.drop 28).take 4))
                ((data.drop 32).drop (ofLE ((data.drop 28).take 4))) with err | entries
            · rw [hentries] at h
              cases h
            · rw [hentries] at h
              cases h
              exact parseEntries_sized hentries

/-! ## The replay -/

theorem digestsFor_eq_tcg {entries : List EventLogEntry} {i : Fin 24} (h : NoActionSilent entries i) :
    digestsFor entries i = tcgDigests entries i := by
  unfold digestsFor tcgDigests
  refine List.filterMap_congr fun e he => ?_
  by_cases hi : e.pcrIndex.toNat = i.val
  · by_cases hext : tcgExtends e = true
    · rw [if_pos hi, if_pos ⟨hi, hext⟩]
    · have htype : e.eventType = evNoAction := by simpa [tcgExtends] using hext
      rw [if_pos hi, if_neg fun hc => hext hc.2, h e he hi htype]
  · rw [if_neg hi, if_neg fun hc => hi hc.1]

theorem tcgDigests_sized {entries : List EventLogEntry} (h : ∀ e ∈ entries, Sized e.digests)
    (i : Fin 24) : ∀ d ∈ tcgDigests entries i, d.length = 32 := by
  intro d hd
  obtain ⟨e, he, hlookup⟩ := List.mem_filterMap.mp hd
  split at hlookup
  · exact h e he algSHA256 d hlookup
  · cases hlookup

/-- **Replay.** For every accepted log and every register for which no
informative event carries a SHA-256 digest, the replayed value is the extend
fold, from zeros, of the 32-byte SHA-256 digests of the events that were
extended, in log order. Zeros are where the rules let the register start,
unless it belongs to the dynamic launch or the log names a locality for it. -/
theorem replay_follows_tcg (data : Bytes) (parsed : ParsedEventLog)
    (h : parseEventLog data = .ok parsed) (i : Fin 24)
    (hsilent : NoActionSilent parsed.entries i) :
    (∀ d ∈ tcgDigests parsed.entries i, d.length = 32) ∧
    (replayEventLog parsed).pcrValues.get i = (tcgDigests parsed.entries i).foldl extend
    (Blob.zero 32) ∧
    (StartsAtZero parsed.entries i → tcgInitial parsed.entries i = Blob.zero 32) := by
  refine ⟨tcgDigests_sized (parseEventLog_digests h) i, ?_, tcgInitial_zero⟩
  rw [replayEventLog_pcrValues, digestsFor_eq_tcg hsilent]

theorem replay_follows_tcg_firmware :
    (replayEventLog { entries := [firmwareEvent], algorithmList := [algSHA256] }).pcrValues.get 0 =
      (tcgDigests [firmwareEvent] 0).foldl extend (Blob.zero 32) ∧
      tcgDigests [firmwareEvent] 0 = [List.replicate 32 7] := by
  have hsilent : NoActionSilent [firmwareEvent] 0 := by
    intro e he _ htype
    rw [List.mem_singleton.mp he] at htype
    exact absurd htype (by decide)
  exact ⟨(replay_follows_tcg firmwareLog _ parseEventLog_firmwareLog 0 hsilent).2.1, by decide⟩

/-- An informative event for PCR 0, with the zero digest firmware writes. -/
def noActionEvent : EventLogEntry where
  pcrIndex := 0
  eventType := 3
  digests := AList.insert algSHA256 (List.replicate 32 0) ∅
  eventData := []

def noActionLog : Bytes :=
  headerOnlyLog ++ (toLE 4 0 ++ toLE 4 3 ++ toLE 4 1 ++ toLE 2 11 ++ List.replicate 32 0 ++ toLE 4 0)

theorem parseEventLog_noActionLog :
    parseEventLog noActionLog = .ok { entries := [noActionEvent], algorithmList := [algSHA256] } := by
  have hevent : parsePCREvent2.run (toLE 4 0 ++ toLE 4 3 ++ toLE 4 1 ++ toLE 2 11 ++
      List.replicate 32 0 ++ toLE 4 0) = .ok (noActionEvent, []) := rfl
  rw [noActionLog, parseEventLog_header, parseEntries, if_neg (by decide), hevent]
  simp only
  rw [dif_neg (by decide), parseEntries]
  rfl

/-- A log without events leaves PCR 17 at zeros, where the rules start it with
ones; and an informative event for PCR 0 moves it. -/
theorem replay_departs_from_tcg :
    (parseEventLog headerOnlyLog = .ok { entries := [], algorithmList := [algSHA256] } ∧
      (replayEventLog { entries := [], algorithmList := [algSHA256] }).pcrValues.get 17 ≠
        (tcgDigests [] 17).foldl extend (tcgInitial [] 17)) ∧
    (parseEventLog noActionLog = .ok { entries := [noActionEvent], algorithmList := [algSHA256] } ∧
      (replayEventLog { entries := [noActionEvent], algorithmList := [algSHA256] }).pcrValues.get 0 ≠
        (tcgDigests [noActionEvent] 0).foldl extend (tcgInitial [noActionEvent] 0)) := by
  refine ⟨⟨parseEventLog_headerOnlyLog, ?_⟩, parseEventLog_noActionLog, ?_⟩
  · rw [replayEventLog_pcrValues]
    change (Blob.zero 32 : Hash) ≠ List.Vector.replicate 32 0xFF
    decide
  · rw [replayEventLog_pcrValues]
    decide +kernel

end Lota.L1.EventLog

import Lota.Core.Clock
import Lota.Core.FixedWindow
import Lota.Core.Bytes

/-!
# Enrollment attempts of one source (`attestca/server/server.go`)

`Begin` is expensive, so the server counts the attempts of each source host in
a fixed window before it runs one. Windows that are over are swept at every
attempt; when the table is full of open ones, a new source is refused.

* `allowBegin_cases`: what one attempt does to the table.
* `step_window`: one attempt is a step of a fixed-window limiter.
* `begin_limiter`: over every sequence of attempts with a clock that does not
  go back, no window of a source has more accepted attempts than the limit,
  the table does not outgrow `maxRateEntries`, and an attempt leaves the open
  windows of the other sources as they are.
-/
namespace Lota.L5.BeginRate
open Lota.Core Lota.Core.FixedWindow

/-! ## The source of a connection -/

inductive AddrError where
  | missingPort | tooManyColons | missingBracket | unexpectedOpen | unexpectedClose
  deriving DecidableEq, Repr

/-- `strings.LastIndexByte`, `none` for `-1`. -/
def lastIndexByte (s : Bytes) (c : UInt8) : Option Nat :=
  (s.reverse.idxOf? c).map fun i => s.length - 1 - i

/-- `[host]:port`, with the last colon at `i`. -/
def splitBracketed (hostport : Bytes) (i : Nat) : Except AddrError (Bytes × Bytes) :=
  match hostport.idxOf? 93 with
  | none => .error .missingBracket
  | some close =>
    if close + 1 = hostport.length then .error .missingPort
    else if close + 1 ≠ i then
      if hostport[close + 1]? = some 58 then .error .tooManyColons else .error .missingPort
    else if 91 ∈ hostport.drop 1 then .error .unexpectedOpen
    else if 93 ∈ hostport.drop (close + 1) then .error .unexpectedClose
    else .ok ((hostport.take close).drop 1, hostport.drop (i + 1))

/-- `host:port`, with the last colon at `i`. -/
def splitPlain (hostport : Bytes) (i : Nat) : Except AddrError (Bytes × Bytes) :=
  if 58 ∈ hostport.take i then .error .tooManyColons
  else if 91 ∈ hostport then .error .unexpectedOpen
  else if 93 ∈ hostport then .error .unexpectedClose
  else .ok (hostport.take i, hostport.drop (i + 1))

/-- `net.SplitHostPort` -/
def splitHostPort (hostport : Bytes) : Except AddrError (Bytes × Bytes) :=
  match lastIndexByte hostport 58 with
  | none => .error .missingPort
  | some i => if hostport.head? = some 91 then splitBracketed hostport i else splitPlain hostport i

/-- mirrors src/attestca/server/server.go:243-246 -/
def hostOf (remote : Bytes) : Bytes :=
  match splitHostPort remote with
  | .ok (host, _) => host
  | .error _ => remote

example :
    hostOf (ascii "[::1]:443") = ascii "::1" ∧ hostOf (ascii "10.0.0.7:52100") = ascii "10.0.0.7" ∧
    hostOf (ascii "::1:443") = ascii "::1:443" := by decide

/-! ## The limiter -/

/-- mirrors src/attestca/server/server.go:84-88 -/
structure RateWindow where
  count : Nat
  windowStart : Time
  deriving DecidableEq

def maxRateEntries : Nat := 4096
def defaultBeginRateLimit : Int := 10
def defaultBeginRateWindow : Duration := 60000000000

/-- The two settings of the configuration. -/
structure Config where
  beginRateLimit : Int
  beginRateWindow : Duration

/-- mirrors src/attestca/server/server.go:115-122 -/
def Config.rateLimit (cfg : Config) : Int :=
  if cfg.beginRateLimit ≤ 0 then defaultBeginRateLimit else cfg.beginRateLimit

def Config.rateWindow (cfg : Config) : Duration :=
  if cfg.beginRateWindow ≤ 0 then defaultBeginRateWindow else cfg.beginRateWindow

abbrev RateTable := GoMap Bytes RateWindow

/-- mirrors src/attestca/server/server.go:283-289 -/
def sweepRateLocked (cfg : Config) (table : RateTable) (now : Time) : RateTable :=
  table.entries.foldl (fun acc e => if now - e.2.windowStart ≥ cfg.rateWindow then acc.erase e.1
    else acc) table

/-- mirrors src/attestca/server/server.go:242-281 -/
def allowBegin (cfg : Config) (table : RateTable) (remote : Bytes) (now : Time) : RateTable × Bool :=
  let host := hostOf remote
  let table := sweepRateLocked cfg table now
  match table.lookup host with
  | none =>
    if table.keys.length ≥ maxRateEntries then (table, false)
    else (table.insert host { count := 1, windowStart := now }, true)
  | some w =>
    if now - w.windowStart ≥ cfg.rateWindow
      then (table.insert host { count := 1, windowStart := now }, true)
    else if w.count ≥ cfg.rateLimit then (table, false)
    else (table.insert host { w with count := w.count + 1 }, true)

theorem rateLimit_pos (cfg : Config) : 0 < cfg.rateLimit := by
  unfold Config.rateLimit
  split
  · decide
  · omega

/-! ## One attempt -/

def windowOf (w : RateWindow) : Window := ⟨w.windowStart, w.count⟩

def view (table : RateTable) (host : Bytes) : Option Window := (table.lookup host).map windowOf

section
variable {cfg : Config} {table : RateTable} {now : Time} {remote host : Bytes}

theorem lookup_sweep (cfg : Config) (table : RateTable) (now : Time) (host : Bytes) :
    (sweepRateLocked cfg table now).lookup host =
      (table.lookup host).filter fun w => ¬ now - w.windowStart ≥ cfg.rateWindow :=
  lookup_prune (fun w : RateWindow => now - w.windowStart ≥ cfg.rateWindow) table host

theorem open_iff {w : RateWindow} :
    (windowOf w).Open cfg.rateWindow now ↔ ¬ now - w.windowStart ≥ cfg.rateWindow := by
  rw [ge_iff_le, Int.not_le]
  exact ⟨Int.sub_left_lt_of_lt_add, Int.lt_add_of_sub_left_lt⟩

/-- What is left of a source after the sweep is its window, if it is open. -/
theorem sweep_eq_some {w : RateWindow} : (sweepRateLocked cfg table now).lookup host = some w ↔
    table.lookup host = some w ∧ (windowOf w).Open cfg.rateWindow now := by
  rw [lookup_sweep, open_iff, Option.filter_eq_some_iff]
  simp

/-- A source with no open window gets one, unless the table is full. -/
theorem allowBegin_none (h : (sweepRateLocked cfg table now).lookup (hostOf remote) = none) :
    (maxRateEntries ≤ (sweepRateLocked cfg table now).keys.length ∧
        allowBegin cfg table remote now = (sweepRateLocked cfg table now, false)) ∨
      ((sweepRateLocked cfg table now).keys.length < maxRateEntries ∧ allowBegin cfg table remote now =
        ((sweepRateLocked cfg table now).insert (hostOf remote) { count := 1, windowStart := now },
          true)) := by
  unfold allowBegin
  simp only [h]
  split
  next hfull => exact .inl ⟨hfull, rfl⟩
  next hroom => exact .inr ⟨Nat.lt_of_not_le hroom, rfl⟩

/-- The attempts in an open window are counted. -/
theorem allowBegin_some {w : RateWindow}
    (h : (sweepRateLocked cfg table now).lookup (hostOf remote) = some w) :
    (cfg.rateLimit ≤ w.count ∧ allowBegin cfg table remote now =
      (sweepRateLocked cfg table now, false)) ∨
      (w.count < cfg.rateLimit ∧ allowBegin cfg table remote now =
        ((sweepRateLocked cfg table now).insert (hostOf remote) { w with count := w.count + 1 },
          true)) := by
  have hopen := open_iff.mp (sweep_eq_some.mp h).2
  unfold allowBegin
  simp only [h, if_neg hopen]
  split
  next hmax => exact .inl ⟨hmax, rfl⟩
  next hmax => exact .inr ⟨Int.not_le.mp hmax, rfl⟩

/-- **One attempt.** It leaves the swept table, or writes the window of its
source to it. -/
theorem allowBegin_cases (cfg : Config) (table : RateTable) (remote : Bytes) (now : Time) :
    allowBegin cfg table remote now = (sweepRateLocked cfg table now, false) ∨
      ∃ w, allowBegin cfg table remote now =
      ((sweepRateLocked cfg table now).insert (hostOf remote) w, true) := by
  cases hl : (sweepRateLocked cfg table now).lookup (hostOf remote) with
  | none =>
    rcases allowBegin_none hl with ⟨-, h⟩ | ⟨-, h⟩
    · exact .inl h
    · exact .inr ⟨_, h⟩
  | some w =>
    rcases allowBegin_some hl with ⟨-, h⟩ | ⟨-, h⟩
    · exact .inl h
    · exact .inr ⟨_, h⟩

theorem lookup_other {j : Bytes} (hj : j ≠ hostOf remote) :
    (allowBegin cfg table remote now).1.lookup j = (sweepRateLocked cfg table now).lookup j := by
  rcases allowBegin_cases cfg table remote now with h | ⟨w, h⟩
  · rw [h]
  · rw [h, lookup_insert_ite, if_neg hj]

theorem length_le (h : table.keys.length ≤ maxRateEntries) :
    (allowBegin cfg table remote now).1.keys.length ≤ maxRateEntries := by
  have hsweep : (sweepRateLocked cfg table now).keys.length ≤ table.keys.length :=
    prune_length_le (fun w : RateWindow => now - w.windowStart ≥ cfg.rateWindow) table
  have hkept := Nat.le_trans hsweep h
  cases hl : (sweepRateLocked cfg table now).lookup (hostOf remote) with
  | none =>
    rcases allowBegin_none hl with ⟨-, heq⟩ | ⟨hroom, heq⟩
    · rwa [heq]
    · rw [heq]
      exact Nat.le_trans (insert_length_le ..) hroom
  | some w =>
    have hmem : hostOf remote ∈ sweepRateLocked cfg table now :=
      AList.lookup_isSome.mp (by rw [hl]; rfl)
    rcases allowBegin_some hl with ⟨-, heq⟩ | ⟨-, heq⟩
    · rwa [heq]
    · rw [heq]
      exact Nat.le_trans (Nat.le_of_eq (insert_length_mem hmem _)) hkept

/-! ## Steps of a fixed-window limiter -/

theorem view_eq_some {w : Window} :
    view table host = some w ↔ ∃ x, table.lookup host = some x ∧ windowOf x = w :=
  Option.map_eq_some_iff

theorem step_window (cfg : Config) (table : RateTable) (remote : Bytes) (now : Time) :
    Step cfg.rateLimit.toNat cfg.rateWindow (view table) (view (allowBegin cfg table remote now).1)
    (hostOf remote) now
      (allowBegin cfg table remote now).2 where
  counted := by
    intro w hw hopen
    obtain ⟨x, hx, rfl⟩ := view_eq_some.mp hw
    have hcount : (windowOf x).count = x.count := rfl
    rcases allowBegin_some (sweep_eq_some.mpr ⟨hx, hopen⟩) with ⟨hmax, heq⟩ | ⟨hlt, heq⟩
    · rw [heq]
      refine ⟨(decide_eq_false ?_).symm, ?_⟩
      · omega
      · simp [view, sweep_eq_some.mpr ⟨hx, hopen⟩]
    · rw [heq]
      refine ⟨(decide_eq_true ?_).symm, ?_⟩
      · omega
      · simp [view, windowOf]
  opened := by
    intro hover hok
    have hnone : (sweepRateLocked cfg table now).lookup (hostOf remote) = none := by
      cases hl : (sweepRateLocked cfg table now).lookup (hostOf remote) with
      | none => rfl
      | some x =>
        obtain ⟨hx, hopen⟩ := sweep_eq_some.mp hl
        exact absurd hopen (hover _ (view_eq_some.mpr ⟨x, hx, rfl⟩))
    rcases allowBegin_none hnone with ⟨-, heq⟩ | ⟨-, heq⟩
    · rw [heq] at hok
      cases hok
    · rw [heq]
      simp [view, windowOf]
  kept := by
    intro j w hj hw hopen
    obtain ⟨x, hx, rfl⟩ := view_eq_some.mp hw
    refine view_eq_some.mpr ⟨x, ?_, rfl⟩
    rw [lookup_other hj]
    exact sweep_eq_some.mpr ⟨hx, hopen⟩
  old := by
    intro j w hw
    obtain ⟨x, hx, rfl⟩ := view_eq_some.mp hw
    by_cases hj : j = hostOf remote
    · rcases allowBegin_cases cfg table remote now with heq | ⟨w, heq⟩
      · rw [heq] at hx
        exact .inr (view_eq_some.mpr ⟨x, (sweep_eq_some.mp hx).1, rfl⟩)
      · exact .inl ⟨hj, by rw [heq]⟩
    · rw [lookup_other hj] at hx
      exact .inr (view_eq_some.mpr ⟨x, (sweep_eq_some.mp hx).1, rfl⟩)

end

/-! ## Runs -/

/-- A connection that sent its `Begin`. -/
structure Attempt where
  remote : Bytes
  now : Time
  deriving DecidableEq

def Attempt.host (a : Attempt) : Bytes := hostOf a.remote

def attempts (cfg : Config) : Machine RateTable Attempt Bool :=
  ⟨fun table a => allowBegin cfg table a.remote a.now⟩

def ClockOk (as : List Attempt) : Prop := (as.map Attempt.now).Pairwise (· ≤ ·)

theorem length_run (cfg : Config) (as : List Attempt) {table : RateTable}
    (h : table.keys.length ≤ maxRateEntries) :
    ((attempts cfg).run table as).keys.length ≤ maxRateEntries := by
  induction as generalizing table with
  | nil => exact h
  | cons a as ih => exact ih (length_le h)

theorem windows_limited (cfg : Config) {as : List Attempt} (hclock : ClockOk as) (host : Bytes) :
    ∀ g ∈ windows cfg.rateWindow (accepted Attempt.host Attempt.now host ((attempts cfg).hist ∅ as)),
      (g.length : Int) ≤ cfg.rateLimit := by
  intro g hg
  cases as with
  | nil =>
    rw [Machine.hist, accepted, windows] at hg
    cases hg
  | cons a as =>
    have hpos := rateLimit_pos cfg
    -- no window is older than the first attempt
    have hle : ∀ b ∈ a :: as, a.now ≤ b.now := by
      intro b hb
      rcases List.mem_cons.mp hb with rfl | hb
      · exact Int.le_refl _
      · exact (List.pairwise_cons.mp hclock).1 _ (List.mem_map_of_mem hb)
    have hbound := windows_bounded (M := attempts cfg) (J := fun _ _ => True) (fun _ _ _ _ _ => trivial)
      (fun _ table b _ _ => step_window cfg table b.remote b.now) (by omega) trivial (fun _ => rfl)
        hle hclock host g hg
    omega

/-- **The limiter.** Over every sequence of attempts with a clock that does
not go back, every window of a source has at most `rateLimit` accepted
attempts; the table never holds more than `maxRateEntries` sources; and an
attempt leaves the open window of another source as it is. -/
theorem begin_limiter (cfg : Config) (as : List Attempt) (hclock : ClockOk as) :
    (∀ host, ∀ g ∈ windows cfg.rateWindow
      (accepted Attempt.host Attempt.now host ((attempts cfg).hist ∅ as)),
        (g.length : Int) ≤ cfg.rateLimit) ∧
      ((attempts cfg).run ∅ as).keys.length ≤ maxRateEntries ∧
      ∀ pre a post, as = pre ++ a :: post → ∀ host w, host ≠ a.host →
      ((attempts cfg).run ∅ pre).lookup host = some w →
        (windowOf w).Open cfg.rateWindow a.now →
        ((attempts cfg).run ∅ (pre ++ [a])).lookup host = some w := by
  refine ⟨windows_limited cfg hclock, length_run cfg as (Nat.zero_le _), ?_⟩
  intro pre a post _ host w hne hw hopen
  have hstep : (attempts cfg).run ∅ (pre ++ [a]) =
      (allowBegin cfg ((attempts cfg).run ∅ pre) a.remote a.now).1 :=
    Machine.run_append _ _ pre [a]
  rw [hstep, lookup_other hne]
  exact sweep_eq_some.mpr ⟨hw, hopen⟩

/-- Two attempts of one host, from two ports, against a limit of one. -/
theorem begin_limiter_ports : ClockOk [⟨ascii "10.0.0.7:1024", 5⟩, ⟨ascii "10.0.0.7:1025", 6⟩] ∧
    (attempts ⟨1, 60⟩).outs ∅ [⟨ascii "10.0.0.7:1024", 5⟩, ⟨ascii "10.0.0.7:1025", 6⟩] = [true, false] ∧
    ((attempts ⟨1, 60⟩).run ∅
      [⟨ascii "10.0.0.7:1024", 5⟩, ⟨ascii "10.0.0.7:1025", 6⟩]).keys.length ≤ maxRateEntries := by
  have hclock : ClockOk [⟨ascii "10.0.0.7:1024", 5⟩, ⟨ascii "10.0.0.7:1025", 6⟩] := by simp [ClockOk]
  exact ⟨hclock, by decide, (begin_limiter ⟨1, 60⟩ _ hclock).2.1⟩

end Lota.L5.BeginRate

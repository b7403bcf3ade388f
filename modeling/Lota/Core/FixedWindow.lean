import Lota.Core.Machine
import Mathlib.Data.Int.Notation
import Mathlib.Data.List.Basic

/-!
# Fixed-window limiters

A limiter counts the calls of each key in a window that starts with a call and
lasts for a fixed time. How it keeps the windows (in a table of limited size,
in a map that is swept) differs; what one call must do to the windows is said
in `Step`.

`windows` cuts the times of accepted calls into windows, with no limiter in
sight: the first call opens one, the calls less than `W` later belong to it,
and the next call opens another.

* `timed_run`, `timed_before`: the invariant rule for a clock that does not go
  back.
* `windows_bounded`: over every such run of a machine whose steps are `Step`s
  no window has more than `limit` calls.
-/
namespace Lota.Core.FixedWindow

/-- The open or spent window of a key. -/
structure Window where
  start : Int
  count : Nat

/-- The window is not over. -/
def Window.Open (W now : Int) (w : Window) : Prop := now < w.start + W

/-- The calls at these times, by windows. -/
def windows (W : Int) : List Int → List (List Int)
  | [] => []
  | t :: ts => (t :: ts.takeWhile (· < t + W)) :: windows W (ts.dropWhile (· < t + W))
termination_by ts => ts.length
decreasing_by
  have := (List.dropWhile_suffix (p := (· < t + W)) (l := ts)).length_le
  simp only [List.length_cons]
  omega

section
variable {κ : Type}

/-- A call of `k` at `now`, accepted or not. A call in an open window is
counted while the limit allows it; an accepted call outside of one opens one.
Of the others, no open window is touched and none is opened. -/
structure Step (limit : Nat) (W : Int) (s s' : κ → Option Window) (k : κ) (now : Int) (ok : Bool) :
    Prop where
  counted : ∀ w, s k = some w → w.Open W now →
    ok = decide (w.count < limit) ∧ s' k = some (if ok then ⟨w.start, w.count + 1⟩ else w)
  opened : (∀ w, s k = some w → ¬ w.Open W now) → ok = true → s' k = some ⟨now, 1⟩
  kept : ∀ j w, j ≠ k → s j = some w → w.Open W now → s' j = some w
  old : ∀ j w, s' j = some w → (j = k ∧ ok = true) ∨ s j = some w

/-- What remains of the open window, and the windows after it, are within the
limit. -/
def Within (limit : Nat) (W : Int) (ts : List Int) : Option Window → Prop
  | none => ∀ g ∈ windows W ts, g.length ≤ limit
  | some w => w.count + (ts.takeWhile (· < w.start + W)).length ≤ limit ∧
      ∀ g ∈ windows W (ts.dropWhile (· < w.start + W)), g.length ≤ limit

variable {limit : Nat} {W now : Int} {ts : List Int} {w : Window}

/-- Nothing is left of a window that is over. -/
theorem within_over (hover : ¬ w.Open W now) (hts : ∀ t ∈ ts, now ≤ t) (hcount : w.count ≤ limit) :
    Within limit W ts (some w) ↔ Within limit W ts none := by
  have hhead : ∀ t ∈ ts.head?, ¬ t < w.start + W := by
    intro t ht hlt
    have hnow := hts t (List.mem_of_mem_head? ht)
    unfold Window.Open at hover
    omega
  have htake : ts.takeWhile (· < w.start + W) = [] ∧ ts.dropWhile (· < w.start + W) = ts := by
    cases ts with
    | nil => exact ⟨rfl, rfl⟩
    | cons t ts =>
      have ht := hhead t rfl
      exact ⟨List.takeWhile_cons_of_neg (by simpa using ht),
        List.dropWhile_cons_of_neg (by simpa using ht)⟩
  simp only [Within]
  rw [htake.1, htake.2]
  simp [hcount]

theorem within_open (h : Within limit W ts (some ⟨now, 1⟩)) :
    ∀ g ∈ windows W (now :: ts), g.length ≤ limit := by
  obtain ⟨hfirst, hrest⟩ := h
  rw [windows]
  refine List.forall_mem_cons.mpr ⟨?_, hrest⟩
  rw [List.length_cons]
  simp only at hfirst
  omega

theorem within_count (hopen : w.Open W now) (h : Within limit W ts (some ⟨w.start, w.count + 1⟩)) :
    Within limit W (now :: ts) (some w) := by
  have hlt : now < w.start + W := hopen
  obtain ⟨hfirst, hrest⟩ := h
  simp only at hfirst hrest
  simp only [Within]
  rw [List.takeWhile_cons_of_pos (by simpa using hlt),
    List.dropWhile_cons_of_pos (by simpa using hlt), List.length_cons]
  exact ⟨by omega, hrest⟩

/-- **One call.** If the accepted calls after it are within the limit, so are
those from it on. -/
theorem Step.within [DecidableEq κ] {s s' : κ → Option Window} {j k : κ} {ok : Bool}
    (h : Step limit W s s' j now ok)
    (hts : ∀ t ∈ ts, now ≤ t) (hcount : ∀ w, s k = some w → w.count ≤ limit)
    (hrest : Within limit W ts (s' k)) :
    Within limit W (if j = k ∧ ok = true then now :: ts else ts) (s k) := by
  by_cases hjk : j = k ∧ ok = true
  · obtain ⟨rfl, hok⟩ := hjk
    rw [if_pos ⟨rfl, hok⟩]
    cases hs : s j with
    | none =>
      rw [h.opened (fun w hw => by rw [hs] at hw; cases hw) hok] at hrest
      exact within_open hrest
    | some w =>
      by_cases hopen : w.Open W now
      · obtain ⟨-, hs'⟩ := h.counted w hs hopen
        rw [hs', hok, if_pos rfl] at hrest
        exact within_count hopen hrest
      · have hnone : ∀ w', s j = some w' → ¬ w'.Open W now := by
          intro w' hw'
          rw [hs] at hw'
          cases hw'
          exact hopen
        rw [h.opened hnone hok] at hrest
        have hall : ∀ t ∈ now :: ts, now ≤ t := List.forall_mem_cons.mpr ⟨Int.le_refl now, hts⟩
        exact (within_over hopen hall (hcount w hs)).mpr (within_open hrest)
  · rw [if_neg hjk]
    cases hs : s k with
    | none =>
      cases hs' : s' k with
      | none => rwa [hs'] at hrest
      | some w =>
        rcases h.old k w hs' with ⟨rfl, hok⟩ | hold
        · exact absurd ⟨rfl, hok⟩ hjk
        · rw [hs] at hold
          cases hold
    | some w =>
      by_cases hopen : w.Open W now
      · have hsame : s' k = some w := by
          by_cases hk : j = k
          · subst hk
            obtain ⟨-, hs'⟩ := h.counted w hs hopen
            have hno : ok = false := Bool.eq_false_iff.mpr fun hok => hjk ⟨rfl, hok⟩
            rw [hs', hno]
            rfl
          · exact h.kept k w (Ne.symm hk) hs hopen
        rwa [hsame] at hrest
      · -- a window that is over may be forgotten
        cases hs' : s' k with
        | none =>
          rw [hs'] at hrest
          exact (within_over hopen hts (hcount w hs)).mpr hrest
        | some w' =>
          rcases h.old k w' hs' with ⟨rfl, hok⟩ | hold
          · exact absurd ⟨rfl, hok⟩ hjk
          · rw [hs] at hold
            cases hold
            rwa [hs'] at hrest

theorem Step.count_le {s s' : κ → Option Window} {j : κ} {ok : Bool}
    (h : Step limit W s s' j now ok) (hlimit : 1 ≤ limit)
    (hcount : ∀ k w, s k = some w → w.count ≤ limit) : ∀ k w, s' k = some w → w.count ≤ limit := by
  intro k w hw
  rcases h.old k w hw with ⟨rfl, hok⟩ | hold
  · by_cases hopen : ∃ w', s k = some w' ∧ w'.Open W now
    · obtain ⟨w', hs, ho⟩ := hopen
      obtain ⟨hlt, hs'⟩ := h.counted w' hs ho
      rw [hok] at hlt hs'
      have hlt : w'.count < limit := of_decide_eq_true hlt.symm
      rw [hw, if_pos rfl] at hs'
      cases hs'
      exact hlt
    · have hs' := h.opened (fun w' hs ho => hopen ⟨w', hs, ho⟩) hok
      rw [hw] at hs'
      cases hs'
      exact hlimit
  · exact hcount k w hold

end

/-! ## Runs -/

section
variable {S I κ : Type} [DecidableEq κ] (key : I → κ) (time : I → Int)

/-- When the calls of `k` in a history were accepted. -/
def accepted (k : κ) : List (I × Bool) → List Int
  | [] => []
  | (i, ok) :: hist => if key i = k ∧ ok = true then time i :: accepted k hist else accepted k hist

theorem accepted_of_mem {k : κ} {t : Int} {hist : List (I × Bool)} (h : t ∈ accepted key time k hist) :
    ∃ i ok, (i, ok) ∈ hist ∧ time i = t := by
  induction hist with
  | nil => cases h
  | cons e hist ih =>
    obtain ⟨i, ok⟩ := e
    rw [accepted] at h
    split at h
    · rcases List.mem_cons.mp h with rfl | h
      · exact ⟨i, ok, List.mem_cons_self .., rfl⟩
      · obtain ⟨i', ok', hmem, ht⟩ := ih h
        exact ⟨i', ok', List.mem_cons_of_mem _ hmem, ht⟩
    · obtain ⟨i', ok', hmem, ht⟩ := ih h
      exact ⟨i', ok', List.mem_cons_of_mem _ hmem, ht⟩

theorem mem_hist {M : Machine S I Bool} {s : S} {is : List I} {i : I} {ok : Bool}
    (h : (i, ok) ∈ M.hist s is) : i ∈ is := by
  induction is generalizing s with
  | nil => cases h
  | cons i' is ih =>
    rcases List.mem_cons.mp h with he | h
    · cases he
      exact List.mem_cons_self ..
    · exact List.mem_cons_of_mem _ (ih h)

variable {key time} {M : Machine S I Bool} {view : S → κ → Option Window} {J : Int → S → Prop}
  {limit : Nat} {W : Int}

omit [DecidableEq κ] in
/-- **Invariant rule with a clock.** `J t` holds after the last call, at `t`. -/
theorem timed_run (hkeep : ∀ t s i, J t s → t ≤ time i → J (time i) (M.step s i).1) {t : Int}
    {s : S} (hJ : J t s)
    {is : List I} (hle : ∀ i ∈ is, t ≤ time i) (hclock : (is.map time).Pairwise (· ≤ ·)) :
    ∃ t', J t' (M.run s is) ∧ ∀ u, t ≤ u → (∀ i ∈ is, time i ≤ u) → t' ≤ u := by
  induction is generalizing t s with
  | nil => exact ⟨t, hJ, fun _ ht _ => ht⟩
  | cons i is ih =>
    rw [List.map_cons, List.pairwise_cons] at hclock
    obtain ⟨t', hJ', hlast⟩ := ih (hkeep t s i hJ (hle i (List.mem_cons_self ..)))
      (fun j hj => hclock.1 _ (List.mem_map_of_mem hj)) hclock.2
    refine ⟨t', hJ', fun u _ hall => ?_⟩
    exact hlast u (hall i (List.mem_cons_self ..)) fun j hj => hall j (List.mem_cons_of_mem _ hj)

omit [DecidableEq κ] in
/-- Before every call of the run the invariant holds at a time that is not
after it. -/
theorem timed_before (hkeep : ∀ t s i, J t s → t ≤ time i → J (time i) (M.step s i).1) {t : Int}
    {s : S} (hJ : J t s)
    {pre post : List I} {i : I} (hle : ∀ j ∈ pre ++ i :: post, t ≤ time j)
    (hclock : ((pre ++ i :: post).map time).Pairwise (· ≤ ·)) :
    ∃ t', J t' (M.run s pre) ∧ t' ≤ time i := by
  rw [List.map_append, List.map_cons, List.pairwise_append] at hclock
  obtain ⟨t', hJ', hlast⟩ := timed_run hkeep hJ (fun j hj => hle j (List.mem_append_left _ hj)) hclock.1
  refine ⟨t', hJ', hlast _ (hle i (by simp)) fun j hj => ?_⟩
  exact hclock.2.2 _ (List.mem_map_of_mem hj) _ (List.mem_cons_self ..)

/-- **Run.** -/
theorem within_run (hkeep : ∀ t s i, J t s → t ≤ time i → J (time i) (M.step s i).1)
    (hstep : ∀ t s i, J t s → t ≤ time i →
      Step limit W (view s) (view (M.step s i).1) (key i) (time i) (M.step s i).2)
    (hlimit : 1 ≤ limit) {t : Int} {s : S} (hJ : J t s)
    (hcount : ∀ k w, view s k = some w → w.count ≤ limit)
    {is : List I} (hle : ∀ i ∈ is, t ≤ time i) (hclock : (is.map time).Pairwise (· ≤ ·)) (k : κ) :
    Within limit W (accepted key time k (M.hist s is)) (view s k) := by
  induction is generalizing t s with
  | nil =>
    cases hv : view s k with
    | none =>
      intro g hg
      simp [accepted, windows, Machine.hist] at hg
    | some w =>
      refine ⟨?_, fun g hg => ?_⟩
      · simpa [accepted, Machine.hist] using hcount k w hv
      · simp [accepted, windows, Machine.hist] at hg
  | cons i is ih =>
    have hfirst := hle i (List.mem_cons_self ..)
    have hs := hstep t s i hJ hfirst
    rw [List.map_cons, List.pairwise_cons] at hclock
    have hlater : ∀ i' ∈ is, time i ≤ time i' := fun i' hi' => hclock.1 _ (List.mem_map_of_mem hi')
    have hrest := ih (hkeep t s i hJ hfirst) (hs.count_le hlimit hcount) hlater hclock.2
    have hts : ∀ t' ∈ accepted key time k (M.hist (M.step s i).1 is), time i ≤ t' := by
      intro t' ht'
      obtain ⟨i', ok, hmem, rfl⟩ := accepted_of_mem key time ht'
      exact hlater i' (mem_hist hmem)
    exact hs.within hts (hcount k) hrest

/-- **Windows.** -/
theorem windows_bounded (hkeep : ∀ t s i, J t s → t ≤ time i → J (time i) (M.step s i).1)
    (hstep : ∀ t s i, J t s → t ≤ time i →
      Step limit W (view s) (view (M.step s i).1) (key i) (time i) (M.step s i).2)
    (hlimit : 1 ≤ limit) {t : Int} {s : S} (hJ : J t s) (hempty : ∀ k, view s k = none)
    {is : List I} (hle : ∀ i ∈ is, t ≤ time i) (hclock : (is.map time).Pairwise (· ≤ ·)) (k : κ) :
    ∀ g ∈ windows W (accepted key time k (M.hist s is)), g.length ≤ limit := by
  have hrun :=
    within_run hkeep hstep hlimit hJ (fun k w hw => by rw [hempty] at hw; cases hw) hle hclock k
  rwa [hempty] at hrun

end

end Lota.Core.FixedWindow

import Lota.Core.FixedWindow
import Lota.L6Agent.GetToken

/-!
# The per-UID limiter over whole runs (`agent/ipc.c`)

`check_rate_limit` keeps its windows in a table of `MAX_RATE_ENTRIES`. A full
table gives an entry to another UID only when its window is over; while all
are open, a UID that has none is refused.

* `checkRateLimit_cases`: what one call does to the table.
* `step_window`: one call is a step of a fixed-window limiter.
* `uid_limiter`: over every sequence of calls with a clock that does not go
  back, each UID stands in the table once, the table does not outgrow its
  capacity, no window of a UID has more accepted calls than the limit, and an
  open entry is left alone by the other UIDs.
-/
namespace Lota.L6.UidRate
open Lota.Core Lota.Core.FixedWindow Lota.L6.GetToken

/-- One call: the peer and the reading of `monotonic_now_sec`. -/
structure Call where
  uid : UInt32
  now : UInt64
  deriving DecidableEq

def Call.time (c : Call) : Int := c.now.toNat

/-- One limiter, called again and again. -/
def calls (requestLimit windowSec : Int32) : Machine (List UidRate) Call Bool :=
  ⟨fun table c => checkRateLimit ⟨requestLimit, windowSec, c.now⟩ table c.uid⟩

/-- Every call is at or after the one before it. -/
def ClockOk (cs : List Call) : Prop := (cs.map Call.time).Pairwise (· ≤ ·)

/-! ## What one call does to the table -/

/-- One entry of the table is overwritten. -/
def Replaced (table : List UidRate) (e e' : UidRate) (table' : List UidRate) : Prop :=
  ∃ pre post, table = pre ++ e :: post ∧ table' = pre ++ e' :: post

theorem Replaced.cons {table table' : List UidRate} {e e' : UidRate} (x : UidRate)
    (h : Replaced table e e' table') : Replaced (x :: table) e e' (x :: table') := by
  obtain ⟨pre, post, rfl, rfl⟩ := h
  exact ⟨x :: pre, post, rfl, rfl⟩

theorem replaced_head (e e' : UidRate) (es : List UidRate) : Replaced (e :: es) e e' (e' :: es) :=
  ⟨[], es, rfl, rfl⟩

variable {l : Limiter} {uid : UInt32} {table table' : List UidRate} {ok : Bool}

/-- A call of a UID that stands in the table: its entry is started again,
counted up or left as it is. -/
theorem charge_some (h : l.charge uid table = some (table', ok)) :
    ∃ e ∈ table, e.uid = uid ∧
      ((l.expired e = true ∧ ok = true ∧ Replaced table e (l.fresh uid) table') ∨
        (l.expired e = false ∧ (e.count : Int) < l.requestLimit.toInt ∧ ok = true ∧
          Replaced table e { e with count := e.count + 1 } table') ∨
        (l.expired e = false ∧ l.requestLimit.toInt ≤ e.count ∧ ok = false ∧ table' = table)) := by
  induction table generalizing table' with
  | nil => cases h
  | cons e es ih =>
    rw [Limiter.charge] at h
    split at h
    next huid =>
      refine ⟨e, List.mem_cons_self .., huid, ?_⟩
      split at h
      next hexp =>
        cases h
        exact .inl ⟨hexp, rfl, replaced_head ..⟩
      next hexp =>
        have hopen : l.expired e = false := by simpa using hexp
        split at h
        next hmax =>
          cases h
          exact .inr (.inr ⟨hopen, hmax, rfl, rfl⟩)
        next hmax =>
          cases h
          exact .inr (.inl ⟨hopen, Int.not_le.mp hmax, rfl, replaced_head ..⟩)
    next huid =>
      obtain ⟨⟨es', ok'⟩, hes, heq⟩ := Option.map_eq_some_iff.mp h
      cases heq
      obtain ⟨x, hx, hxuid, hcases⟩ := ih hes
      refine ⟨x, List.mem_cons_of_mem _ hx, hxuid, ?_⟩
      rcases hcases with ⟨h1, h2, h3⟩ | ⟨h1, h2, h3, h4⟩ | ⟨h1, h2, h3, h4⟩
      · exact .inl ⟨h1, h2, h3.cons e⟩
      · exact .inr (.inl ⟨h1, h2, h3, h4.cons e⟩)
      · exact .inr (.inr ⟨h1, h2, h3, by rw [h4]⟩)

theorem charge_none (h : l.charge uid table = none) : ∀ e ∈ table, e.uid ≠ uid := by
  induction table with
  | nil =>
    intro e he
    cases he
  | cons x xs ih =>
    rw [Limiter.charge] at h
    split at h
    · split at h
      · cases h
      · split at h <;> cases h
    next huid => exact List.forall_mem_cons.mpr ⟨huid, ih (by simpa using h)⟩

theorem reuse_some (h : l.reuse uid table = some table') :
    ∃ e ∈ table, l.expired e = true ∧ Replaced table e (l.fresh uid) table' := by
  induction table generalizing table' with
  | nil => cases h
  | cons x xs ih =>
    rw [Limiter.reuse] at h
    split at h
    next hexp =>
      cases h
      exact ⟨x, List.mem_cons_self .., hexp, replaced_head ..⟩
    next =>
      obtain ⟨xs', hxs, rfl⟩ := Option.map_eq_some_iff.mp h
      obtain ⟨e, he, hexp, hrep⟩ := ih hxs
      exact ⟨e, List.mem_cons_of_mem _ he, hexp, hrep.cons x⟩

/-- **Cases.** Everything a call can do: refuse and leave the table, or
accept and overwrite the entry of the UID, append one, or overwrite one whose
window is over. -/
inductive Did (l : Limiter) (table : List UidRate) (uid : UInt32) : List UidRate → Bool → Prop
  /-- The limit or the window of the limiter is not positive. -/
  | disabled (h : l.requestLimit ≤ 0 ∨ l.windowSec ≤ 0) : Did l table uid table false
  /-- The window of the UID is spent. -/
  | spent (e : UidRate) (he : e ∈ table) (huid : e.uid = uid) (hopen : l.expired e = false)
      (hmax : l.requestLimit.toInt ≤ e.count) : Did l table uid table false
  /-- The table is full, and the UID is not in it. -/
  | refused (hnew : ∀ e ∈ table, e.uid ≠ uid) : Did l table uid table false
  | restarted (e : UidRate) (he : e ∈ table) (huid : e.uid = uid) (hexp : l.expired e = true)
    {table' : List UidRate}
      (hrep : Replaced table e (l.fresh uid) table') : Did l table uid table' true
  | counted (e : UidRate) (he : e ∈ table) (huid : e.uid = uid) (hopen : l.expired e = false)
      (hlt : (e.count : Int) < l.requestLimit.toInt) {table' : List UidRate}
      (hrep : Replaced table e { e with count := e.count + 1 } table') : Did l table uid table' true
  | appended (hnew : ∀ e ∈ table, e.uid ≠ uid) (hroom : table.length < maxRateEntries) :
      Did l table uid (table ++ [l.fresh uid]) true
  | reused (hnew : ∀ e ∈ table, e.uid ≠ uid) (e : UidRate) (he : e ∈ table) (hexp : l.expired e = true)
      {table' : List UidRate} (hrep : Replaced table e (l.fresh uid) table') :
      Did l table uid table' true

theorem checkRateLimit_cases (l : Limiter) (table : List UidRate) (uid : UInt32) :
    Did l table uid (checkRateLimit l table uid).1 (checkRateLimit l table uid).2 := by
  unfold checkRateLimit
  split
  next hoff => exact .disabled (by simpa using hoff)
  split
  next r hr =>
    obtain ⟨table', ok⟩ := r
    obtain ⟨e, he, huid, hcases⟩ := charge_some hr
    rcases hcases with ⟨hexp, rfl, hrep⟩ | ⟨hopen, hlt, rfl, hrep⟩ | ⟨hopen, hmax, rfl, rfl⟩
    · exact .restarted e he huid hexp hrep
    · exact .counted e he huid hopen hlt hrep
    · exact .spent e he huid hopen hmax
  next hr =>
    have hnew := charge_none hr
    split
    next hroom => exact .appended hnew hroom
    split
    next table' hreuse =>
      obtain ⟨e, he, hexp, hrep⟩ := reuse_some hreuse
      exact .reused hnew e he hexp hrep
    next => exact .refused hnew

/-! ## The table as a map from UIDs to windows -/

def uids (table : List UidRate) : List UInt32 := table.map (·.uid)

def windowOf (e : UidRate) : Window := ⟨e.windowStartSec.toNat, e.count⟩

def view (table : List UidRate) (uid : UInt32) : Option Window :=
  (table.find? (·.uid == uid)).map windowOf

/-- The table between calls, the last of them at `t`. -/
structure Inv (t : Int) (table : List UidRate) : Prop where
  nodup : (uids table).Nodup
  capacity : table.length ≤ maxRateEntries
  starts : ∀ e ∈ table, (windowOf e).start ≤ t

theorem entry_unique (hnd : (uids table).Nodup) {x y : UidRate} (hx : x ∈ table) (hy : y ∈ table)
    (h : x.uid = y.uid) : x = y :=
  List.inj_on_of_nodup_map hnd hx hy h

theorem view_eq_some (hnd : (uids table).Nodup) {w : Window} :
    view table uid = some w ↔ ∃ e ∈ table, e.uid = uid ∧ windowOf e = w := by
  unfold view
  rw [Option.map_eq_some_iff]
  constructor
  · intro h
    obtain ⟨e, he, hw⟩ := h
    exact ⟨e, List.mem_of_find?_eq_some he, by simpa using List.find?_some he, hw⟩
  · intro h
    obtain ⟨e, he, huid, hw⟩ := h
    have hsome : (table.find? (·.uid == uid)).isSome = true :=
      List.find?_isSome.mpr ⟨e, he, by simpa using huid⟩
    obtain ⟨x, hx⟩ := Option.isSome_iff_exists.mp hsome
    have hxuid : x.uid = uid := by simpa using List.find?_some hx
    have hxe : x = e := entry_unique hnd (List.mem_of_find?_eq_some hx) he (by rw [hxuid, huid])
    exact ⟨x, hx, by rw [hxe, hw]⟩

theorem Replaced.length_eq {e e' : UidRate} (h : Replaced table e e' table') :
    table'.length = table.length := by
  obtain ⟨pre, post, rfl, rfl⟩ := h
  simp

theorem Replaced.mem_new {e e' : UidRate} (h : Replaced table e e' table') : e' ∈ table' := by
  obtain ⟨pre, post, rfl, rfl⟩ := h
  simp

/-- The other entries stay. -/
theorem Replaced.mem_other {e e' x : UidRate} (h : Replaced table e e' table') (hx : x ∈ table)
    (hne : x ≠ e) : x ∈ table' := by
  obtain ⟨pre, post, rfl, rfl⟩ := h
  simp only [List.mem_append, List.mem_cons] at hx ⊢
  rcases hx with hx | hx | hx
  · exact .inl hx
  · exact absurd hx hne
  · exact .inr (.inr hx)

theorem Replaced.of_mem {e e' x : UidRate} (h : Replaced table e e' table')
    (hnd : (uids table).Nodup) (hx : x ∈ table') : x = e' ∨ (x ∈ table ∧ x.uid ≠ e.uid) := by
  obtain ⟨pre, post, rfl, rfl⟩ := h
  have hout : e.uid ∉ uids pre ∧ e.uid ∉ uids post := by
    simp only [uids, List.map_append, List.map_cons, List.nodup_append, List.nodup_cons] at hnd
    exact ⟨fun hmem => hnd.2.2 _ hmem _ (List.mem_cons_self ..) rfl, hnd.2.1.1⟩
  simp only [List.mem_append, List.mem_cons] at hx ⊢
  rcases hx with hx | hx | hx
  · refine .inr ⟨.inl hx, fun he => hout.1 ?_⟩
    rw [← he]
    exact List.mem_map_of_mem hx
  · exact .inl hx
  · refine .inr ⟨.inr (.inr hx), fun he => hout.2 ?_⟩
    rw [← he]
    exact List.mem_map_of_mem hx

/-- The new entry is one of the UID of the old one, or of a UID that was not
in the table. -/
theorem Replaced.nodup {e e' : UidRate} (h : Replaced table e e' table') (hnd : (uids table).Nodup)
    (huid : e'.uid = e.uid ∨ ∀ x ∈ table, x.uid ≠ e'.uid) : (uids table').Nodup := by
  obtain ⟨pre, post, rfl, rfl⟩ := h
  have hnew : e'.uid ∉ uids pre ∧ e'.uid ∉ uids post := by
    rcases huid with he | hfresh
    · simp only [uids, List.map_append, List.map_cons, List.nodup_append, List.nodup_cons] at hnd
      rw [he]
      exact ⟨fun hmem => hnd.2.2 _ hmem _ (List.mem_cons_self ..) rfl, hnd.2.1.1⟩
    · refine ⟨fun hmem => ?_, fun hmem => ?_⟩ <;> obtain ⟨x, hx, he⟩ := List.mem_map.mp hmem <;>
        exact hfresh x (by simp [hx]) he
  simp only [uids, List.map_append, List.map_cons, List.nodup_append, List.nodup_cons,
    List.mem_cons] at hnd hnew ⊢
  refine ⟨hnd.1, ⟨hnew.2, hnd.2.1.2⟩, fun a ha b hb => ?_⟩
  rcases hb with rfl | hb
  · intro heq
    subst heq
    exact hnew.1 ha
  · exact hnd.2.2 a ha b (.inr hb)

theorem nodup_append_new {e' : UidRate} (hnd : (uids table).Nodup)
    (hnew : ∀ e ∈ table, e.uid ≠ e'.uid) : (uids (table ++ [e'])).Nodup := by
  simp only [uids, List.map_append, List.map_cons, List.map_nil, List.nodup_append, List.mem_singleton]
  refine ⟨hnd, List.nodup_singleton _, fun a ha b hb => ?_⟩
  obtain ⟨x, hx, rfl⟩ := List.mem_map.mp ha
  rw [hb]
  exact hnew x hx

/-- An entry was written to the table. At most one other entry went, and its
window was over. -/
structure Placed (l : Limiter) (table : List UidRate) (e' : UidRate) (table' : List UidRate) :
    Prop where
  nodup : (uids table').Nodup
  capacity : table'.length ≤ maxRateEntries
  mem : e' ∈ table'
  old : ∀ x ∈ table', x = e' ∨ (x ∈ table ∧ x.uid ≠ e'.uid)
  kept : ∀ x ∈ table, x.uid ≠ e'.uid → l.expired x = false → x ∈ table'

theorem placed_own {t : Int} (h : Inv t table) {e e' : UidRate} (huid : e'.uid = e.uid)
    (hrep : Replaced table e e' table') : Placed l table e' table' where
  nodup := hrep.nodup h.nodup (.inl huid)
  capacity := by
    rw [hrep.length_eq]
    exact h.capacity
  mem := hrep.mem_new
  old := by
    intro x hx
    rw [huid]
    exact hrep.of_mem h.nodup hx
  kept := by
    intro x hx hne _
    refine hrep.mem_other hx fun hxe => hne ?_
    rw [hxe, huid]

theorem placed_reused {t : Int} (h : Inv t table) {e e' : UidRate} (hnew : ∀ x ∈ table, x.uid ≠ e'.uid)
    (hexp : l.expired e = true) (hrep : Replaced table e e' table') : Placed l table e' table' where
  nodup := hrep.nodup h.nodup (.inr hnew)
  capacity := by
    rw [hrep.length_eq]
    exact h.capacity
  mem := hrep.mem_new
  old := by
    intro x hx
    rcases hrep.of_mem h.nodup hx with rfl | ⟨hmem, -⟩
    · exact .inl rfl
    · exact .inr ⟨hmem, hnew x hmem⟩
  kept := by
    intro x hx _ hopen
    refine hrep.mem_other hx fun hxe => ?_
    rw [hxe, hexp] at hopen
    cases hopen

theorem placed_appended {t : Int} (h : Inv t table) {e' : UidRate} (hnew : ∀ x ∈ table, x.uid ≠ e'.uid)
    (hroom : table.length < maxRateEntries) : Placed l table e' (table ++ [e']) where
  nodup := nodup_append_new h.nodup hnew
  capacity := by
    rw [List.length_append, List.length_singleton]
    exact hroom
  mem := by simp
  old := by
    intro x hx
    rcases List.mem_append.mp hx with hx | hx
    · exact .inr ⟨hx, hnew x hx⟩
    · exact .inl (List.mem_singleton.mp hx)
  kept := fun x hx _ _ => List.mem_append_left _ hx

/-- The entry an accepted call writes: the window of the UID counted up, when
it is open, else a new one. -/
def Written (l : Limiter) (table : List UidRate) (uid : UInt32) (e' : UidRate) : Prop :=
  (∃ e ∈ table, e.uid = uid ∧ l.expired e = false ∧ (e.count : Int) < l.requestLimit.toInt ∧
    e' = { e with count := e.count + 1 }) ∨
  ((∀ e ∈ table, e.uid = uid → l.expired e = true) ∧ e' = l.fresh uid)

/-- **One call.** It is refused, which leaves the table as it is and which
happens to a UID with an open window only when the limit is reached; or it
writes the entry of the UID. -/
theorem step_did {t : Int} (h : Inv t table) {ok : Bool} (hdid : Did l table uid table' ok) :
    (ok = false ∧ table' = table ∧ ((l.requestLimit ≤ 0 ∨ l.windowSec ≤ 0) ∨
        ∀ e ∈ table, e.uid = uid → l.expired e = false → l.requestLimit.toInt ≤ e.count)) ∨
      (ok = true ∧ ∃ e', e'.uid = uid ∧ Written l table uid e' ∧ Placed l table e' table') := by
  cases hdid with
  | disabled hoff => exact .inl ⟨rfl, rfl, .inl hoff⟩
  | spent e he huid hopen hmax =>
    refine .inl ⟨rfl, rfl, .inr fun x hx hxuid _ => ?_⟩
    rw [entry_unique h.nodup hx he (by rw [hxuid, huid])]
    exact hmax
  | refused hnew => exact .inl ⟨rfl, rfl, .inr fun x hx hxuid _ => absurd hxuid (hnew x hx)⟩
  | restarted e he huid hexp hrep =>
    refine .inr ⟨rfl, l.fresh uid, rfl, .inr ⟨fun x hx hxuid => ?_, rfl⟩, placed_own h huid.symm hrep⟩
    rw [entry_unique h.nodup hx he (by rw [hxuid, huid])]
    exact hexp
  | counted e he huid hopen hlt hrep =>
    exact .inr ⟨rfl, { e with count := e.count + 1 }, huid, .inl ⟨e, he, huid, hopen, hlt, rfl⟩,
      placed_own (e := e) h rfl hrep⟩
  | appended hnew hroom =>
    exact .inr ⟨rfl, l.fresh uid, rfl, .inr ⟨fun x hx hxuid => absurd hxuid (hnew x hx), rfl⟩,
      placed_appended h hnew hroom⟩
  | reused hnew e he hexp hrep =>
    exact .inr ⟨rfl, l.fresh uid, rfl, .inr ⟨fun x hx hxuid => absurd hxuid (hnew x hx), rfl⟩,
      placed_reused h hnew hexp hrep⟩

/-! ## Steps of a fixed-window limiter -/

/-- The reading of the clock is not before the start of any window. -/
theorem expired_iff {e : UidRate} (hwin : 0 < l.windowSec) (hstart : (windowOf e).start ≤ l.now.toNat) :
    l.expired e = false ↔ (windowOf e).Open l.windowSec.toInt l.now.toNat := by
  have hpos : 0 < l.windowSec.toInt := by simpa [Int32.lt_iff_toInt_lt] using hwin
  have hmax : l.windowSec.toInt < 2 ^ 31 := Int32.toInt_lt l.windowSec
  have hw : l.window.toNat = l.windowSec.toInt.toNat := by
    unfold Limiter.window
    have hsize : UInt64.size = 2 ^ 64 := rfl
    rw [UInt64.toNat_ofNat_of_lt']
    omega
  have hle : e.windowStartSec ≤ l.now := by
    rw [UInt64.le_iff_toNat_le]
    exact Int.ofNat_le.mp hstart
  have hsub := UInt64.toNat_sub_of_le _ _ hle
  unfold Limiter.expired Window.Open
  rw [Bool.or_eq_false_iff, decide_eq_false_iff_not, decide_eq_false_iff_not, UInt64.not_lt,
    ge_iff_le, UInt64.not_le, UInt64.lt_iff_toNat_lt, hsub, hw]
  simp only [windowOf] at hstart ⊢
  constructor
  · intro h
    omega
  · intro h
    exact ⟨hle, by omega⟩

theorem inv_step {t : Int} (h : Inv t table) (hnow : t ≤ l.now.toNat)
    (hdid : Did l table uid table' ok) : Inv l.now.toNat table' := by
  rcases step_did h hdid with ⟨-, rfl, -⟩ | ⟨-, e', -, hwritten, hplaced⟩
  · exact ⟨h.nodup, h.capacity, fun e he => Int.le_trans (h.starts e he) hnow⟩
  · refine ⟨hplaced.nodup, hplaced.capacity, fun x hx => ?_⟩
    rcases hplaced.old x hx with rfl | ⟨hmem, -⟩
    · rcases hwritten with ⟨e, he, -, -, -, rfl⟩ | ⟨-, rfl⟩
      · exact Int.le_trans (h.starts e he) hnow
      · exact Int.le_refl _
    · exact Int.le_trans (h.starts x hmem) hnow

theorem step_window {t : Int} (h : Inv t table) (hnow : t ≤ l.now.toNat)
    (hlimit : 0 < l.requestLimit) (hwin : 0 < l.windowSec)
    (hdid : Did l table uid table' ok) :
    Step l.requestLimit.toInt.toNat l.windowSec.toInt (view table)
    (view table') uid l.now.toNat ok := by
  have hopen : ∀ e ∈ table, l.expired e = false ↔ (windowOf e).Open l.windowSec.toInt l.now.toNat :=
    fun e he => expired_iff hwin (Int.le_trans (h.starts e he) hnow)
  have hnd' := (inv_step h hnow hdid).nodup
  rcases step_did h hdid with ⟨rfl, rfl, hwhy⟩ | ⟨rfl, e', huid, hwritten, hplaced⟩
  · refine ⟨?_, fun _ hok => (Bool.false_ne_true hok).elim, fun _ _ _ hw _ => hw, fun _ _ hw => .inr hw⟩
    intro w hw ho
    obtain ⟨e, he, heuid, rfl⟩ := (view_eq_some h.nodup).mp hw
    rcases hwhy with hoff | hmax
    · rcases hoff with hoff | hoff
      · exact absurd hlimit (Int32.not_lt.mpr hoff)
      · exact absurd hwin (Int32.not_lt.mpr hoff)
    · have hfull := hmax e he heuid ((hopen e he).mpr ho)
      have hno : ¬ (windowOf e).count < l.requestLimit.toInt.toNat := by
        simp only [windowOf]
        omega
      exact ⟨(decide_eq_false hno).symm, by simpa using hw⟩
  · have hnew : view table' uid = some (windowOf e') :=
      (view_eq_some hnd').mpr ⟨e', hplaced.mem, huid, rfl⟩
    refine ⟨?_, ?_, ?_, ?_⟩
    · intro w hw ho
      obtain ⟨e, he, heuid, rfl⟩ := (view_eq_some h.nodup).mp hw
      rcases hwritten with ⟨x, hx, hxuid, -, hlt, rfl⟩ | ⟨hover, -⟩
      · have hxe : x = e := entry_unique h.nodup hx he (by rw [hxuid, heuid])
        subst hxe
        have hyes : (windowOf x).count < l.requestLimit.toInt.toNat := by
          simp only [windowOf]
          omega
        exact ⟨(decide_eq_true hyes).symm, hnew⟩
      · have hexp := hover e he heuid
        rw [(hopen e he).mpr ho] at hexp
        cases hexp
    · intro hover _
      rcases hwritten with ⟨x, hx, hxuid, hxopen, -, -⟩ | ⟨-, rfl⟩
      · exact absurd ((hopen x hx).mp hxopen) (hover _ ((view_eq_some h.nodup).mpr ⟨x, hx, hxuid, rfl⟩))
      · exact hnew
    · intro j w hj hw ho
      obtain ⟨e, he, heuid, rfl⟩ := (view_eq_some h.nodup).mp hw
      have hne : e.uid ≠ e'.uid := by
        rw [heuid, huid]
        exact hj
      exact (view_eq_some hnd').mpr ⟨e, hplaced.kept e he hne ((hopen e he).mpr ho), heuid, rfl⟩
    · intro j w hw
      obtain ⟨x, hx, hxuid, rfl⟩ := (view_eq_some hnd').mp hw
      rcases hplaced.old x hx with rfl | ⟨hmem, -⟩
      · exact .inl ⟨by rw [← hxuid, huid], rfl⟩
      · exact .inr ((view_eq_some h.nodup).mpr ⟨x, hmem, hxuid, rfl⟩)

/-! ## Runs -/

section
variable {requestLimit windowSec : Int32}

theorem calls_did (requestLimit windowSec : Int32) (table : List UidRate) (c : Call) :
    Did ⟨requestLimit, windowSec, c.now⟩ table c.uid ((calls requestLimit windowSec).step table c).1
      ((calls requestLimit windowSec).step table c).2 :=
  checkRateLimit_cases _ table c.uid

theorem calls_keep (t : Int) (table : List UidRate) (c : Call) (h : Inv t table) (ht : t ≤ c.time) :
    Inv c.time ((calls requestLimit windowSec).step table c).1 :=
  inv_step (l := ⟨requestLimit, windowSec, c.now⟩) h ht (calls_did requestLimit windowSec table c)

theorem calls_step (hlimit : 0 < requestLimit) (hwin : 0 < windowSec) (t : Int)
    (table : List UidRate) (c : Call)
    (h : Inv t table) (ht : t ≤ c.time) : Step requestLimit.toInt.toNat windowSec.toInt (view table)
      (view ((calls requestLimit windowSec).step table c).1) c.uid c.time
      ((calls requestLimit windowSec).step table c).2 :=
  step_window (l := ⟨requestLimit, windowSec, c.now⟩) h ht hlimit hwin
    (calls_did requestLimit windowSec table c)

theorem inv_empty : Inv 0 [] := ⟨List.nodup_nil, Nat.zero_le _, fun _ he => nomatch he⟩

theorem time_nonneg (c : Call) : 0 ≤ c.time := Int.natCast_nonneg _

/-- A limiter without a limit or a window accepts nothing. -/
theorem step_disabled (hoff : requestLimit ≤ 0 ∨ windowSec ≤ 0) (table : List UidRate) (c : Call) :
    (calls requestLimit windowSec).step table c = (table, false) := by
  simp [calls, checkRateLimit, hoff]

theorem accepted_disabled (hoff : requestLimit ≤ 0 ∨ windowSec ≤ 0) (table : List UidRate)
    (cs : List Call) (uid : UInt32) :
    accepted Call.uid Call.time uid ((calls requestLimit windowSec).hist table cs) = [] := by
  induction cs generalizing table with
  | nil => rfl
  | cons c cs ih => simp [Machine.hist, accepted, step_disabled hoff, ih]

/-- An open entry of another UID stays. -/
theorem step_keeps {t : Int} {table : List UidRate} {c : Call} (h : Inv t table) (ht : t ≤ c.time)
    {e : UidRate} (he : e ∈ table)
    (huid : e.uid ≠ c.uid) (hopen : (windowOf e).Open windowSec.toInt c.time) :
    e ∈ ((calls requestLimit windowSec).step table c).1 := by
  by_cases hoff : requestLimit ≤ 0 ∨ windowSec ≤ 0
  · rw [step_disabled hoff]
    exact he
  · have hwin : 0 < windowSec := Int32.not_le.mp fun hle => hoff (.inr hle)
    rcases step_did h (calls_did requestLimit windowSec table c) with ⟨-, hsame, -⟩ | ⟨-, e',
      huid', -, hplaced⟩
    · rw [hsame]
      exact he
    · refine hplaced.kept e he (by rwa [huid']) ?_
      exact (expired_iff (l := ⟨requestLimit, windowSec, c.now⟩) hwin
        (Int.le_trans (h.starts e he) ht)).mpr hopen

/-- **The limiter.** Over every sequence of calls with a clock that does not
go back: each UID stands in the table at most once, the table holds no more
entries than it has room for, every window of a UID has at most
`request_limit` accepted calls, and a call leaves the open entries of the
other UIDs in the table. -/
theorem uid_limiter (requestLimit windowSec : Int32) (cs : List Call) (hclock : ClockOk cs) :
    (uids ((calls requestLimit windowSec).run [] cs)).Nodup ∧
      ((calls requestLimit windowSec).run [] cs).length ≤ maxRateEntries ∧
      (∀ uid, ∀ g ∈ windows windowSec.toInt
        (accepted Call.uid Call.time uid ((calls requestLimit windowSec).hist [] cs)),
        (g.length : Int) ≤ requestLimit.toInt) ∧
      ∀ pre c post, cs = pre ++ c :: post → ∀ e ∈ (calls requestLimit windowSec).run [] pre,
      e.uid ≠ c.uid →
        (windowOf e).Open windowSec.toInt c.time → e ∈ (calls requestLimit windowSec).run []
        (pre ++ [c]) := by
  have hle : ∀ c ∈ cs, 0 ≤ c.time := fun c _ => time_nonneg c
  obtain ⟨t, hinv, -⟩ := timed_run (M := calls requestLimit windowSec) calls_keep inv_empty hle hclock
  refine ⟨hinv.nodup, hinv.capacity, fun uid g hg => ?_, ?_⟩
  · by_cases hoff : requestLimit ≤ 0 ∨ windowSec ≤ 0
    · rw [accepted_disabled hoff, windows] at hg
      cases hg
    · have hlimit : 0 < requestLimit := Int32.not_le.mp fun h => hoff (.inl h)
      have hwin : 0 < windowSec := Int32.not_le.mp fun h => hoff (.inr h)
      have hpos : 0 < requestLimit.toInt := by simpa [Int32.lt_iff_toInt_lt] using hlimit
      have hbound :=
        windows_bounded (M := calls requestLimit windowSec) calls_keep
          (calls_step hlimit hwin) (by omega)
        inv_empty (fun _ => rfl) hle hclock uid g hg
      omega
  · intro pre c post hcs e he huid hopen
    subst hcs
    obtain ⟨t', hinv', ht'⟩ :=
      timed_before (M := calls requestLimit windowSec) calls_keep inv_empty hle hclock
    rw [Machine.run_append]
    exact step_keeps hinv' ht' he huid hopen

/-- Two calls in one second against a limit of one. -/
theorem uid_limiter_two : ClockOk [⟨1000, 5⟩, ⟨1000, 5⟩] ∧
    (calls 1 60).outs [] [⟨1000, 5⟩, ⟨1000, 5⟩] = [true, false] ∧
    ((calls 1 60).run [] [⟨1000, 5⟩, ⟨1000, 5⟩]).length ≤ maxRateEntries := by
  have hclock : ClockOk [⟨1000, 5⟩, ⟨1000, 5⟩] := by simp [ClockOk]
  exact ⟨hclock, by decide, (uid_limiter 1 60 _ hclock).2.1⟩

end

end Lota.L6.UidRate

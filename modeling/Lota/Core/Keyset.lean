import Mathlib.Data.List.Sort

/-!
# Keyset pagination

A listing in descending order of a key, read page by page: a page starts
behind the key the page before it ended with, so that the cursor is a key and
not a position. The collection may change between two pages.

* `cut_page`: fetching one entry more than a page holds tells whether there is
  a next page.
* `walk_once`: what is there at every request of a finished walk is returned
  exactly once.
* `walk_bounded`: the pages of an unfinished walk are full and disjoint.
-/
namespace Lota.Core.Keyset

variable {α κ : Type} [LinearOrder κ] {key : α → κ}

/-- What a page that starts at the cursor may hold; `none` is the first page. -/
def Behind (key : α → κ) (cur : Option κ) (x : α) : Prop := ∀ c, cur = some c → key x < c

/-- `es` are the entries of `l` from the cursor to the next one. -/
structure Page (key : α → κ) (limit : Nat) (l : List α) (cur : Option κ) (es : List α)
    (next : Option κ) : Prop where
  nodup : es.Nodup
  mem : ∀ x, x ∈ es ↔ x ∈ l ∧ Behind key cur x ∧ ∀ c, next = some c → c ≤ key x
  falls : ∀ c, next = some c → ∀ c₀, cur = some c₀ → c < c₀
  full : ∀ c, next = some c → es.length = limit

/-- The page and the cursor out of `limit + 1` fetched entries. -/
def cut (key : α → κ) (limit : Nat) (es : List α) : List α × Option κ :=
  if limit < es.length then (es.take limit, (es[limit - 1]?).map key) else (es, none)

theorem nodup_of_descending {ds : List α} (h : ds.Pairwise fun x y => key y < key x) : ds.Nodup := by
  refine List.Pairwise.imp ?_ h
  rintro a b hab rfl
  exact lt_irrefl _ hab

/-- In a descending list the first entries are those not below the last of
them. -/
theorem mem_take_descending {ds : List α} (h : ds.Pairwise fun x y => key y < key x) {n : Nat}
    (hn : n < ds.length)
    (x : α) : x ∈ ds.take (n + 1) ↔ x ∈ ds ∧ key ds[n] ≤ key x := by
  rw [List.pairwise_iff_getElem] at h
  constructor
  · intro hx
    obtain ⟨i, hi, rfl⟩ := List.mem_iff_getElem.mp hx
    rw [List.length_take] at hi
    rw [List.getElem_take]
    refine ⟨List.getElem_mem _, ?_⟩
    rcases Nat.lt_or_ge i n with hin | hin
    · exact le_of_lt (h i n (by omega) hn hin)
    · have : i = n := by omega
      subst this
      exact le_refl _
  · rintro ⟨hx, hle⟩
    obtain ⟨i, hi, rfl⟩ := List.mem_iff_getElem.mp hx
    have hin : i ≤ n := by
      by_contra hni
      exact absurd (h n i hn hi (by omega)) (not_lt.mpr hle)
    refine List.mem_iff_getElem.mpr ⟨i, ?_, List.getElem_take⟩
    rw [List.length_take]
    omega

/-- **One page.** -/
theorem cut_page {limit : Nat} (hl : 1 ≤ limit) {l ds : List α} {cur : Option κ}
    (hd : ds.Pairwise fun x y => key y < key x) (hmem : ∀ x, x ∈ ds ↔ x ∈ l ∧ Behind key cur x) :
    Page key limit l cur (cut key limit (ds.take (limit + 1))).1
    (cut key limit (ds.take (limit + 1))).2 := by
  unfold cut
  by_cases hlen : limit < (ds.take (limit + 1)).length
  · rw [if_pos hlen]
    rw [List.length_take] at hlen
    have hlast : limit - 1 < ds.length := by omega
    have hkey : ((ds.take (limit + 1))[limit - 1]?).map key = some (key ds[limit - 1]) := by
      rw [List.getElem?_take_of_lt (by omega), List.getElem?_eq_getElem hlast]
      rfl
    have htake : (ds.take (limit + 1)).take limit = ds.take limit := by
      rw [List.take_take, Nat.min_eq_left (by omega)]
    have hm := mem_take_descending hd hlast
    rw [Nat.sub_add_cancel hl] at hm
    rw [hkey, htake]
    refine ⟨(nodup_of_descending hd).sublist (List.take_sublist _ _), ?_, ?_, ?_⟩
    · intro x
      rw [hm, hmem]
      constructor
      · rintro ⟨⟨hx, hb⟩, hle⟩
        refine ⟨hx, hb, fun c hc => ?_⟩
        cases hc
        exact hle
      · rintro ⟨hx, hb, hle⟩
        exact ⟨⟨hx, hb⟩, hle _ rfl⟩
    · intro c hc c₀ hc₀
      cases hc
      exact ((hmem _).mp (List.getElem_mem hlast)).2 c₀ hc₀
    · intro c _
      rw [List.length_take]
      omega
  · rw [if_neg hlen]
    rw [List.length_take] at hlen
    have htake : ds.take (limit + 1) = ds := List.take_of_length_le (by omega)
    rw [htake]
    refine ⟨nodup_of_descending hd, ?_, nofun, nofun⟩
    intro x
    rw [hmem]
    constructor
    · rintro ⟨hx, hb⟩
      exact ⟨hx, hb, nofun⟩
    · rintro ⟨hx, hb, -⟩
      exact ⟨hx, hb⟩

/-- Behind a cursor in a descending list is everything from the first such
entry on. -/
theorem drop_findIdx_descending {ds : List α} (h : ds.Pairwise fun x y => key y < key x) (c : κ) :
    ds.drop (ds.findIdx fun x => key x < c) = ds.filter fun x => key x < c := by
  induction ds with
  | nil => rfl
  | cons d ds ih =>
    obtain ⟨hd, hds⟩ := List.pairwise_cons.mp h
    rw [List.findIdx_cons]
    by_cases hk : key d < c
    · have hall : ∀ x ∈ d :: ds, decide (key x < c) = true := by
        intro x hx
        rcases List.mem_cons.mp hx with rfl | hx
        · simp [hk]
        · simp [lt_trans (hd x hx) hk]
      rw [List.filter_eq_self.mpr hall]
      simp [hk]
    · rw [List.filter_cons_of_neg (by simp [hk]), ← ih hds]
      simp [hk]

/-! ## Walks -/

/-- A page request: what there was, and the answer. -/
structure Request (α κ : Type) where
  held : List α
  page : List α
  next : Option κ

/-- Requests that follow the cursors, up to the last page or to where the
reader has come. -/
inductive Walk (key : α → κ) (limit : Nat) : Option κ → List (Request α κ) → Prop where
  | here (cur : Option κ) : Walk key limit cur []
  | last {cur : Option κ} {l es : List α} (h : Page key limit l cur es none) :
    Walk key limit cur [⟨l, es, none⟩]
  | more {cur : Option κ} {l es : List α} {c : κ} {ws : List (Request α κ)}
    (h : Page key limit l cur es (some c))
      (hw : Walk key limit (some c) ws) : Walk key limit cur (⟨l, es, some c⟩ :: ws)

section
variable {limit : Nat} {cur : Option κ} {ws : List (Request α κ)}

/-- The pages of a walk stay behind its cursor. -/
theorem walk_behind (h : Walk key limit cur ws) :
    ∀ w ∈ ws, ∀ x ∈ w.page, x ∈ w.held ∧ Behind key cur x := by
  induction h with
  | here cur => exact nofun
  | last hp =>
    intro w hw x hx
    cases List.mem_singleton.mp hw
    obtain ⟨hl, hb, -⟩ := (hp.mem x).mp hx
    exact ⟨hl, hb⟩
  | more hp _ ih =>
    intro w hw x hx
    rcases List.mem_cons.mp hw with rfl | hw
    · obtain ⟨hl, hb, -⟩ := (hp.mem x).mp hx
      exact ⟨hl, hb⟩
    · obtain ⟨hl, hb⟩ := ih w hw x hx
      exact ⟨hl, fun c₀ hc₀ => lt_trans (hb _ rfl) (hp.falls _ rfl c₀ hc₀)⟩

theorem filter_eq_singleton {l : List α} {p : α → Bool} {x : α} (hn : l.Nodup) (hx : x ∈ l)
    (hp : p x = true)
    (honly : ∀ y ∈ l, p y = true → y = x) : l.filter p = [x] := by
  have hperm : (l.filter p).Perm [x] := by
    refine (List.perm_ext_iff_of_nodup (hn.filter p) (List.nodup_singleton x)).mpr fun y => ?_
    rw [List.mem_filter, List.mem_singleton]
    constructor
    · rintro ⟨hy, hpy⟩
      exact honly y hy hpy
    · rintro rfl
      exact ⟨hx, hp⟩
  exact List.perm_singleton.mp hperm

/-- **Exactly once.** What is there at every request of a finished walk is on
exactly one of its pages; `p` tells it from everything else there. -/
theorem walk_once (h : Walk key limit cur ws) (hend : ∃ w ∈ ws, w.next = none) {x : α} {p : α → Bool}
    (hb : Behind key cur x) (hheld : ∀ w ∈ ws, x ∈ w.held) (hp : p x = true)
    (honly : ∀ w ∈ ws, ∀ y ∈ w.held, p y = true → y = x) : (ws.flatMap (·.page)).filter p = [x] := by
  induction h with
  | here cur =>
    obtain ⟨w, hw, -⟩ := hend
    cases hw
  | last hpage =>
    rw [List.flatMap_cons, List.flatMap_nil, List.append_nil]
    refine filter_eq_singleton hpage.nodup ?_ hp ?_
    · exact (hpage.mem x).mpr ⟨hheld _ List.mem_cons_self, hb, nofun⟩
    · intro y hy
      exact honly _ List.mem_cons_self y ((hpage.mem y).mp hy).1
  | @more cur l es c ws hpage hw ih =>
    have hlater := walk_behind hw
    have honly' : ∀ w ∈ ws, ∀ y ∈ w.held, p y = true → y = x :=
      fun w hw => honly w (List.mem_cons_of_mem _ hw)
    rw [List.flatMap_cons, List.filter_append]
    by_cases hc : c ≤ key x
    · -- on this page, and on no later one
      have hthis : es.filter p = [x] := by
        refine filter_eq_singleton hpage.nodup ?_ hp ?_
        · refine (hpage.mem x).mpr ⟨hheld _ List.mem_cons_self, hb, fun c' hc' => ?_⟩
          cases hc'
          exact hc
        · intro y hy
          exact honly _ List.mem_cons_self y ((hpage.mem y).mp hy).1
      have hrest : (ws.flatMap (·.page)).filter p = [] := by
        refine List.filter_eq_nil_iff.mpr fun y hy hpy => ?_
        obtain ⟨w, hw', hyw⟩ := List.mem_flatMap.mp hy
        obtain ⟨hyl, hyb⟩ := hlater w hw' y hyw
        have hyx := honly' w hw' y hyl hpy
        subst hyx
        exact absurd (hyb c rfl) (not_lt.mpr hc)
      rw [hthis, hrest, List.append_nil]
    · -- still to come
      have hthis : es.filter p = [] := by
        refine List.filter_eq_nil_iff.mpr fun y hy hpy => ?_
        obtain ⟨hyl, -, hyc⟩ := (hpage.mem y).mp hy
        have hyx := honly _ List.mem_cons_self y hyl hpy
        subst hyx
        exact hc (hyc c rfl)
      rw [hthis, List.nil_append]
      refine ih ?_ ?_ (fun w hw => hheld w (List.mem_cons_of_mem _ hw)) honly'
      · obtain ⟨w, hmem, hnone⟩ := hend
        rcases List.mem_cons.mp hmem with rfl | hmem
        · cases hnone
        · exact ⟨w, hmem, hnone⟩
      · intro c' hc'
        cases hc'
        exact not_le.mp hc

theorem pages_nodup (h : Walk key limit cur ws) : (ws.flatMap (·.page)).Nodup := by
  induction h with
  | here cur => exact List.nodup_nil
  | last hp =>
    rw [List.flatMap_cons, List.flatMap_nil, List.append_nil]
    exact hp.nodup
  | more hp hw ih =>
    rw [List.flatMap_cons]
    refine List.nodup_append.mpr ⟨hp.nodup, ih, ?_⟩
    intro a ha b hb hab
    subst hab
    obtain ⟨w, hw', haw⟩ := List.mem_flatMap.mp hb
    have hlt := (walk_behind hw w hw' a haw).2 _ rfl
    exact absurd hlt (not_lt.mpr (((hp.mem a).mp ha).2.2 _ rfl))

theorem pages_length (h : Walk key limit cur ws) (hmore : ∀ w ∈ ws, w.next ≠ none) :
    (ws.flatMap (·.page)).length = ws.length * limit := by
  induction h with
  | here cur => simp
  | last hp => exact absurd rfl (hmore _ List.mem_cons_self)
  | more hp hw ih =>
    rw [List.flatMap_cons, List.length_append, ih fun w hw => hmore w (List.mem_cons_of_mem _ hw),
      hp.full _ rfl, List.length_cons]
    rw [Nat.succ_mul, Nat.add_comm]

/-- **Bounded.** A walk over a collection that gets nothing new ends: as long
as it has not, its pages are full and disjoint parts of what there was. -/
theorem walk_bounded (h : Walk key limit cur ws) (hmore : ∀ w ∈ ws, w.next ≠ none) {l : List α}
    (hl : ∀ w ∈ ws, ∀ x ∈ w.held, x ∈ l) : ws.length * limit ≤ l.length := by
  rw [← pages_length h hmore]
  refine List.Nodup.length_le_of_subset (pages_nodup h) fun x hx => ?_
  obtain ⟨w, hw, hxw⟩ := List.mem_flatMap.mp hx
  exact hl w hw x (walk_behind h w hw x hxw).1

end

end Lota.Core.Keyset

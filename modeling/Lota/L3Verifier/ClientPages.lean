import Lota.Core.Decimal
import Lota.Core.OffsetPages
import Mathlib.Data.List.Sort

/-!
# Paging through the clients (`verifier/store/aik.go`, `verifier/server/api.go`)

`ListClientsPage` cuts a page out of the registered clients by position, and
`GET /api/v1/clients` adds the clients that are active without being
registered behind them. The SQLite store reads its rows in the order of their
IDs. The other stores range over a Go map, in an order of its own for every
call, and cut the page out of that.

* `listClientsPage_page`, `handleListClients_page`: one request is one page.
* `client_listing_iff`: a reader gets every client exactly once, whatever the
  orders, exactly when the store is sorted or all fit the first page.
* `client_listed_twice`: two clients and pages of one.
-/
namespace Lota.L3.ClientPages
open Lota.Core Lota.Core.OffsetPages

/-! ## The stores -/

inductive StoreKind where
  | file | certificate | memory | sqlite
  deriving DecidableEq

/-- A store with the registered clients: the keys of its map or the `id`
column of its table. -/
structure AikClients where
  kind : StoreKind
  clients : List String
  nodup : clients.Nodup

/-- The page out of the clients, in the order `clients` in which the call has
ranged over the map. For the requests of a reader `offset + limit` is far from
overflow.
mirrors src/verifier/store/aik.go:370-386 and 635-651 -/
def pageOf (clients : List String) (limit offset : Int) : List String :=
  let offset := if offset < 0 then 0 else offset
  if offset ≥ clients.length then []
  else if limit ≤ 0 then clients.drop offset.toNat
  else
    let stop := if offset + limit > clients.length then (clients.length : Int) else offset + limit
    (clients.take stop.toNat).drop offset.toNat

def fileListClientsPage (order : List String) (limit offset : Int) : List String :=
  pageOf order limit offset

def memoryListClientsPage (order : List String) (limit offset : Int) : List String :=
  pageOf order limit offset

/-- mirrors src/verifier/store/aik.go:1114-1116 -/
def certificateListClientsPage (order : List String) (limit offset : Int) : List String :=
  fileListClientsPage order limit offset

/-- `ORDER BY id`, which compares bytes. -/
def sortIds (ids : List String) : List String := ids.mergeSort (· ≤ ·)

/-- mirrors src/verifier/store/sqlite.go:188-222 -/
def sqliteListClientsPageE (ids : List String) (limit offset : Int) : List String :=
  if limit > 0 then ((sortIds ids).drop (if offset > 0 then offset.toNat else 0)).take limit.toNat
  else sortIds ids

def listClientsPage (s : AikClients) (order : List String) (limit offset : Int) : List String :=
  match s.kind with
  | .file => fileListClientsPage order limit offset
  | .certificate => certificateListClientsPage order limit offset
  | .memory => memoryListClientsPage order limit offset
  | .sqlite => sqliteListClientsPageE s.clients limit offset

/-- The order of one call. -/
def seen (s : AikClients) (order : List String) : List String :=
  if s.kind = .sqlite then sortIds s.clients else order

/-! ## The endpoint -/

/-- The parameters of the URL; one that is missing is empty. -/
structure ListClientsQuery where
  limit : String
  offset : String

/-- mirrors src/verifier/server/api.go:456-462 -/
structure ClientListResponse where
  clients : List String
  count : Nat
  total : Nat
  limit : Nat
  offset : Nat
  deriving DecidableEq

/-- What one request meets: the order of the map, the active clients, and the
database queries that fail. -/
structure ListCall where
  order : List String
  active : List String
  listFails : Bool
  countFails : Bool
  existingFails : Bool

def defaultLimit : Nat := 100
def maxLimit : Nat := 1000
def maxClientOffset : Nat := 10000

/-- A parameter that is not a number of the right sign is ignored.
mirrors src/verifier/server/api.go:756-781 -/
def parsePagination (q : ListClientsQuery) : Except String (Nat × Nat) :=
  let limit := match parseInt64 q.limit with
    | some parsed => if parsed > 0 then parsed.toNat else defaultLimit
    | none => defaultLimit
  let offset := match parseInt64 q.offset with
    | some parsed => if parsed ≥ 0 then parsed.toNat else 0
    | none => 0
  let limit := if limit > maxLimit then maxLimit else limit
  if offset > maxClientOffset then .error "offset exceeds maximum (10000)" else .ok (limit, offset)

/-- The active clients that are not registered, sorted. -/
def activeOnly (s : AikClients) (active : List String) : List String :=
  sortIds (active.filter (· ∉ s.clients))

/-- The page with the active clients behind the registered ones.
mirrors src/verifier/server/api.go:411-428 -/
def fillPage (clients actives : List String) (dbTotal limit offset : Nat) : List String :=
  if clients.length < limit then
    let activeOffset := if offset > dbTotal then offset - dbTotal else 0
    if activeOffset < actives.length then
      let stop := min (activeOffset + (limit - clients.length)) actives.length
      clients ++ (actives.take stop).drop activeOffset
    else clients
  else clients

/-- Every store is a `PaginatedClientLister`; the ones that report errors are
the SQLite stores.
mirrors src/verifier/server/api.go:329-454 -/
def handleListClients (s : AikClients) (call : ListCall) (q : ListClientsQuery) :
    Except (Nat × String) ClientListResponse :=
  match parsePagination q with
  | .error e => .error (400, e)
  | .ok (limit, offset) =>
    if s.kind = .sqlite ∧ (call.listFails || call.countFails || call.existingFails) = true then
      .error (500, "database unavailable")
    else
      let dbTotal := s.clients.length
      let actives := activeOnly s call.active
      let clients := fillPage (listClientsPage s call.order limit offset) actives dbTotal limit offset
      .ok { clients, count := clients.length, total := dbTotal + actives.length, limit, offset }

/-! ## One request is one page -/

theorem sortIds_perm (ids : List String) : (sortIds ids).Perm ids := List.mergeSort_perm _ _

theorem seen_perm {s : AikClients} {order : List String} (h : order.Perm s.clients) :
    (seen s order).Perm s.clients := by
  unfold seen
  split
  · exact sortIds_perm _
  · exact h

theorem pageOf_slice (clients : List String) {limit : Nat} (hlimit : 1 ≤ limit) (offset : Nat) :
    pageOf clients limit offset = (clients.drop offset).take limit := by
  have hneg : ¬ (offset : Int) < 0 := by omega
  have hpos : ¬ (limit : Int) ≤ 0 := by omega
  unfold pageOf
  simp only [if_neg hneg, if_neg hpos, Int.toNat_natCast]
  by_cases hend : (offset : Int) ≥ clients.length
  · rw [if_pos hend, List.drop_of_length_le (by omega), List.take_nil]
  · rw [if_neg hend]
    by_cases hover : (offset : Int) + limit > clients.length
    · have hlen : (clients.drop offset).length ≤ limit := by rw [List.length_drop]; omega
      rw [if_pos hover, Int.toNat_natCast, List.take_length, List.take_of_length_le hlen]
    · have hsum : ((offset : Int) + limit).toNat = offset + limit := by omega
      rw [if_neg hover, hsum, List.drop_take, Nat.add_sub_cancel_left]

theorem listClientsPage_page {s : AikClients} {order : List String} {limit : Nat}
    (hlimit : 1 ≤ limit) (offset : Nat) :
    listClientsPage s order limit offset = ((seen s order).drop offset).take limit := by
  unfold listClientsPage seen
  cases s.kind with
  | file => exact pageOf_slice order hlimit offset
  | certificate => exact pageOf_slice order hlimit offset
  | memory => exact pageOf_slice order hlimit offset
  | sqlite =>
    simp only [sqliteListClientsPageE, if_true]
    rw [if_pos (by omega), Int.toNat_natCast]
    split
    · rw [Int.toNat_natCast]
    · have hzero : offset = 0 := by omega
      rw [hzero]

/-- The filled page is a page of both lists together. -/
theorem fillPage_page (l actives : List String) {limit : Nat} (offset : Nat) :
    fillPage ((l.drop offset).take limit) actives l.length limit offset =
      ((l ++ actives).drop offset).take limit := by
  have hsub : (if offset > l.length then offset - l.length else 0) = offset - l.length := by
    split
    · rfl
    · omega
  unfold fillPage
  simp only [hsub]
  rw [List.drop_append, List.take_append, List.length_take, List.length_drop]
  by_cases hfull : min limit (l.length - offset) < limit
  · have hshort : l.length - offset < limit := by omega
    rw [if_pos hfull]
    split
    · rw [List.drop_take, List.append_cancel_left_eq, List.take_eq_take_iff, List.length_drop]
      omega
    · rename_i hnone
      rw [List.drop_of_length_le (Nat.not_lt.mp hnone), List.take_nil, List.append_nil]
  · have hzero : limit - (l.length - offset) = 0 := by omega
    rw [if_neg hfull, hzero, List.take_zero, List.append_nil]

/-! ## Orders -/

theorem sortIds_eq {ids ids' : List String} (h : ids.Perm ids') : sortIds ids = sortIds ids' := by
  have hsorted : ∀ l : List String, (sortIds l).Pairwise (· ≤ ·) :=
    fun l => List.pairwise_mergeSort' _ l
  have hanti : ∀ a b, a ∈ sortIds ids → b ∈ sortIds ids' → a ≤ b → b ≤ a → a = b :=
    fun _ _ _ _ => String.le_antisymm
  exact List.Perm.eq_of_pairwise hanti (hsorted _) (hsorted _)
    (((sortIds_perm ids).trans h).trans (sortIds_perm ids').symm)

theorem activeOnly_eq (s : AikClients) {active active' : List String} (h : active.Perm active') :
    activeOnly s active = activeOnly s active' := sortIds_eq (h.filter _)

theorem mem_activeOnly {s : AikClients} {active : List String} {id : String} :
    id ∈ activeOnly s active ↔ id ∈ active ∧ id ∉ s.clients := by
  unfold activeOnly
  rw [(sortIds_perm _).mem_iff, List.mem_filter, decide_eq_true_eq]

/-- No client is listed both as registered and as active. -/
theorem known_nodup (s : AikClients) {active : List String} (h : active.Nodup) :
    (s.clients ++ activeOnly s active).Nodup := by
  refine s.nodup.append ((sortIds_perm _).nodup_iff.mpr (h.filter _)) ?_
  intro id hid hact
  exact (mem_activeOnly.mp hact).2 hid

/-! ## A reader -/

/-- A request without faults, in some order of the maps. -/
structure Plain (s : AikClients) (active : List String) (call : ListCall) : Prop where
  order : call.order.Perm s.clients
  active : call.active.Perm active
  works : (call.listFails || call.countFails || call.existingFails) = false

/-- The page size that is in force. -/
def pageSize (limit : Nat) : Nat := min limit maxLimit

/-- The pages of the store, each call with its order of the map. -/
def storePages (s : AikClients) (orders : Nat → List String) (limit j : Nat) : Option (List String) :=
  some (listClientsPage s (orders j) limit (j * limit : Nat))

/-- The pages of the endpoint; a request that is refused is none. -/
def endpointPages (s : AikClients) (calls : Nat → ListCall) (limit j : Nat) : Option (List String) :=
  (handleListClients s (calls j)
    { limit := toString limit, offset := toString (j * pageSize limit) }).toOption.map
    ClientListResponse.clients

theorem parsePagination_toString {limit offset : Nat} (h1 : 1 ≤ limit) (h2 : limit < 2 ^ 63)
    (hoffset : offset ≤ maxClientOffset) :
    parsePagination { limit := toString limit, offset := toString offset } =
    .ok (pageSize limit, offset) := by
  have hsmall : offset ≤ 10000 := hoffset
  have hpos : (limit : Int) > 0 := by omega
  have hnonneg : (offset : Int) ≥ 0 := by omega
  unfold parsePagination pageSize
  simp only [parseInt64_toString h2, parseInt64_toString (show offset < 2 ^ 63 by omega),
    Int.toNat_natCast, if_pos hpos, if_pos hnonneg, if_neg (Nat.not_lt.mpr hoffset)]
  split
  · rw [Nat.min_eq_right (by omega)]
  · rw [Nat.min_eq_left (by omega)]

/-- **Endpoint.** An accepted request is one page of the registered clients
with the active ones behind them. -/
theorem handleListClients_page {s : AikClients} {active : List String} {call : ListCall}
    (hcall : Plain s active call)
    {limit j : Nat} (h1 : 1 ≤ limit) (h2 : limit < 2 ^ 63)
    (hoffset : j * pageSize limit ≤ maxClientOffset) :
    handleListClients s call { limit := toString limit, offset := toString (j * pageSize limit) } =
      .ok
        { clients := page (seen s call.order ++ activeOnly s active) (pageSize limit) j
          count := (page (seen s call.order ++ activeOnly s active) (pageSize limit) j).length
          total := s.clients.length + (activeOnly s active).length
          limit := pageSize limit
          offset := j * pageSize limit } := by
  have hsize : 1 ≤ pageSize limit := by unfold pageSize maxLimit; omega
  have hlen : s.clients.length = (seen s call.order).length := (seen_perm hcall.order).length_eq.symm
  unfold handleListClients
  simp only [parsePagination_toString h1 h2 hoffset, hcall.works, Bool.false_eq_true,
    and_false, if_false, activeOnly_eq s hcall.active]
  rw [listClientsPage_page hsize, hlen, fillPage_page]
  rfl

section reader
variable {s : AikClients} {back : List String} {n : Nat}

/-- A sorted store, or clients that fit one page. -/
theorem reads_known (hn : 0 < n) (hcond : s.kind = .sqlite ∨ s.clients.length ≤ n)
    {orders : Nat → List String}
    (horders : ∀ j, (orders j).Perm s.clients) {answer : Nat → Option (List String)}
    (hpages : ∀ j ≤ pageCount (s.clients ++ back).length n,
      answer j = some (page (seen s (orders j) ++ back) n j)) :
    ∃ got, Reads answer got ∧ got.Perm (s.clients ++ back) := by
  have hperm : ∀ j, (seen s (orders j)).Perm s.clients := fun j => seen_perm (horders j)
  have hlen : (seen s (orders 0) ++ back).length = (s.clients ++ back).length :=
    ((hperm 0).append_right back).length_eq
  refine ⟨seen s (orders 0) ++ back, ?_, (hperm 0).append_right back⟩
  rcases hcond with hkind | hfit
  · refine reads_stable hn fun j hj => ?_
    rw [hpages j (hlen ▸ hj), seen, seen, if_pos hkind, if_pos hkind]
  · have hfit₀ : (seen s (orders 0)).length ≤ n := (hperm 0).length_eq ▸ hfit
    have hsame : ∀ j, (seen s (orders j)).length = (seen s (orders 0)).length := fun j =>
      (hperm j).length_eq.trans (hperm 0).length_eq.symm
    exact reads_front hn hfit₀ hsame fun j hj => hpages j (hlen ▸ hj)

/-- A map with more clients than a page: the second request may find a client
of the first page again. -/
theorem orders_repeat (hn : 0 < n) (hkind : s.kind ≠ .sqlite) (hlong : n < s.clients.length)
    (hnd : (s.clients ++ back).Nodup) :
    ∃ orders : Nat → List String, (∀ j, (orders j).Perm s.clients) ∧ ∀ answer :
    Nat → Option (List String),
      (∀ j ≤ 1, answer j = some (page (seen s (orders j) ++ back) n j)) →
        ¬ ∃ got, Reads answer got ∧ got.Perm (s.clients ++ back) := by
  cases hclients : s.clients with
  | nil =>
    rw [hclients] at hlong
    exact absurd hlong (Nat.not_lt_zero n)
  | cons x rest =>
    rw [hclients, List.length_cons] at hlong
    have hseen : ∀ order, seen s order = order := fun order => if_neg hkind
    refine ⟨fun j => if j = 0 then x :: rest else moved x rest n, fun j => ?_, fun answer hpages => ?_⟩
    · dsimp only
      split
      · exact .refl _
      · exact moved_perm x rest n
    · rintro ⟨got, hreads, hperm⟩
      have h₀ := hpages 0 (by omega)
      have h₁ := hpages 1 (by omega)
      simp only [hseen, if_true, Nat.one_ne_zero, if_false] at h₀ h₁
      have hx₀ : x ∈ page (x :: rest ++ back) n 0 := by
        obtain ⟨m, rfl⟩ := Nat.exists_eq_succ_of_ne_zero (Nat.pos_iff_ne_zero.mp hn)
        unfold page
        rw [Nat.zero_mul, List.drop_zero, List.cons_append, List.take_succ_cons]
        exact List.mem_cons_self
      refine not_reads_moved h₀ h₁ hx₀ (mem_page_moved hn (by omega)) hreads (hperm.nodup_iff.mpr ?_)
      rwa [hclients] at hnd

end reader

/-- **Listing.** For a fixed set of registered clients and any page size of at
least 1: pages of the store, fetched up to the first empty one, have every
client exactly once in whatever orders the calls range over the map, exactly
when the store is the SQLite store or the clients fit one page. The same holds
of the endpoint, for the registered clients with the active ones behind them,
where the offsets of all pages are in the range that it accepts. -/
theorem client_listing_iff (s : AikClients) (limit : Nat) (hlimit : 1 ≤ limit) :
    ((∀ orders : Nat → List String, (∀ j, (orders j).Perm s.clients) →
        ∃ got, Reads (storePages s orders limit) got ∧ got.Perm s.clients) ↔
      s.kind = .sqlite ∨ s.clients.length ≤ limit) ∧
    ∀ active : List String, active.Nodup → limit < 2 ^ 63 →
      pageCount (s.clients ++ activeOnly s active).length (pageSize limit) * pageSize limit ≤
      maxClientOffset → ((∀ calls : Nat → ListCall, (∀ j, Plain s active (calls j)) →
          ∃ got, Reads (endpointPages s calls limit) got ∧
          got.Perm (s.clients ++ activeOnly s active)) ↔
        s.kind = .sqlite ∨ s.clients.length ≤ pageSize limit) := by
  constructor
  · have hpages : ∀ orders j, storePages s orders limit j =
        some (page (seen s (orders j) ++ []) limit j) := by
      intro orders j
      rw [storePages, listClientsPage_page hlimit, List.append_nil]
      rfl
    constructor
    · intro hall
      by_contra hcond
      obtain ⟨hkind, hlong⟩ := not_or.mp hcond
      have hnd : (s.clients ++ []).Nodup := by
        rw [List.append_nil]
        exact s.nodup
      obtain ⟨orders, horders, hnot⟩ := orders_repeat hlimit hkind (Nat.not_le.mp hlong) hnd
      refine hnot (storePages s orders limit) (fun j _ => hpages orders j) ?_
      rw [List.append_nil]
      exact hall orders horders
    · intro hcond orders horders
      have hreads := reads_known hlimit hcond horders fun j _ => hpages orders j
      rwa [List.append_nil] at hreads
  · intro active hactive hlarge hreach
    have hsize : 1 ≤ pageSize limit := by unfold pageSize maxLimit; omega
    have hpages : ∀ calls, (∀ j, Plain s active (calls j)) →
        ∀ j ≤ pageCount (s.clients ++ activeOnly s active).length (pageSize limit),
          endpointPages s calls limit j =
            some (page (seen s (calls j).order ++ activeOnly s active) (pageSize limit) j) := by
      intro calls hcalls j hj
      have hoffset : j * pageSize limit ≤ maxClientOffset := (Nat.mul_le_mul_right _ hj).trans hreach
      rw [endpointPages, handleListClients_page (hcalls j) hlimit hlarge hoffset]
      rfl
    constructor
    · intro hall
      by_contra hcond
      obtain ⟨hkind, hlong⟩ := not_or.mp hcond
      obtain ⟨orders, horders, hnot⟩ :=
        orders_repeat hsize hkind (Nat.not_le.mp hlong) (known_nodup s hactive)
      have hcalls : ∀ j, Plain s active ⟨orders j, active, false, false, false⟩ :=
        fun j => ⟨horders j, .refl _, rfl⟩
      refine hnot _ (fun j hj => hpages _ hcalls j (hj.trans ?_)) (hall _ hcalls)
      -- there is an entry behind the first page
      by_contra hcount
      have hle : (s.clients ++ activeOnly s active).length ≤ _ := le_pageCount hsize
      have hzero : pageCount (s.clients ++ activeOnly s active).length (pageSize limit) = 0 := by omega
      rw [hzero, Nat.zero_mul, List.length_append] at hle
      omega
    · intro hcond calls hcalls
      exact reads_known hsize hcond (fun j => (hcalls j).order) (hpages calls hcalls)

/-- Two clients, in the SQLite store and in memory. -/
def sortedPair : AikClients := ⟨.sqlite, ["b", "a"], by decide⟩
def mappedPair : AikClients := ⟨.memory, ["a", "b"], by decide⟩

theorem client_listing_sorted_pair :
    ∃ got, Reads (storePages sortedPair (fun _ => ["b", "a"]) 1) got ∧ got.Perm ["b", "a"] :=
  (client_listing_iff sortedPair 1 (by decide)).1.mpr (.inl rfl) _ fun _ => .refl _

/-- The map is ranged over in one order for the first page and in the other
one after that. -/
def swapped (j : Nat) : List String := if j = 0 then ["a", "b"] else ["b", "a"]

/-- Pages of one client: the reader gets `a` twice and never `b`. -/
theorem client_listed_twice :
    (∀ j, (swapped j).Perm mappedPair.clients) ∧ Reads (storePages mappedPair swapped 1) ["a", "a"] ∧
      ¬ ∃ got, Reads (storePages mappedPair swapped 1) got ∧ got.Perm mappedPair.clients := by
  refine ⟨fun j => ?_, ⟨2, fun _ => ["a"], rfl, fun j hj => ⟨?_, by simp⟩, rfl⟩, ?_⟩
  · unfold swapped
    split
    · exact .refl _
    · exact List.Perm.swap _ _ _
  · rcases (by omega : j = 0 ∨ j = 1) with rfl | rfl
    · rfl
    · rfl
  · rintro ⟨got, hreads, hperm⟩
    have hfirst : storePages mappedPair swapped 1 0 = some ["a"] := rfl
    have hsecond : storePages mappedPair swapped 1 1 = some ["a"] := rfl
    refine not_reads_moved hfirst hsecond List.mem_cons_self List.mem_cons_self hreads ?_
    exact hperm.nodup_iff.mpr mappedPair.nodup

end Lota.L3.ClientPages

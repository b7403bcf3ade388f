import Lota.L2Store.Nonce
import Mathlib.Data.List.Induction

/-!
# The history of used nonces over whole runs (`verifier/verify/nonce.go`)

The memory backend keeps its keys twice: in `order`, the linked list with the
key recorded longest ago in front, and in `index`, which finds the element of
a key. `Record` moves a known key to the back and evicts the front of a full
table; `Cleanup` walks the list and removes what is too old.

* `Linked` is the invariant that ties the index to the list; `remove_order`,
  `dropExisting_order`, `evictFront_order`, `cleanup_order` say what each part
  of a call does to the list.
* `cleanupWalk_eq`: removing elements while walking skips none.
* `used_nonce_history`: over every run the two hold the same keys, at most
  `maxSize` of them, and a key is forgotten only when `Cleanup` finds it too
  old or when a new key finds the table full and it was recorded longest ago.
-/
namespace Lota.L2.Nonce
open Lota.Core

namespace MemoryUsedNonceBackend

/-- mirrors src/verifier/verify/nonce.go:64-69 -/
def newMemoryUsedNonceBackend (maxSize : Int) : MemoryUsedNonceBackend where
  maxSize := maxSize

/-! ## The index and the list -/

/-- The list in order, without the numbers of its elements. -/
def recorded (m : MemoryUsedNonceBackend) : List UsedNonceEntry := m.order.map Prod.snd

/-- The index finds exactly the elements of the list, whose numbers and keys
are distinct. -/
structure Linked (m : MemoryUsedNonceBackend) : Prop where
  elems : (m.order.map Prod.fst).Nodup
  keys : (m.recorded.map UsedNonceEntry.key).Nodup
  found : ∀ k n, m.index.lookup k = some n ↔ ∃ e ∈ m.order, e.1 = n ∧ e.2.key = k
  numbered : ∀ e ∈ m.order, e.1 < m.nextElem

theorem linked_new (maxSize : Int) : Linked (newMemoryUsedNonceBackend maxSize) where
  elems := List.nodup_nil
  keys := List.nodup_nil
  found k n := by simp [newMemoryUsedNonceBackend]
  numbered _ h := by simp [newMemoryUsedNonceBackend] at h

variable {m : MemoryUsedNonceBackend} {key : String}

theorem Linked.eq_of_elem (h : Linked m) {e e' : Nat × UsedNonceEntry} (he : e ∈ m.order)
    (he' : e' ∈ m.order)
    (heq : e.1 = e'.1) : e = e' :=
  List.inj_on_of_nodup_map h.elems he he' heq

theorem Linked.eq_of_key (h : Linked m) {e e' : Nat × UsedNonceEntry} (he : e ∈ m.order)
    (he' : e' ∈ m.order)
    (heq : e.2.key = e'.2.key) : e = e' := by
  have hk := h.keys
  rw [recorded, List.map_map] at hk
  exact List.inj_on_of_nodup_map hk he he' heq

theorem Linked.contains_iff (h : Linked m) : m.contains key = true ↔ ∃ e ∈ m.recorded, e.key = key := by
  rw [contains, Option.isSome_iff_exists]
  constructor
  · rintro ⟨n, hn⟩
    obtain ⟨e, he, -, hk⟩ := (h.found key n).mp hn
    exact ⟨e.2, List.mem_map_of_mem he, hk⟩
  · rintro ⟨e, he, hk⟩
    obtain ⟨p, hp, rfl⟩ := List.mem_map.mp he
    exact ⟨p.1, (h.found key p.1).mpr ⟨p, hp, rfl, hk⟩⟩

theorem Linked.perm (h : Linked m) : m.index.keys.Perm (m.recorded.map UsedNonceEntry.key) := by
  refine (List.perm_ext_iff_of_nodup m.index.keys_nodup h.keys).mpr fun k => ?_
  rw [← AList.mem_keys, ← AList.lookup_isSome, List.mem_map]
  exact h.contains_iff

theorem Linked.length_index (h : Linked m) : m.index.keys.length = m.recorded.length := by
  rw [h.perm.length_eq, List.length_map]

/-! ## The parts of a call -/

/-- Removing an element of the list by its number is removing its key. -/
theorem remove_order (h : Linked m) {e : Nat × UsedNonceEntry} (he : e ∈ m.order) :
    (m.remove e.1 e.2.key).order = m.order.filter fun x => x.2.key ≠ e.2.key := by
  refine List.filter_congr fun x hx => decide_eq_decide.mpr (not_congr ⟨fun heq => ?_, fun heq => ?_⟩)
  · rw [h.eq_of_elem hx he heq]
  · rw [h.eq_of_key hx he heq]

theorem remove_linked (h : Linked m) {e : Nat × UsedNonceEntry} (he : e ∈ m.order) :
    Linked (m.remove e.1 e.2.key) where
  elems := h.elems.sublist (List.filter_sublist.map _)
  keys := h.keys.sublist ((List.filter_sublist.map _).map _)
  found k n := by
    rw [remove_order h he]
    simp only [remove, lookup_erase_ite]
    split_ifs with hk
    · simp [hk]
    · rw [h.found]
      constructor
      · rintro ⟨x, hx, hn, hxk⟩
        refine ⟨x, List.mem_filter.mpr ⟨hx, decide_eq_true ?_⟩, hn, hxk⟩
        rw [hxk]
        exact hk
      · rintro ⟨x, hx, hn, hxk⟩
        exact ⟨x, List.mem_of_mem_filter hx, hn, hxk⟩
  numbered x hx := h.numbered x (List.mem_of_mem_filter hx)

/-- The removal of one element leaves the rest of the list as it is. -/
theorem remove_middle (h : Linked m) {pre post : List (Nat × UsedNonceEntry)} {e : Nat × UsedNonceEntry}
    (ho : m.order = pre ++ e :: post) : (m.remove e.1 e.2.key).order = pre ++ post := by
  have hnd := h.elems
  rw [ho, List.map_append, List.map_cons, List.nodup_middle, List.nodup_cons, ← List.map_append] at hnd
  have hne (x : Nat × UsedNonceEntry) (hx : x ∈ pre ++ post) : decide (x.1 ≠ e.1) = true := by
    rw [decide_eq_true_iff]
    intro heq
    exact hnd.1 (heq ▸ List.mem_map_of_mem hx)
  simp only [remove, ho, List.filter_append]
  rw [List.filter_cons_of_neg (by simp), ← List.filter_append, List.filter_eq_self.mpr hne]

theorem map_snd_filter (l : List (Nat × UsedNonceEntry)) (p : UsedNonceEntry → Bool) :
    (l.filter fun x => p x.2).map Prod.snd = (l.map Prod.snd).filter p := by
  rw [List.filter_map]
  rfl

/-- The key that is recorded again leaves its place in the list. -/
theorem dropExisting_order (h : Linked m) (key : String) :
    Linked (m.dropExisting key) ∧ (m.dropExisting key).recorded = m.recorded.filter
    (fun e => e.key ≠ key) := by
  rw [dropExisting]
  cases hl : m.index.lookup key with
  | none =>
    refine ⟨h, (List.filter_eq_self.mpr fun e he => ?_).symm⟩
    rw [decide_eq_true_iff]
    intro hk
    have hc := h.contains_iff.mpr ⟨e, he, hk⟩
    simp [contains, hl] at hc
  | some n =>
    obtain ⟨e, he, rfl, rfl⟩ := (h.found key n).mp hl
    refine ⟨remove_linked h he, ?_⟩
    rw [recorded, remove_order h he]
    exact map_snd_filter m.order fun x => x.key ≠ e.2.key

/-- A full table loses its front. -/
theorem evictFront_order (h : Linked m) :
    Linked m.evictFront ∧
      m.evictFront.recorded = if m.maxSize ≤ m.recorded.length then m.recorded.tail
      else m.recorded := by
  rw [evictFront, h.length_index]
  split_ifs with hfull
  · cases ho : m.order with
    | nil => exact ⟨h, by simp [recorded, ho]⟩
    | cons front rest =>
      have hmem : front ∈ m.order := by simp [ho]
      refine ⟨remove_linked h hmem, ?_⟩
      have hrest : (m.remove front.1 front.2.key).order = rest := @remove_middle m h [] rest front ho
      simp only [List.head?_cons, recorded, hrest, ho, List.map_cons, List.tail_cons]
  · exact ⟨h, rfl⟩

/-- A key that is not there goes to the back. -/
theorem pushBack_order (h : Linked m) (hnew : ∀ e ∈ m.recorded, e.key ≠ key) (usedAt : Time) :
    Linked (m.pushBack key usedAt) ∧ (m.pushBack key usedAt).recorded = m.recorded ++
    [⟨key, usedAt⟩] := by
  have hrec : (m.pushBack key usedAt).recorded = m.recorded ++ [⟨key, usedAt⟩] := by
    simp [recorded, pushBack]
  refine ⟨⟨?_, ?_, fun k n => ?_, ?_⟩, hrec⟩
  · simp only [pushBack, List.map_append, List.map_cons, List.map_nil]
    refine List.nodup_append.mpr ⟨h.elems, by simp, ?_⟩
    intro a ha b hb
    obtain ⟨e, he, rfl⟩ := List.mem_map.mp ha
    have := h.numbered e he
    rw [List.mem_singleton.mp hb]
    omega
  · rw [hrec, List.map_append]
    refine List.nodup_append.mpr ⟨h.keys, by simp, ?_⟩
    intro a ha b hb
    obtain ⟨e, he, rfl⟩ := List.mem_map.mp ha
    rw [List.mem_singleton.mp hb]
    exact hnew e he
  · simp only [pushBack, lookup_insert_ite, List.mem_append, List.mem_singleton]
    split_ifs with hk
    · subst hk
      constructor
      · rintro hn
        exact ⟨_, .inr rfl, Option.some.inj hn, rfl⟩
      · rintro ⟨e, he | rfl, hn, hek⟩
        · exact absurd hek (hnew e.2 (List.mem_map_of_mem he))
        · exact congrArg some hn
    · rw [h.found]
      constructor
      · rintro ⟨e, he, hn⟩
        exact ⟨e, .inl he, hn⟩
      · rintro ⟨e, he | rfl, hn, hek⟩
        · exact ⟨e, he, hn, hek⟩
        · exact absurd hek.symm hk
  · intro e he
    rcases List.mem_append.mp he with he | he
    · exact Nat.lt_succ_of_lt (h.numbered e he)
    · rw [List.mem_singleton.mp he]
      exact Nat.lt_succ_self _

/-! ## The walk of `Cleanup` -/

/-- One element of the walk. -/
def cleanupElem (olderThan : Time) (m : MemoryUsedNonceBackend) (e : Nat × UsedNonceEntry) :
    MemoryUsedNonceBackend :=
  if e.2.usedAt < olderThan then m.remove e.1 e.2.key else m

/-- `pre` is what the walk has kept and `post` what it has not seen. -/
theorem cleanupElem_order (h : Linked m) (olderThan : Time) {pre post : List (Nat × UsedNonceEntry)}
    {e : Nat × UsedNonceEntry} (ho : m.order = pre ++ e :: post) :
    Linked (cleanupElem olderThan m e) ∧
      (cleanupElem olderThan m e).order = pre ++ [e].filter (fun x => ¬x.2.usedAt < olderThan) ++
      post := by
  have hmem : e ∈ m.order := by simp [ho]
  rw [cleanupElem]
  split_ifs with hold
  · refine ⟨remove_linked h hmem, ?_⟩
    rw [remove_middle h ho]
    simp [hold]
  · refine ⟨h, ?_⟩
    rw [ho]
    simp [Int.not_lt.mp hold]

theorem cleanup_fold (h : Linked m) (olderThan : Time) {pre post : List (Nat × UsedNonceEntry)}
    (ho : m.order = pre ++ post) :
    Linked (post.foldl (cleanupElem olderThan) m) ∧
      (post.foldl (cleanupElem olderThan) m).order = pre ++ post.filter
      (fun x => ¬x.2.usedAt < olderThan) := by
  induction post generalizing m pre with
  | nil => exact ⟨h, by simpa using ho⟩
  | cons e post ih =>
    obtain ⟨hl, hord⟩ := cleanupElem_order h olderThan ho
    obtain ⟨hl', hord'⟩ := ih hl hord
    refine ⟨hl', ?_⟩
    rw [List.foldl_cons, hord', List.append_assoc, ← List.filter_append, List.singleton_append]

theorem cleanup_order (h : Linked m) (olderThan : Time) :
    Linked (m.cleanup olderThan) ∧
      (m.cleanup olderThan).recorded = m.recorded.filter (fun e => ¬e.usedAt < olderThan) := by
  obtain ⟨hl, hord⟩ := cleanup_fold h olderThan (List.nil_append m.order).symm
  refine ⟨hl, ?_⟩
  have hc : (m.cleanup olderThan).order = m.order.filter fun x => ¬x.2.usedAt < olderThan := hord
  rw [recorded, hc]
  exact map_snd_filter m.order fun e => ¬e.usedAt < olderThan

/-- `elem.Next()` -/
def next (m : MemoryUsedNonceBackend) (elem : Nat) : Option (Nat × UsedNonceEntry) :=
  (m.order.dropWhile fun e => e.1 ≠ elem).tail.head?

/-- The loop as it is written, from one element to the next, at most `n`
rounds.
mirrors src/verifier/verify/nonce.go:106-116 -/
def cleanupWalk (olderThan : Time) :
    (n : Nat) → MemoryUsedNonceBackend → Option (Nat × UsedNonceEntry) → MemoryUsedNonceBackend
  | 0, m, _ => m
  | _ + 1, m, none => m
  | n + 1, m, some elem => cleanupWalk olderThan n (cleanupElem olderThan m elem) (m.next elem.1)

theorem next_middle (h : Linked m) {pre post : List (Nat × UsedNonceEntry)} {e : Nat × UsedNonceEntry}
    (ho : m.order = pre ++ e :: post) : m.next e.1 = post.head? := by
  have hnd := h.elems
  rw [ho, List.map_append, List.map_cons, List.nodup_middle, List.nodup_cons] at hnd
  have hne : ∀ x ∈ pre, decide (x.1 ≠ e.1) = true := by
    intro x hx
    rw [decide_eq_true_iff]
    intro heq
    exact hnd.1 (heq ▸ List.mem_append_left _ (List.mem_map_of_mem hx))
  rw [next, ho, List.dropWhile_append_of_pos hne]
  simp

theorem cleanupWalk_fold (h : Linked m) (olderThan : Time) {pre post : List (Nat × UsedNonceEntry)}
    (ho : m.order = pre ++ post) :
    cleanupWalk olderThan post.length m post.head? = post.foldl (cleanupElem olderThan) m := by
  induction post generalizing m pre with
  | nil => rfl
  | cons e post ih =>
    obtain ⟨hl, hord⟩ := cleanupElem_order h olderThan ho
    rw [List.length_cons, List.head?_cons, cleanupWalk, next_middle h ho, ih hl hord, List.foldl_cons]

/-- The walk visits every element, although it removes them on its way. -/
theorem cleanupWalk_eq (h : Linked m) (olderThan : Time) :
    cleanupWalk olderThan m.order.length m m.order.head? = m.cleanup olderThan :=
  cleanupWalk_fold h olderThan (List.nil_append m.order).symm

/-! ## The whole call -/

/-- What `Record` does to the list of a table with a positive bound. -/
def recordList (maxSize : Int) (l : List UsedNonceEntry) (key : String) (usedAt : Time) :
    List UsedNonceEntry :=
  let others := l.filter fun e => e.key ≠ key
  (if maxSize ≤ others.length then others.tail else others) ++ [⟨key, usedAt⟩]

theorem dropExisting_maxSize (m : MemoryUsedNonceBackend) (key : String) :
    (m.dropExisting key).maxSize = m.maxSize := by
  rw [dropExisting]
  split <;> rfl

theorem evictFront_maxSize (m : MemoryUsedNonceBackend) : m.evictFront.maxSize = m.maxSize := by
  rw [evictFront]
  split_ifs
  · split <;> rfl
  · rfl

theorem record_maxSize (m : MemoryUsedNonceBackend) (key : String) (usedAt : Time) :
    (m.record key usedAt).maxSize = m.maxSize := by
  rw [record]
  split_ifs
  · rfl
  · simp only [pushBack, evictFront_maxSize, dropExisting_maxSize]

theorem cleanup_maxSize (m : MemoryUsedNonceBackend) (olderThan : Time) :
    (m.cleanup olderThan).maxSize = m.maxSize := by
  have hfold (l : List (Nat × UsedNonceEntry)) : ∀ m, (l.foldl (cleanupElem olderThan) m).maxSize =
      m.maxSize := by
    induction l with
    | nil => exact fun _ => rfl
    | cons e l ih =>
      intro m
      rw [List.foldl_cons, ih, cleanupElem]
      split_ifs <;> rfl
  exact hfold m.order m

theorem record_order (h : Linked m) (hpos : 0 < m.maxSize) (key : String) (usedAt : Time) :
    Linked (m.record key usedAt) ∧
    (m.record key usedAt).recorded = recordList m.maxSize m.recorded key usedAt := by
  obtain ⟨hd, hdo⟩ := dropExisting_order h key
  obtain ⟨he, heo⟩ := evictFront_order hd
  rw [dropExisting_maxSize, hdo] at heo
  have hnew : ∀ e ∈ (m.dropExisting key).evictFront.recorded, e.key ≠ key := by
    intro e hmem
    rw [heo] at hmem
    have hf : e ∈ m.recorded.filter fun e => e.key ≠ key := by
      split_ifs at hmem
      · exact List.mem_of_mem_tail hmem
      · exact hmem
    simpa using (List.mem_filter.mp hf).2
  rw [record, if_neg (Int.not_le.mpr hpos)]
  obtain ⟨hp, hpo⟩ := pushBack_order he hnew usedAt
  exact ⟨hp, by rw [hpo, heo, recordList]⟩

/-! ## Runs -/

inductive Op
  | record (key : String) (usedAt : Time)
  | cleanup (olderThan : Time)
  deriving DecidableEq

/-- One backend, called again and again. -/
def calls : Machine MemoryUsedNonceBackend Op Unit where
  step
    | m, .record key usedAt => (m.record key usedAt, ())
    | m, .cleanup olderThan => (m.cleanup olderThan, ())

/-- The state after a run on a new backend. -/
def reached (maxSize : Int) (ops : List Op) : MemoryUsedNonceBackend :=
  calls.run (newMemoryUsedNonceBackend maxSize) ops

/-- The time with which the operation records the key. -/
def Op.recordOf (key : String) : Op → Option Time
  | .record k t => if k = key then some t else none
  | .cleanup _ => none

/-- The number and the time of the last `Record` of the key. -/
def lastRecord (key : String) : List Op → Option (Nat × Time)
  | [] => none
  | op :: ops => ((lastRecord key ops).map fun p => (p.1 + 1, p.2)).or
    ((op.recordOf key).map fun t => (0, t))

theorem lastRecord_snoc (ops : List Op) (op : Op) :
    lastRecord key (ops ++ [op]) = ((op.recordOf key).map fun t => (ops.length, t)).or
    (lastRecord key ops) := by
  induction ops with
  | nil => simp [lastRecord]
  | cons o ops ih =>
    rw [List.cons_append, lastRecord, ih, lastRecord]
    cases op.recordOf key <;> simp

theorem lastRecord_lt {i : Nat} {t : Time} {ops : List Op} (h : lastRecord key ops = some (i, t)) :
    i < ops.length := by
  induction ops generalizing i with
  | nil => cases h
  | cons op ops ih =>
    rw [lastRecord, Option.or_eq_some_iff] at h
    simp only [Option.map_eq_some_iff, Prod.mk.injEq] at h
    rcases h with ⟨⟨j, u⟩, hj, rfl, rfl⟩ | ⟨-, u, -, rfl, rfl⟩
    · exact Nat.succ_lt_succ (ih hj)
    · exact Nat.succ_pos _

/-- The last `Record` of `a` came before the last one of `b`. -/
def Before (ops : List Op) (a b : String) : Prop :=
  ∃ i t j u, lastRecord a ops = some (i, t) ∧ lastRecord b ops = some (j, u) ∧ i < j

/-- What holds after the operations `ops`. -/
structure Inv (maxSize : Int) (ops : List Op) (m : MemoryUsedNonceBackend) : Prop where
  linked : Linked m
  bound : m.maxSize = maxSize
  size : (m.recorded.length : Int) ≤ maxSize
  /-- An entry has the time of the last `Record` of its key. -/
  dated : ∀ e ∈ m.recorded, ∃ i, lastRecord e.key ops = some (i, e.usedAt)
  oldestFirst : m.recorded.Pairwise fun a b => Before ops a.key b.key

variable {maxSize : Int} {ops : List Op}

theorem inv_new (hpos : 0 < maxSize) : Inv maxSize [] (newMemoryUsedNonceBackend maxSize) where
  linked := linked_new maxSize
  bound := rfl
  size := by simpa [recorded, newMemoryUsedNonceBackend] using Int.le_of_lt hpos
  dated e he := by simp [recorded, newMemoryUsedNonceBackend] at he
  oldestFirst := List.Pairwise.nil

/-- The entries that `Record` leaves are old ones with other keys, in their
order. -/
theorem kept_sublist (maxSize : Int) (l : List UsedNonceEntry) (key : String) (usedAt : Time) :
    ∃ kept, recordList maxSize l key usedAt = kept ++ [⟨key, usedAt⟩] ∧ kept.Sublist l ∧
      (∀ e ∈ kept, e.key ≠ key) ∧
      (0 < maxSize → (l.length : Int) ≤ maxSize → (kept.length : Int) < maxSize) := by
  have hsub : (l.filter fun e => e.key ≠ key).Sublist l := List.filter_sublist
  have hne : ∀ e ∈ l.filter (fun e => e.key ≠ key), e.key ≠ key := by
    intro e he
    simpa using (List.mem_filter.mp he).2
  rw [recordList]
  split_ifs with hfull
  · refine ⟨_, rfl, (List.tail_sublist _).trans hsub, fun e he => hne e (List.mem_of_mem_tail he),
      fun hpos hle => ?_⟩
    have := hsub.length_le
    rw [List.length_tail]
    omega
  · exact ⟨_, rfl, hsub, hne, fun _ _ => Int.not_le.mp hfull⟩

theorem inv_record (hi : Inv maxSize ops m) (hpos : 0 < maxSize) (key : String) (usedAt : Time) :
    Inv maxSize (ops ++ [.record key usedAt]) (m.record key usedAt) := by
  obtain ⟨hl, ho⟩ := record_order hi.linked (by rw [hi.bound]; exact hpos) key usedAt
  obtain ⟨kept, hkept, hsub, hne, hlen⟩ := kept_sublist m.maxSize m.recorded key usedAt
  rw [hkept] at ho
  -- the other keys keep their last `Record`
  have hsame (e : UsedNonceEntry) (he : e ∈ kept) :
      lastRecord e.key (ops ++ [.record key usedAt]) = lastRecord e.key ops := by
    simp [lastRecord_snoc, Op.recordOf, Ne.symm (hne e he)]
  have hnow : lastRecord key (ops ++ [.record key usedAt]) = some (ops.length, usedAt) := by
    simp [lastRecord_snoc, Op.recordOf]
  refine ⟨hl, by rw [record_maxSize, hi.bound], ?_, fun e he => ?_, ?_⟩
  · have := hlen (by rw [hi.bound]; exact hpos) (by rw [hi.bound]; exact hi.size)
    rw [hi.bound] at this
    rw [ho, List.length_append, List.length_singleton]
    omega
  · rw [ho] at he
    rcases List.mem_append.mp he with he | he
    · rw [hsame e he]
      exact hi.dated e (hsub.subset he)
    · rw [List.mem_singleton.mp he]
      exact ⟨_, hnow⟩
  · rw [ho]
    refine List.pairwise_append.mpr ⟨?_, by simp, fun e he e' he' => ?_⟩
    · refine (hi.oldestFirst.sublist hsub).imp_of_mem fun {a b} ha hb hab => ?_
      obtain ⟨i, t, j, u, hai, hbj, hij⟩ := hab
      exact ⟨i, t, j, u, (hsame a ha).trans hai, (hsame b hb).trans hbj, hij⟩
    · rw [List.mem_singleton.mp he']
      obtain ⟨i, hdate⟩ := hi.dated e (hsub.subset he)
      exact ⟨i, _, _, _, (hsame e he).trans hdate, hnow, lastRecord_lt hdate⟩

theorem inv_cleanup (hi : Inv maxSize ops m) (olderThan : Time) :
    Inv maxSize (ops ++ [.cleanup olderThan]) (m.cleanup olderThan) := by
  obtain ⟨hl, ho⟩ := cleanup_order hi.linked olderThan
  have hsame (k : String) : lastRecord k (ops ++ [.cleanup olderThan]) = lastRecord k ops := by
    simp [lastRecord_snoc, Op.recordOf]
  have hsub : (m.cleanup olderThan).recorded.Sublist m.recorded := ho ▸ List.filter_sublist
  refine ⟨hl, by rw [cleanup_maxSize, hi.bound], ?_, fun e he => ?_, ?_⟩
  · have := hsub.length_le
    have := hi.size
    omega
  · rw [hsame]
    exact hi.dated e (hsub.subset he)
  · refine (hi.oldestFirst.sublist hsub).imp fun {a b} hab => ?_
    simpa only [Before, hsame] using hab

/-- Run lemma. -/
theorem inv_reached (hpos : 0 < maxSize) (ops : List Op) : Inv maxSize ops (reached maxSize ops) := by
  induction ops using List.reverseRecOn with
  | nil => exact inv_new hpos
  | append_singleton ops op ih =>
    rw [reached, Machine.run_append]
    cases op with
    | record key usedAt => exact inv_record ih hpos key usedAt
    | cleanup olderThan => exact inv_cleanup ih olderThan

/-! ## How a key is forgotten -/

theorem contains_record_self (hi : Inv maxSize ops m) (hpos : 0 < maxSize) (key : String)
    (usedAt : Time) : (m.record key usedAt).contains key = true := by
  obtain ⟨hl, ho⟩ := record_order hi.linked (by rw [hi.bound]; exact hpos) key usedAt
  refine hl.contains_iff.mpr ⟨⟨key, usedAt⟩, ?_, rfl⟩
  rw [ho, recordList]
  exact List.mem_append_right _ (List.mem_singleton_self _)

/-- An entry that the list of `Record` loses was the front of a full list
without the new key. -/
theorem lost_front {l : List UsedNonceEntry} {e : UsedNonceEntry} {key : String}
    {usedAt : Time} (he : e ∈ l)
    (hle : (l.length : Int) ≤ maxSize) (hlost : ∀ x ∈ recordList maxSize l key usedAt, x.key ≠ e.key) :
    (∀ x ∈ l, x.key ≠ key) ∧ (l.length : Int) = maxSize ∧ ∃ rest, l = e :: rest := by
  have hne : e.key ≠ key := by
    intro heq
    exact hlost ⟨key, usedAt⟩ (by simp [recordList]) heq.symm
  have hmem : e ∈ l.filter fun x => x.key ≠ key := List.mem_filter.mpr ⟨he, by simpa using hne⟩
  have hsub : (l.filter fun x => x.key ≠ key).Sublist l := List.filter_sublist
  rw [recordList] at hlost
  split_ifs at hlost with hfull
  · -- the list without the key is as long as the list
    have hlen : (l.filter fun x => x.key ≠ key).length = l.length := by
      have := hsub.length_le
      omega
    have hall := hsub.eq_of_length hlen
    rw [hall] at hlost hfull
    refine ⟨fun x hx => ?_, by omega, ?_⟩
    · rw [← hall] at hx
      simpa using (List.mem_filter.mp hx).2
    · cases l with
      | nil => cases he
      | cons a rest =>
        rcases List.mem_cons.mp he with rfl | hrest
        · exact ⟨rest, rfl⟩
        · exact absurd rfl (hlost e (List.mem_append_left _ hrest))
  · exact absurd rfl (hlost e (List.mem_append_left _ hmem))

/-- Step lemma: `Record` forgets a key only when it is new itself, the table
is full, and every other key was recorded after the one that goes. -/
theorem forgotten_by_record (hi : Inv maxSize ops m) (hpos : 0 < maxSize) {k key : String}
    {usedAt : Time}
    (hk : m.contains k = true) (hgone : (m.record key usedAt).contains k = false) :
    m.contains key = false ∧ (m.index.keys.length : Int) = maxSize ∧
      ∀ k', m.contains k' = true → k' ≠ k → Before ops k k' := by
  obtain ⟨hl, ho⟩ := record_order hi.linked (by rw [hi.bound]; exact hpos) key usedAt
  obtain ⟨e, he, rfl⟩ := hi.linked.contains_iff.mp hk
  rw [hi.bound] at ho
  have hlost : ∀ x ∈ recordList maxSize m.recorded key usedAt, x.key ≠ e.key := by
    intro x hx heq
    rw [hl.contains_iff.mpr ⟨x, ho ▸ hx, heq⟩] at hgone
    cases hgone
  obtain ⟨hnew, hlen, rest, hrest⟩ := lost_front he hi.size hlost
  refine ⟨?_, by rw [hi.linked.length_index]; exact hlen, fun k' hk' hne => ?_⟩
  · rw [Bool.eq_false_iff]
    intro hc
    obtain ⟨x, hx, hxk⟩ := hi.linked.contains_iff.mp hc
    exact hnew x hx hxk
  · obtain ⟨x, hx, rfl⟩ := hi.linked.contains_iff.mp hk'
    have hold := hi.oldestFirst
    rw [hrest] at hx hold
    rcases List.mem_cons.mp hx with rfl | hx
    · exact absurd rfl hne
    · exact (List.pairwise_cons.mp hold).1 x hx

/-- Step lemma: `Cleanup` forgets a key only when its last `Record` is older
than the cutoff. -/
theorem forgotten_by_cleanup (hi : Inv maxSize ops m) {k : String} {olderThan : Time}
    (hk : m.contains k = true)
    (hgone : (m.cleanup olderThan).contains k = false) :
    ∃ i t, lastRecord k ops = some (i, t) ∧ t < olderThan := by
  obtain ⟨hl, ho⟩ := cleanup_order hi.linked olderThan
  obtain ⟨e, he, rfl⟩ := hi.linked.contains_iff.mp hk
  obtain ⟨i, hdate⟩ := hi.dated e he
  refine ⟨i, e.usedAt, hdate, ?_⟩
  by_contra hold
  have hkept : e ∈ (m.cleanup olderThan).recorded := by
    rw [ho]
    exact List.mem_filter.mpr ⟨he, decide_eq_true hold⟩
  rw [hl.contains_iff.mpr ⟨e, hkept, rfl⟩] at hgone
  cases hgone

/-- **Used-nonce history.** After every sequence of `Record` and `Cleanup`
calls with a positive bound, the index and the list hold the same keys, each
once, and at most `maxSize` of them. `Record` makes its key known. A call
forgets a key only in two ways: `Cleanup` when the last `Record` of the key is
older than the cutoff, and `Record` of a key that is not there when the table
is full, and then the key whose last `Record` came before those of all
others. -/
theorem used_nonce_history {maxSize : Int} (hpos : 0 < maxSize) (ops : List Op) :
    ((reached maxSize ops).index.keys.Perm ((reached maxSize ops).recorded.map UsedNonceEntry.key) ∧
      (reached maxSize ops).index.keys.Nodup ∧
      ((reached maxSize ops).recorded.map UsedNonceEntry.key).Nodup ∧
      ((reached maxSize ops).index.keys.length : Int) ≤ maxSize) ∧
    (∀ key usedAt, ((reached maxSize ops).record key usedAt).contains key = true) ∧
    ∀ op k, (reached maxSize ops).contains k = true →
    (reached maxSize (ops ++ [op])).contains k = false →
      (∃ olderThan i t, op = .cleanup olderThan ∧ lastRecord k ops = some (i, t) ∧ t < olderThan) ∨
      (∃ key usedAt, op = .record key usedAt ∧ (reached maxSize ops).contains key = false ∧
        ((reached maxSize ops).index.keys.length : Int) = maxSize ∧
        ∀ k', (reached maxSize ops).contains k' = true → k' ≠ k → Before ops k k') := by
  have hi := inv_reached hpos ops
  refine ⟨⟨hi.linked.perm, AList.keys_nodup _, hi.linked.keys, ?_⟩, contains_record_self hi hpos,
    fun op k hk hgone => ?_⟩
  · rw [hi.linked.length_index]
    exact hi.size
  · rw [reached, Machine.run_append] at hgone
    cases op with
    | record key usedAt => exact .inr ⟨key, usedAt, rfl, forgotten_by_record hi hpos hk hgone⟩
    | cleanup olderThan =>
      obtain ⟨i, t, ht⟩ := forgotten_by_cleanup hi hk hgone
      exact .inl ⟨olderThan, i, t, rfl, ht⟩

/-- A table of two: the third key evicts `b`, since `a` was recorded again. -/
theorem used_nonce_history_two :
    (reached 2 [.record "a" 1, .record "b" 2, .record "a" 3]).contains "b" = true ∧
      (reached 2 ([.record "a" 1, .record "b" 2, .record "a" 3] ++ [.record "c" 4])).contains "b" =
      false ∧ Before [.record "a" 1, .record "b" 2, .record "a" 3] "b" "a" := by
  have hb : (reached 2 [.record "a" 1, .record "b" 2, .record "a" 3]).contains "b" = true := by decide
  have ha : (reached 2 [.record "a" 1, .record "b" 2, .record "a" 3]).contains "a" = true := by decide
  have hgone :
      (reached 2 ([.record "a" 1, .record "b" 2, .record "a" 3] ++ [.record "c" 4])).contains
      "b" = false := by
    decide
  refine ⟨hb, hgone, ?_⟩
  obtain ⟨_, _, _, hop, -⟩ | ⟨_, _, -, -, -, hbefore⟩ :=
    (used_nonce_history (by decide) _).2.2 _ "b" hb hgone
  · cases hop
  · exact hbefore "a" ha (by decide)

end MemoryUsedNonceBackend

end Lota.L2.Nonce

import Lota.Core.SortedSet
import Lota.L6Agent.PolicyDigest
import Lota.L6Agent.ProtectedSet
import Mathlib.Data.List.Induction

/-!
# The array of protected PIDs (`agent/ipc.c`, `lota_runtime_protect_digest.h`)

`pid_set_add` appends the new PID and swaps it down to its place,
`pid_set_remove` copies the others. Both write a new array. The list for
`GET_TOKEN` is sorted once more and refused when it has a repeat, and the SDK
checks that what it gets is strictly increasing.

An array is a list; the null pointer is the empty one. `alloc` says whether
the `calloc` of a call succeeds.

* `pidSetAdd_eq`, `pidSetRemove_eq`: the loops compute the operations that
  `ProtectedSet` uses.
* `pid_set_sequences`: both operations on one array, and the list after any
  sequence of them.
-/
namespace Lota.L6.PidSet
open Lota.Core
open Lota.L6.Policy (u32Cmp)

/-- What a call fails with. `overflow` stands for the signed addition
`count + 1`, which has no result then. -/
inductive Failure
  | einval
  | enomem
  | overflow
  deriving DecidableEq

/-- The largest `int`. -/
def intMax : Nat := 2 ^ 31 - 1

/-- mirrors src/agent/ipc.c:1033-1042 -/
def pidSetContains : List UInt32 → UInt32 → Bool
  | [], _ => false
  | p :: pids, pid => if p = pid then true else pidSetContains pids pid

/-- The copy of an array; an empty one needs no memory.
mirrors src/agent/ipc.c:1108-1117 -/
def copyArray (alloc : Bool) (pids : List UInt32) : Except Failure (List UInt32) :=
  if 0 < pids.length ∧ alloc = false then .error .enomem else .ok pids

/-- The rounds with index `i` and below.
mirrors src/agent/ipc.c:1127-1133 -/
def swapDown (newPids : List UInt32) : (i : Nat) → List UInt32
  | 0 => newPids
  | i + 1 =>
    if newPids.getD i 0 ≤ newPids.getD (i + 1) 0 then newPids
    else swapDown ((newPids.set i (newPids.getD (i + 1) 0)).set (i + 1) (newPids.getD i 0)) i

/-- mirrors src/agent/ipc.c:1095-1138 -/
def pidSetAdd (alloc : Bool) (pids : List UInt32) (pid : UInt32) : Except Failure (List UInt32) :=
  if pid = 0 then .error .einval
  else if pidSetContains pids pid then copyArray alloc pids
  else if alloc = false then .error .enomem
  else if pids.length = intMax then .error .overflow
  else .ok (swapDown (pids ++ [pid]) pids.length)

/-- The filtering copy: the array written so far and the write index.
mirrors src/agent/ipc.c:1172-1180 -/
def copyLoop (pid : UInt32) (newPids : List UInt32) (w : Nat) : List UInt32 → List UInt32
  | [] => newPids
  | p :: pids =>
    if p = pid then copyLoop pid newPids w pids
    else copyLoop pid (newPids.set w p) (w + 1) pids

/-- `calloc` gives zeros. With one entry there is no new array, and a write
to the empty list is no write.
mirrors src/agent/ipc.c:1141-1185 -/
def pidSetRemove (alloc : Bool) (pids : List UInt32) (pid : UInt32) : Except Failure (List UInt32) :=
  if pid = 0 then .error .einval
  else if pidSetContains pids pid = false then copyArray alloc pids
  else if 0 < pids.length - 1 ∧ alloc = false then .error .enomem
  else .ok (copyLoop pid (List.replicate (pids.length - 1) 0) 0 pids)

/-- Two neighbours are equal.
mirrors src/agent/ipc.c:1082-1088 -/
def hasRepeat : List UInt32 → Bool
  | a :: b :: l => if a = b then true else hasRepeat (b :: l)
  | _ => false

/-- mirrors src/agent/ipc.c:1055-1093 -/
def buildCanonicalRuntimePidList (alloc : Bool) (pids : List UInt32) : Except Failure (List UInt32) :=
  if pids.length = 0 then .ok []
  else if alloc = false then .error .enomem
  else if hasRepeat (qsort u32Cmp pids) then .error .einval
  else .ok (qsort u32Cmp pids)

/-- mirrors include/lota_runtime_protect_digest.h:39-53 -/
def lotaValidateCanonicalProtectPidList : List UInt32 → Except Failure Unit
  | a :: b :: l => if b ≤ a then .error .einval else lotaValidateCanonicalProtectPidList (b :: l)
  | _ => .ok ()

variable {pids : List UInt32} {pid : UInt32}

theorem pidSetContains_iff : pidSetContains pids pid = true ↔ pid ∈ pids := by
  induction pids with
  | nil => simp [pidSetContains]
  | cons p pids ih =>
    rw [pidSetContains]
    split_ifs with h
    · simp [h]
    · simp [ih, Ne.symm h]

/-! ## The swaps -/

theorem getD_append_cons (pre post : List UInt32) (x : UInt32) :
    (pre ++ x :: post).getD pre.length 0 = x := by
  simp

/-- One round on a PID that is smaller than its left neighbour. -/
theorem swap_step (pre post : List UInt32) (x y : UInt32) :
    ((pre ++ x :: y :: post).set pre.length y).set (pre.length + 1) x = pre ++ y :: x :: post := by
  simp [List.set_append_right]

/-- The PID moves past the larger entries on its left, and what is on its
right stays. The induction takes the left part from its end. -/
theorem swapDown_append (pre post : List UInt32) (pid : UInt32) :
    swapDown (pre ++ pid :: post) pre.length =
      (pre.reverse.orderedInsert (fun a b => b ≤ a) pid).reverse ++ post := by
  induction pre using List.reverseRecOn generalizing post with
  | nil => simp [swapDown]
  | append_singleton pre x ih =>
    have hcons : pre ++ [x] ++ pid :: post = pre ++ x :: pid :: post := by simp
    have hx : (pre ++ x :: pid :: post).getD pre.length 0 = x := getD_append_cons ..
    have hpid : (pre ++ x :: pid :: post).getD (pre.length + 1) 0 = pid := by
      have h := getD_append_cons (pre ++ [x]) post pid
      rwa [hcons, List.length_append] at h
    rw [List.length_append, List.length_singleton, hcons, swapDown, hx, hpid]
    split_ifs with hle
    · simp [List.orderedInsert_cons, hle]
    · rw [swap_step, ih (x :: post)]
      simp [List.orderedInsert_cons, hle]

theorem swapDown_eq (hnew : pid ∉ pids) :
    swapDown (pids ++ [pid]) pids.length = ProtectedSet.pidSetAdd pids pid := by
  rw [swapDown_append, List.append_nil, ProtectedSet.pidSetAdd, if_neg hnew]

/-! ## The filtering copy -/

/-- `written` is done, and there is room for the entries that remain. -/
theorem copyLoop_append (pid : UInt32) (written rest : List UInt32) :
    copyLoop pid (written ++ List.replicate (rest.filter (· ≠ pid)).length 0) written.length rest =
      written ++ rest.filter (· ≠ pid) := by
  induction rest generalizing written with
  | nil => simp [copyLoop]
  | cons p rest ih =>
    rw [copyLoop]
    split_ifs with h
    · have hskip : (p :: rest).filter (· ≠ pid) = rest.filter (· ≠ pid) := by simp [h]
      rw [hskip, ih]
    · have hkeep : (p :: rest).filter (· ≠ pid) = p :: rest.filter (· ≠ pid) := by simp [h]
      rw [hkeep, List.length_cons, List.replicate_succ]
      have hset (l : List UInt32) : (written ++ 0 :: l).set written.length p = (written ++ [p]) ++
          l := by
        simp [List.set_append_right]
      have hlen : written.length + 1 = (written ++ [p]).length := by simp
      rw [hset, hlen, ih, List.append_assoc, List.singleton_append]

/-- A PID that stands in the array once leaves one entry less. -/
theorem length_filter_ne (hnd : pids.Nodup) (hmem : pid ∈ pids) :
    (pids.filter (· ≠ pid)).length = pids.length - 1 := by
  rw [← List.length_erase_of_mem hmem, hnd.erase_eq_filter]
  congr 1
  exact List.filter_congr fun x _ => Bool.eq_iff_iff.mpr (by simp)

theorem copyLoop_eq (hnd : pids.Nodup) (hmem : pid ∈ pids) :
    copyLoop pid (List.replicate (pids.length - 1) 0) 0 pids = ProtectedSet.pidSetRemove pids pid := by
  have h := copyLoop_append pid [] pids
  rwa [length_filter_ne hnd hmem, List.nil_append, List.nil_append] at h

/-! ## The operations -/

theorem copyArray_cases (alloc : Bool) (pids : List UInt32) :
    (alloc = false ∧ copyArray alloc pids = .error .enomem) ∨ copyArray alloc pids = .ok pids := by
  unfold copyArray
  split_ifs with h
  · exact .inl ⟨h.2, rfl⟩
  · exact .inr rfl

/-- `pid_set_add` computes the set operation of the attested set, unless it
gets no memory. -/
theorem pidSetAdd_eq (alloc : Bool) (h0 : pid ≠ 0) (hlen : pids.length < intMax) :
    (alloc = false ∧ pidSetAdd alloc pids pid = .error .enomem) ∨
      pidSetAdd alloc pids pid = .ok (ProtectedSet.pidSetAdd pids pid) := by
  rw [pidSetAdd, if_neg h0]
  by_cases hmem : pid ∈ pids
  · rw [if_pos (pidSetContains_iff.mpr hmem), ProtectedSet.pidSetAdd, if_pos hmem]
    exact copyArray_cases alloc pids
  · rw [if_neg fun hc => hmem (pidSetContains_iff.mp hc), if_neg (Nat.ne_of_lt hlen), swapDown_eq hmem]
    cases alloc with
    | false => exact .inl ⟨rfl, rfl⟩
    | true => exact .inr rfl

theorem pidSetRemove_eq (alloc : Bool) (h0 : pid ≠ 0) (hnd : pids.Nodup) :
    (alloc = false ∧ pidSetRemove alloc pids pid = .error .enomem) ∨
      pidSetRemove alloc pids pid = .ok (ProtectedSet.pidSetRemove pids pid) := by
  rw [pidSetRemove, if_neg h0]
  by_cases hmem : pid ∈ pids
  · rw [if_neg (by simp [pidSetContains_iff.mpr hmem]), copyLoop_eq hnd hmem]
    split_ifs with h
    · exact .inl ⟨h.2, rfl⟩
    · exact .inr rfl
  · have hsame : ProtectedSet.pidSetRemove pids pid = pids := by
      refine List.filter_eq_self.mpr fun x hx => decide_eq_true ?_
      rintro rfl
      exact hmem hx
    rw [if_pos (by simpa using fun hc => hmem (pidSetContains_iff.mp hc)), hsame]
    exact copyArray_cases alloc pids

/-! ## The list for `GET_TOKEN` -/

theorem qsort_of_sorted (h : pids.Pairwise (· < ·)) : qsort u32Cmp pids = pids := by
  refine List.mergeSort_of_pairwise (h.imp fun {a b} hab => ?_)
  simp [u32Cmp, hab]

theorem hasRepeat_of_sorted (h : pids.Pairwise (· < ·)) : hasRepeat pids = false := by
  induction pids with
  | nil => rfl
  | cons a l ih =>
    cases l with
    | nil => rfl
    | cons b l =>
      obtain ⟨ha, hl⟩ := List.pairwise_cons.mp h
      have hab : a ≠ b := UInt32.ne_of_lt (ha b List.mem_cons_self)
      rw [hasRepeat, if_neg hab, ih hl]

theorem buildCanonical_cases (alloc : Bool) (h : pids.Pairwise (· < ·)) :
    (alloc = false ∧ buildCanonicalRuntimePidList alloc pids = .error .enomem) ∨
      buildCanonicalRuntimePidList alloc pids = .ok pids := by
  rw [buildCanonicalRuntimePidList, qsort_of_sorted h, hasRepeat_of_sorted h, if_neg Bool.false_ne_true]
  split_ifs with hempty halloc
  · exact .inr (by rw [List.eq_nil_of_length_eq_zero hempty])
  · exact .inl ⟨halloc, rfl⟩
  · exact .inr rfl

/-- The SDK accepts exactly the strictly increasing arrays. -/
theorem validate_iff : lotaValidateCanonicalProtectPidList pids = .ok () ↔ pids.Pairwise (· < ·) := by
  induction pids with
  | nil => simp [lotaValidateCanonicalProtectPidList]
  | cons a l ih =>
    cases l with
    | nil => simp [lotaValidateCanonicalProtectPidList]
    | cons b l =>
      rw [lotaValidateCanonicalProtectPidList]
      split_ifs with hle
      · refine ⟨fun h => (by cases h), fun h => ?_⟩
        have hlt : a < b := (List.pairwise_cons.mp h).1 b List.mem_cons_self
        exact absurd hle (UInt32.not_le.mpr hlt)
      · rw [ih]
        refine ⟨fun h => List.pairwise_cons.mpr ⟨fun x hx => ?_, h⟩,
          fun h => (List.pairwise_cons.mp h).2⟩
        have hab : a < b := UInt32.not_le.mp hle
        rcases List.mem_cons.mp hx with rfl | hx
        · exact hab
        · exact UInt32.lt_trans hab ((List.pairwise_cons.mp h).1 x hx)

/-! ## Sequences of calls -/

/-- A strictly increasing array of exactly the entries of the set. -/
structure Represents (pids : List UInt32) (S : Set UInt32) : Prop where
  increasing : pids.Pairwise (· < ·)
  mem : ∀ p, p ∈ pids ↔ p ∈ S

theorem Represents.nodup {S : Set UInt32} (h : Represents pids S) : pids.Nodup :=
  h.increasing.imp fun hab => UInt32.ne_of_lt hab

theorem Represents.add {S : Set UInt32} (h : Represents pids S) (pid : UInt32) :
    Represents (ProtectedSet.pidSetAdd pids pid) (insert pid S) where
  increasing := ProtectedSet.pidSetAdd_spec h.increasing
  mem p := by rw [ProtectedSet.mem_pidSetAdd, h.mem, Set.mem_insert_iff]

theorem Represents.remove {S : Set UInt32} (h : Represents pids S) (pid : UInt32) :
    Represents (ProtectedSet.pidSetRemove pids pid) (S \ {pid}) where
  increasing := ProtectedSet.pidSetRemove_spec h.increasing
  mem p := by rw [ProtectedSet.mem_pidSetRemove, h.mem, Set.mem_sdiff_singleton, and_comm]

inductive Op
  | add (pid : UInt32)
  | remove (pid : UInt32)
  deriving DecidableEq

/-- One call, and whether there is memory for it. -/
structure Call where
  op : Op
  alloc : Bool
  deriving DecidableEq

def Call.run (c : Call) (pids : List UInt32) : Except Failure (List UInt32) :=
  match c.op with
  | .add pid => pidSetAdd c.alloc pids pid
  | .remove pid => pidSetRemove c.alloc pids pid

/-- A call that fails leaves the caller's array as it is.
mirrors src/agent/ipc.c:1331-1343 -/
def calls : Machine (List UInt32) Call (Except Failure Unit) where
  step pids c :=
    match c.run pids with
    | .ok newPids => (newPids, .ok ())
    | .error e => (pids, .error e)

/-- What a call does to the set: a PID is added or removed when the call
succeeds. -/
def applyCall (S : Set UInt32) : Call × Except Failure Unit → Set UInt32
  | (⟨.add pid, _⟩, .ok ()) => insert pid S
  | (⟨.remove pid, _⟩, .ok ()) => S \ {pid}
  | (_, .error _) => S

/-- The set after the calls of a history. -/
def setAfter (S : Set UInt32) (h : List (Call × Except Failure Unit)) : Set UInt32 :=
  h.foldl applyCall S

/-- Step lemma: the new array stands for the new set, and has at most one
entry more. -/
theorem step_represents {S : Set UInt32} (h : Represents pids S) (hlen : pids.length < intMax)
    (c : Call) : Represents (calls.step pids c).1 (applyCall S (c, (calls.step pids c).2)) ∧
      (calls.step pids c).1.length ≤ pids.length + 1 := by
  obtain ⟨op, alloc⟩ := c
  cases op with
  | add pid =>
    by_cases h0 : pid = 0
    · simp [calls, Call.run, pidSetAdd, h0, applyCall, h]
    obtain ⟨-, heq⟩ | heq := pidSetAdd_eq alloc h0 hlen
    · simp [calls, Call.run, heq, applyCall, h]
    · simp only [calls, Call.run, heq, applyCall]
      exact ⟨h.add pid, ProtectedSet.pidSetAdd_length⟩
  | remove pid =>
    by_cases h0 : pid = 0
    · simp [calls, Call.run, pidSetRemove, h0, applyCall, h]
    obtain ⟨-, heq⟩ | heq := pidSetRemove_eq alloc h0 h.nodup
    · simp [calls, Call.run, heq, applyCall, h]
    · simp only [calls, Call.run, heq, applyCall]
      exact ⟨h.remove pid, Nat.le_succ_of_le (List.length_filter_le ..)⟩

/-- Run lemma: after any sequence of calls that cannot take the count past
the largest `int`. -/
theorem run_represents {S : Set UInt32} (h : Represents pids S) (cs : List Call)
    (hlen : pids.length + cs.length ≤ intMax) :
    Represents (calls.run pids cs) (setAfter S (calls.hist pids cs)) := by
  induction cs generalizing pids S with
  | nil => exact h
  | cons c cs ih =>
    rw [List.length_cons] at hlen
    obtain ⟨hrep, hle⟩ := step_represents h (by omega) c
    exact ih hrep (by omega)

/-- **Protected-PID set operations.** On a strictly increasing array with room
for one more entry, both operations on a nonzero PID give a strictly
increasing array of the set with the PID added or removed, or report that
there is no memory; both refuse PID `0`. After any sequence of calls, those
that fail leaving the array as it is, the list for `GET_TOKEN` is there (again
unless there is no memory), passes the check of the SDK and stands for the
same set. -/
theorem pid_set_sequences (pids : List UInt32) (h : pids.Pairwise (· < ·)) :
    (∀ pid ≠ 0, ∀ alloc, pids.length < intMax →
      (alloc = false ∧ pidSetAdd alloc pids pid = .error .enomem) ∨
        ∃ out, pidSetAdd alloc pids pid = .ok out ∧ Represents out (insert pid {p | p ∈ pids})) ∧
    (∀ pid ≠ 0, ∀ alloc,
      (alloc = false ∧ pidSetRemove alloc pids pid = .error .enomem) ∨
        ∃ out, pidSetRemove alloc pids pid = .ok out ∧ Represents out ({p | p ∈ pids} \ {pid})) ∧
    (∀ alloc, pidSetAdd alloc pids 0 = .error .einval ∧ pidSetRemove alloc pids 0 = .error .einval) ∧
    ∀ cs : List Call, pids.length + cs.length ≤ intMax → ∀ alloc,
      (alloc = false ∧ buildCanonicalRuntimePidList alloc (calls.run pids cs) = .error .enomem) ∨
        ∃ out, buildCanonicalRuntimePidList alloc (calls.run pids cs) = .ok out ∧
          lotaValidateCanonicalProtectPidList out = .ok () ∧
          Represents out (setAfter {p | p ∈ pids} (calls.hist pids cs)) := by
  have hrep : Represents pids {p | p ∈ pids} := ⟨h, fun _ => Iff.rfl⟩
  refine ⟨fun pid h0 alloc hlen => ?_, fun pid h0 alloc => ?_, fun alloc => ⟨if_pos rfl, if_pos rfl⟩,
    fun cs hlen alloc => ?_⟩
  · exact (pidSetAdd_eq alloc h0 hlen).imp_right fun heq => ⟨_, heq, hrep.add pid⟩
  · exact (pidSetRemove_eq alloc h0 hrep.nodup).imp_right fun heq => ⟨_, heq, hrep.remove pid⟩
  · have hrun := run_represents hrep cs hlen
    exact (buildCanonical_cases alloc hrun.increasing).imp_right fun heq =>
      ⟨_, heq, validate_iff.mpr hrun.increasing, hrun⟩

theorem pid_set_sequences_three_nine :
    ([3, 9] : List UInt32).Pairwise (· < ·) ∧
      ∃ out, pidSetAdd true [3, 9] 5 = .ok out ∧
      Represents out (insert 5 {p | p ∈ ([3, 9] : List UInt32)}) := by
  refine ⟨by decide, ?_⟩
  obtain ⟨hf, -⟩ | hok := (pid_set_sequences [3, 9] (by decide)).1 5 (by decide) true (by decide)
  · cases hf
  · exact hok

/-- The PIDs `1` to `n`. -/
def firstPids (n : Nat) : List UInt32 := (List.range n).map fun i => UInt32.ofNat (i + 1)

theorem toNat_pid {n i : Nat} (hn : n < 2 ^ 32) (hi : i < n) :
    (UInt32.ofNat (i + 1)).toNat = i + 1 := by
  rw [UInt32.toNat_ofNat']
  omega

theorem firstPids_increasing {n : Nat} (hn : n < 2 ^ 32) : (firstPids n).Pairwise (· < ·) := by
  refine List.pairwise_map.mpr (List.pairwise_lt_range.imp_of_mem fun {i j} hi hj hij => ?_)
  rw [UInt32.lt_iff_toNat_lt, toNat_pid hn (List.mem_range.mp hi), toNat_pid hn (List.mem_range.mp hj)]
  omega

theorem le_of_mem_firstPids {n : Nat} (hn : n < 2 ^ 32) (h : pid ∈ firstPids n) : pid.toNat ≤ n := by
  obtain ⟨i, hi, rfl⟩ := List.mem_map.mp h
  have hlt := List.mem_range.mp hi
  rw [toNat_pid hn hlt]
  omega

theorem pidSetAdd_overflow (h0 : pid ≠ 0) (hnew : pid ∉ pids) (hlen : pids.length = intMax) :
    pidSetAdd true pids pid = .error .overflow := by
  rw [pidSetAdd, if_neg h0, if_neg fun hc => hnew (pidSetContains_iff.mp hc),
    if_neg Bool.true_eq_false_eq_False, if_pos hlen]

/-- PID `0` is refused by both operations, a call without memory gives no
array, and one more entry than an `int` can count cannot be added. -/
theorem pid_set_refuses :
    pidSetAdd true [5] 0 = .error .einval ∧ pidSetRemove true [5] 0 = .error .einval ∧
      pidSetAdd false [5] 7 = .error .enomem ∧ buildCanonicalRuntimePidList false [5] = .error .enomem ∧
      (firstPids intMax).Pairwise (· < ·) ∧
      pidSetAdd true (firstPids intMax) 4000000000 = .error .overflow := by
  have hmax : intMax < 2 ^ 32 := by decide
  refine ⟨by decide, by decide, by decide, by decide, firstPids_increasing hmax, ?_⟩
  refine pidSetAdd_overflow (by decide) (fun hmem => ?_)
    (by rw [firstPids, List.length_map, List.length_range])
  have hle := le_of_mem_firstPids hmax hmem
  exact absurd hle (by decide)

end Lota.L6.PidSet

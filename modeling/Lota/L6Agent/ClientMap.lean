import Lota.Core.Machine
import Lota.Core.OpenAddress

/-!
# The table from descriptors to clients (`agent/ipc.c`)

`client_map` finds the client of a socket: `IPC_CLIENT_MAP_SIZE` entries,
probed from a hash of the descriptor with wrap-around. A removed entry is a
tombstone, which the next insert on the same path takes over, but only after
it has seen that the descriptor is not in the table behind it.

* `clientMapInsert_cases`, `clientMapRemove_cases`: what a call does to the
  table.
* `inv_run`: over every sequence of calls the table holds, once each, exactly
  the descriptors inserted and not removed since, with the last client.
* `client_map_refines`: so a lookup answers as a finite map does, and an
  insert fails only for a new descriptor in a table with no free slot.
-/
namespace Lota.L6.ClientMap
open Lota.Core Lota.Core.OpenAddress

/-- mirrors src/agent/ipc.h:22 -/
abbrev ipcClientMapSize : Nat := 4096

/-- mirrors src/agent/ipc.c:41-42 -/
def ipcClientFdEmpty : Int32 := -1

def ipcClientFdTomb : Int32 := -2

/-- `client = none` is the null pointer.
mirrors src/agent/ipc.h:24-27 -/
@[ext] structure Entry (Client : Type) where
  fd : Int32
  client : Option Client

/-- An open descriptor: the kernel never returns a negative one. -/
@[ext] structure Fd where
  val : Int32
  nonneg : 0 ≤ val

abbrev Index := Fin ipcClientMapSize

abbrev Table (Client : Type) := Index → Entry Client

/-- `x & mask`: an index of the table, whatever `x` is. -/
def masked (x : UInt32) : Index :=
  ⟨(x &&& 4095).toNat, by
    rw [UInt32.toNat_and]
    exact Nat.lt_of_le_of_lt Nat.and_le_right (by decide)⟩

/-- mirrors src/agent/ipc.c:322-325 -/
def clientMapHashFd (fd : Int32) : UInt32 := fd.toUInt32 * 2654435761

def start (fd : Int32) : Index := masked (clientMapHashFd fd)

/-- `(idx + 1) & mask` -/
def next (idx : Index) : Index := masked (UInt32.ofNat idx.val + 1)

variable {Client : Type}

/-- mirrors src/agent/ipc.c:327-333 -/
def clientMapInit : Table Client := fun _ => ⟨ipcClientFdEmpty, none⟩

/-- The probe loop with `probes` rounds to go; `tomb` is the first tombstone
met.
mirrors src/agent/ipc.c:342-371 -/
def insertLoop (m : Table Client) (fd : Int32) (client : Option Client) :
    (probes : Nat) → (idx : Index) → (tomb : Option Index) → Table Client × Int32
  | 0, _, tomb =>
    match tomb with
    | some t => (Function.update m t ⟨fd, client⟩, 0)
    | none => (m, -1)
  | probes + 1, idx, tomb =>
    if (m idx).fd = fd then (Function.update m idx { m idx with client := client }, 0)
    else if (m idx).fd = ipcClientFdEmpty then (Function.update m (tomb.getD idx) ⟨fd, client⟩, 0)
    else if (m idx).fd = ipcClientFdTomb ∧ tomb = none then insertLoop m fd client probes
    (next idx) (some idx)
    else insertLoop m fd client probes (next idx) tomb

/-- mirrors src/agent/ipc.c:335-372 -/
def clientMapInsert (m : Table Client) (fd : Int32) (client : Option Client) : Table Client × Int32 :=
  insertLoop m fd client ipcClientMapSize (start fd) none

/-- mirrors src/agent/ipc.c:379-388 -/
def findLoop (m : Table Client) (fd : Int32) : (probes : Nat) → (idx : Index) → Option Client
  | 0, _ => none
  | probes + 1, idx =>
    if (m idx).fd = fd then (m idx).client
    else if (m idx).fd = ipcClientFdEmpty then none
    else findLoop m fd probes (next idx)

/-- mirrors src/agent/ipc.c:374-389 -/
def clientMapFind (m : Table Client) (fd : Int32) : Option Client :=
  findLoop m fd ipcClientMapSize (start fd)

/-- mirrors src/agent/ipc.c:396-406 -/
def removeLoop (m : Table Client) (fd : Int32) : (probes : Nat) → (idx : Index) → Table Client
  | 0, _ => m
  | probes + 1, idx =>
    if (m idx).fd = fd then Function.update m idx ⟨ipcClientFdTomb, none⟩
    else if (m idx).fd = ipcClientFdEmpty then m
    else removeLoop m fd probes (next idx)

/-- mirrors src/agent/ipc.c:391-407 -/
def clientMapRemove (m : Table Client) (fd : Int32) : Table Client :=
  removeLoop m fd ipcClientMapSize (start fd)

/-! ## The table as slots -/

def Entry.slot (e : Entry Client) : Slot Int32 :=
  if e.fd = ipcClientFdEmpty then .empty
  else if e.fd = ipcClientFdTomb then .tomb
  else .live e.fd

def slots (m : Table Client) : Index → Slot Int32 := fun i => (m i).slot

theorem Fd.ne_empty (fd : Fd) : fd.val ≠ ipcClientFdEmpty := by
  intro h
  have := fd.nonneg
  rw [h] at this
  exact absurd this (by decide)

theorem Fd.ne_tomb (fd : Fd) : fd.val ≠ ipcClientFdTomb := by
  intro h
  have := fd.nonneg
  rw [h] at this
  exact absurd this (by decide)

theorem slot_eq_empty {e : Entry Client} : e.slot = .empty ↔ e.fd = ipcClientFdEmpty := by
  unfold Entry.slot
  split_ifs with h1 h2 <;> simp [h1]

theorem slot_eq_tomb {e : Entry Client} : e.slot = .tomb ↔ e.fd = ipcClientFdTomb := by
  unfold Entry.slot
  split_ifs with h1 h2
  · simp [h1, ipcClientFdEmpty, ipcClientFdTomb]
  · simp [h2]
  · simp [h2]

theorem slot_eq_live {e : Entry Client} (fd : Fd) : e.slot = .live fd.val ↔ e.fd = fd.val := by
  unfold Entry.slot
  split_ifs with h1 h2
  · simp [h1, fd.ne_empty.symm]
  · simp [h2, fd.ne_tomb.symm]
  · simp

theorem fd_of_slot_live {e : Entry Client} {k : Int32} (h : e.slot = .live k) : e.fd = k := by
  unfold Entry.slot at h
  split_ifs at h
  exact Slot.live.inj h

theorem slots_update (m : Table Client) (i : Index) (e : Entry Client) :
    slots (Function.update m i e) = Function.update (slots m) i e.slot := by
  funext j
  by_cases h : j = i
  · subst h
    simp [slots]
  · simp [slots, Function.update_of_ne h]

theorem masked_val (x : UInt32) : (masked x).val = x.toNat % 4096 := by
  have h : (x &&& 4095).toNat = x.toNat &&& (2 ^ 12 - 1) := UInt32.toNat_and ..
  exact h.trans (Nat.and_two_pow_sub_one_eq_mod ..)

theorem next_eq (idx : Index) : next idx = idx + 1 := by
  apply Fin.ext
  have hlt : idx.val < 4096 := idx.isLt
  have hx : (UInt32.ofNat idx.val + 1).toNat = idx.val + 1 := by
    rw [UInt32.toNat_add, UInt32.toNat_ofNat', UInt32.toNat_one]
    omega
  rw [next, masked_val, hx, Fin.val_add]
  rfl

/-! ## Lookups and removals -/

/-- The entry at which `client_map_find` and `client_map_remove` stop because
it is the descriptor's. -/
def seek (m : Table Client) (fd : Int32) : (probes : Nat) → (idx : Index) → Option Index
  | 0, _ => none
  | probes + 1, idx =>
    if (m idx).fd = fd then some idx
    else if (m idx).fd = ipcClientFdEmpty then none
    else seek m fd probes (next idx)

theorem findLoop_eq (m : Table Client) (fd : Int32) (probes : Nat) (idx : Index) :
    findLoop m fd probes idx = (seek m fd probes idx).bind fun i => (m i).client := by
  induction probes generalizing idx with
  | zero => rfl
  | succ probes ih =>
    rw [findLoop, seek]
    split_ifs
    · rfl
    · rfl
    · exact ih (next idx)

theorem removeLoop_eq (m : Table Client) (fd : Int32) (probes : Nat) (idx : Index) :
    removeLoop m fd probes idx =
      (seek m fd probes idx).elim m fun i => Function.update m i ⟨ipcClientFdTomb, none⟩ := by
  induction probes generalizing idx with
  | zero => rfl
  | succ probes ih =>
    rw [removeLoop, seek]
    split_ifs
    · rfl
    · rfl
    · exact ih (next idx)

variable {m : Table Client} {fd : Fd}

/-- The search from probe `j` on, when the probes before it did not find the
descriptor. -/
theorem seek_spec (hp : Placed start (slots m)) (fd : Fd) {probes j : Nat}
    (hj : probes + j = ipcClientMapSize)
    (hpre : ∀ l < j, slots m (probe (start fd.val) l) ≠ .live fd.val) :
    (∃ i, seek m fd.val probes (probe (start fd.val) j) = some i ∧ (m i).fd = fd.val) ∨
      (seek m fd.val probes (probe (start fd.val) j) = none ∧ ¬Held (slots m) fd.val) := by
  induction probes generalizing j with
  | zero =>
    rw [Nat.zero_add] at hj
    subst hj
    exact .inr ⟨rfl, not_held_of_probes hpre⟩
  | succ probes ih =>
    rw [seek]
    split_ifs with hfd hempty
    · exact .inl ⟨_, rfl, hfd⟩
    · exact .inr ⟨rfl, hp.not_held_of_empty (slot_eq_empty.mpr hempty) hpre⟩
    · rw [next_eq, ← probe_succ]
      exact ih (by omega) (Nat.forall_lt_succ_right.mpr ⟨hpre, fun h => hfd ((slot_eq_live fd).mp h)⟩)

theorem seek_cases (hp : Placed start (slots m)) (fd : Fd) :
    (∃ i, seek m fd.val ipcClientMapSize (start fd.val) = some i ∧ (m i).fd = fd.val) ∨
      (seek m fd.val ipcClientMapSize (start fd.val) = none ∧ ¬Held (slots m) fd.val) := by
  have h := seek_spec hp fd (Nat.add_zero _) fun _ hl => absurd hl (Nat.not_lt_zero _)
  rwa [probe_zero] at h

theorem clientMapFind_cases (hp : Placed start (slots m)) (fd : Fd) :
    (∃ i, (m i).fd = fd.val ∧ clientMapFind m fd.val = (m i).client) ∨
      (¬Held (slots m) fd.val ∧ clientMapFind m fd.val = none) := by
  rw [clientMapFind, findLoop_eq]
  obtain ⟨i, hi, hfd⟩ | ⟨hnone, habs⟩ := seek_cases hp fd
  · exact .inl ⟨i, hfd, by rw [hi]; rfl⟩
  · exact .inr ⟨habs, by rw [hnone]; rfl⟩

theorem clientMapRemove_cases (hp : Placed start (slots m)) (fd : Fd) :
    (∃ i, (m i).fd = fd.val ∧ clientMapRemove m fd.val = Function.update m i ⟨ipcClientFdTomb, none⟩) ∨
      (¬Held (slots m) fd.val ∧ clientMapRemove m fd.val = m) := by
  rw [clientMapRemove, removeLoop_eq]
  obtain ⟨i, hi, hfd⟩ | ⟨hnone, habs⟩ := seek_cases hp fd
  · exact .inl ⟨i, hfd, by rw [hi]; rfl⟩
  · exact .inr ⟨habs, by rw [hnone]; rfl⟩

/-! ## Inserts -/

/-- What an insert can do: give the descriptor's entry the new client, take a
free entry of its path, or fail because no entry is free. -/
inductive Inserted (m : Table Client) (fd : Fd) (client : Option Client) : Table Client × Int32 → Prop
  | replaced (i : Index) (hfd : (m i).fd = fd.val) :
    Inserted m fd client (Function.update m i ⟨fd.val, client⟩, 0)
  | placed (j : Nat) (hj : j < ipcClientMapSize) (habs : ¬Held (slots m) fd.val)
    (hfree : ∀ k, slots m (probe (start fd.val) j) ≠ .live k)
    (hpre : ∀ l < j, slots m (probe (start fd.val) l) ≠ .empty) :
    Inserted m fd client (Function.update m (probe (start fd.val) j) ⟨fd.val, client⟩, 0)
  | full (habs : ¬Held (slots m) fd.val) (hfull : ∀ i, ∃ k, slots m i = .live k) :
    Inserted m fd client (m, -1)

/-- What the loop knows after `j` probes: neither the descriptor nor an empty
entry was met, and `tomb` is a tombstone among them, if there is one. -/
structure Probed (m : Table Client) (fd : Fd) (j : Nat) (tomb : Option Index) : Prop where
  notFd : ∀ l < j, slots m (probe (start fd.val) l) ≠ .live fd.val
  notEmpty : ∀ l < j, slots m (probe (start fd.val) l) ≠ .empty
  noTomb : tomb = none → ∀ l < j, slots m (probe (start fd.val) l) ≠ .tomb
  isTomb : ∀ t, tomb = some t → ∃ l < j, t = probe (start fd.val) l ∧ slots m t = .tomb

theorem Probed.zero (m : Table Client) (fd : Fd) : Probed m fd 0 none where
  notFd _ h := absurd h (Nat.not_lt_zero _)
  notEmpty _ h := absurd h (Nat.not_lt_zero _)
  noTomb _ _ h := absurd h (Nat.not_lt_zero _)
  isTomb _ h := by cases h

variable {client : Option Client} {j : Nat} {tomb : Option Index}

/-- One probe that neither ends the loop nor sets `tomb`. -/
theorem Probed.skip (h : Probed m fd j tomb) (hfd : (m (probe (start fd.val) j)).fd ≠ fd.val)
    (hempty : (m (probe (start fd.val) j)).fd ≠ ipcClientFdEmpty)
    (htomb : tomb = none → (m (probe (start fd.val) j)).fd ≠ ipcClientFdTomb) :
    Probed m fd (j + 1) tomb where
  notFd := Nat.forall_lt_succ_right.mpr ⟨h.notFd, fun hs => hfd ((slot_eq_live fd).mp hs)⟩
  notEmpty := Nat.forall_lt_succ_right.mpr ⟨h.notEmpty, fun hs => hempty (slot_eq_empty.mp hs)⟩
  noTomb hn := Nat.forall_lt_succ_right.mpr ⟨h.noTomb hn, fun hs => htomb hn (slot_eq_tomb.mp hs)⟩
  isTomb t ht := by
    obtain ⟨l, hl, hi⟩ := h.isTomb t ht
    exact ⟨l, Nat.lt_succ_of_lt hl, hi⟩

/-- One probe that meets the first tombstone. -/
theorem Probed.mark (h : Probed m fd j none)
    (htomb : (m (probe (start fd.val) j)).fd = ipcClientFdTomb) :
    Probed m fd (j + 1) (some (probe (start fd.val) j)) := by
  have hslot : slots m (probe (start fd.val) j) = .tomb := slot_eq_tomb.mpr htomb
  refine ⟨Nat.forall_lt_succ_right.mpr ⟨h.notFd, ?_⟩, Nat.forall_lt_succ_right.mpr ⟨h.notEmpty, ?_⟩,
    fun hn => (by cases hn), ?_⟩
  · simp [hslot]
  · simp [hslot]
  · rintro t ht
    cases ht
    exact ⟨j, Nat.lt_succ_self j, rfl, hslot⟩

/-- An entry that is neither empty nor a tombstone is some descriptor's. -/
theorem live_of_ne {s : Slot Int32} (he : s ≠ .empty) (ht : s ≠ .tomb) : ∃ k, s = .live k := by
  cases s with
  | empty => exact absurd rfl he
  | tomb => exact absurd rfl ht
  | live k => exact ⟨k, rfl⟩

/-- The first tombstone of the path is a place for a descriptor that is not
in the table. -/
theorem Probed.inserted_tomb {t : Index} (h : Probed m fd j (some t)) (hj : j ≤ ipcClientMapSize)
    (habs : ¬Held (slots m) fd.val) :
    Inserted m fd client (Function.update m t ⟨fd.val, client⟩, 0) := by
  obtain ⟨l, hl, rfl, hslot⟩ := h.isTomb t rfl
  refine .placed l (by omega) habs (by simp [hslot]) fun i hi => h.notEmpty i (by omega)

/-- Loop lemma: the rounds from probe `j` on. -/
theorem insertLoop_spec (hp : Placed start (slots m)) (client : Option Client) {probes j : Nat}
    {tomb : Option Index}
    (hj : probes + j = ipcClientMapSize) (h : Probed m fd j tomb) :
    Inserted m fd client (insertLoop m fd.val client probes (probe (start fd.val) j) tomb) := by
  induction probes generalizing j tomb with
  | zero =>
    rw [Nat.zero_add] at hj
    subst hj
    have habs : ¬Held (slots m) fd.val := not_held_of_probes h.notFd
    cases tomb with
    | some t => exact h.inserted_tomb (Nat.le_refl _) habs
    | none =>
      refine .full habs fun i => ?_
      obtain ⟨l, hl, rfl⟩ := exists_probe (start fd.val) i
      exact live_of_ne (h.notEmpty l hl) (h.noTomb rfl l hl)
  | succ probes ih =>
    rw [insertLoop]
    split_ifs with hfd hempty htomb
    · have he : { m (probe (start fd.val) j) with client := client } =
        (⟨fd.val, client⟩ : Entry Client) := Entry.ext hfd rfl
      rw [he]
      exact .replaced _ hfd
    · have hslot : slots m (probe (start fd.val) j) = .empty := slot_eq_empty.mpr hempty
      have habs : ¬Held (slots m) fd.val := hp.not_held_of_empty hslot h.notFd
      cases tomb with
      | some t => exact h.inserted_tomb (by omega) habs
      | none => exact .placed j (by omega) habs (by simp [hslot]) h.notEmpty
    · obtain ⟨hfdt, rfl⟩ := htomb
      rw [next_eq, ← probe_succ]
      exact ih (by omega) (h.mark hfdt)
    · rw [next_eq, ← probe_succ]
      exact ih (by omega) (h.skip hfd hempty fun hn ht => htomb ⟨ht, hn⟩)

theorem clientMapInsert_cases (hp : Placed start (slots m)) (fd : Fd) (client : Option Client) :
    Inserted m fd client (clientMapInsert m fd.val client) := by
  have h := insertLoop_spec hp client (Nat.add_zero _) (Probed.zero m fd)
  rwa [probe_zero] at h

/-! ## The table as a map -/

/-- The table has an entry that maps the descriptor to the client. -/
def Maps (m : Table Client) (fd : Fd) (c : Option Client) : Prop := ∃ i, m i = ⟨fd.val, c⟩

/-- A table that a run can reach: placed, with entries of open descriptors
only. -/
structure Valid (m : Table Client) : Prop where
  placed : Placed start (slots m)
  clean : ∀ i, (m i).fd = ipcClientFdEmpty ∨ (m i).fd = ipcClientFdTomb ∨ 0 ≤ (m i).fd

theorem valid_init : Valid (clientMapInit : Table Client) := ⟨placed_empty, fun _ => .inl rfl⟩

theorem held_iff : Held (slots m) fd.val ↔ ∃ c, Maps m fd c := by
  constructor
  · rintro ⟨i, hi⟩
    exact ⟨(m i).client, i, Entry.ext ((slot_eq_live fd).mp hi) rfl⟩
  · rintro ⟨c, i, hi⟩
    exact ⟨i, (slot_eq_live fd).mpr (by rw [hi])⟩

/-- An entry written for `fd`, when no other entry is its and the entry was
no other descriptor's. -/
theorem maps_update {i : Index} (hfree : ∀ fd' : Fd, (m i).fd = fd'.val → fd' = fd)
    (honly : ∀ a, (m a).fd = fd.val → a = i)
    {fd' : Fd} {c : Option Client} :
    Maps (Function.update m i ⟨fd.val, client⟩) fd' c ↔ (fd' = fd ∧ c = client) ∨
    (fd' ≠ fd ∧ Maps m fd' c) := by
  constructor
  · rintro ⟨a, ha⟩
    by_cases hai : a = i
    · rw [hai, Function.update_self] at ha
      obtain ⟨hfd, hc⟩ := Entry.mk.inj ha
      exact .inl ⟨Fd.ext hfd.symm, hc.symm⟩
    · rw [Function.update_of_ne hai] at ha
      refine .inr ⟨fun he => hai (honly a ?_), a, ha⟩
      rw [ha, he]
  · rintro (⟨rfl, rfl⟩ | ⟨hne, a, ha⟩)
    · exact ⟨i, Function.update_self ..⟩
    · refine ⟨a, ?_⟩
      rw [Function.update_of_ne, ha]
      rintro rfl
      exact hne (hfree fd' (by rw [ha]))

/-- The descriptor's entry becomes a tombstone. -/
theorem maps_tomb {i : Index} (hfd : (m i).fd = fd.val) (honly : ∀ a, (m a).fd = fd.val → a = i)
    {fd' : Fd}
    {c : Option Client} :
    Maps (Function.update m i ⟨ipcClientFdTomb, none⟩) fd' c ↔ fd' ≠ fd ∧ Maps m fd' c := by
  constructor
  · rintro ⟨a, ha⟩
    by_cases hai : a = i
    · rw [hai, Function.update_self] at ha
      exact absurd (Entry.mk.inj ha).1.symm fd'.ne_tomb
    · rw [Function.update_of_ne hai] at ha
      refine ⟨fun he => hai (honly a ?_), a, ha⟩
      rw [ha, he]
  · rintro ⟨hne, a, ha⟩
    refine ⟨a, ?_⟩
    rw [Function.update_of_ne, ha]
    rintro rfl
    rw [ha] at hfd
    exact hne (Fd.ext hfd)

theorem Valid.only (hv : Valid m) {i : Index} (hi : (m i).fd = fd.val) :
    ∀ a, (m a).fd = fd.val → a = i :=
  fun _ ha => hv.placed.unique ((slot_eq_live fd).mpr ha) ((slot_eq_live fd).mpr hi)

theorem Valid.clean_update (hv : Valid m) (i : Index) {e : Entry Client}
    (he : e.fd = ipcClientFdTomb ∨ 0 ≤ e.fd) (a : Index) :
    (Function.update m i e a).fd = ipcClientFdEmpty ∨ (Function.update m i e a).fd = ipcClientFdTomb ∨
      0 ≤ (Function.update m i e a).fd := by
  by_cases hai : a = i
  · rw [hai, Function.update_self]
    exact .inr he
  · rw [Function.update_of_ne hai]
    exact hv.clean a

/-- Step lemma: an insert that succeeds maps the descriptor to the client and
nothing else changes. -/
theorem clientMapInsert_spec (hv : Valid m) (fd : Fd) (client : Option Client) :
    ((clientMapInsert m fd.val client).2 = 0 ∧ Valid (clientMapInsert m fd.val client).1 ∧
        ∀ fd' c, Maps (clientMapInsert m fd.val client).1 fd' c ↔
          (fd' = fd ∧ c = client) ∨ (fd' ≠ fd ∧ Maps m fd' c)) ∨
      (clientMapInsert m fd.val client = (m, -1) ∧ ¬Held (slots m) fd.val ∧ ∀ i, ∃ k,
        slots m i = .live k) := by
  have hr := clientMapInsert_cases hv.placed fd client
  generalize clientMapInsert m fd.val client = r at hr
  cases hr with
  | replaced i hfd =>
    refine .inl ⟨rfl, ⟨?_, hv.clean_update i (.inr fd.nonneg)⟩, fun fd' c => ?_⟩
    · have hslot : Entry.slot (⟨fd.val, client⟩ : Entry Client) = slots m i := by
        simp only [slots, Entry.slot, hfd]
      rw [slots_update, hslot, Function.update_eq_self]
      exact hv.placed
    · exact maps_update (fun fd' h => Fd.ext (h.symm.trans hfd)) (hv.only hfd)
  | placed j hj habs hfree hpre =>
    refine .inl ⟨rfl, ⟨?_, hv.clean_update _ (.inr fd.nonneg)⟩, fun fd' c => ?_⟩
    · rw [slots_update, (slot_eq_live fd).mpr rfl]
      exact hv.placed.set_live habs hj hfree hpre
    · refine maps_update (fun fd' h => absurd ((slot_eq_live fd').mpr h) (hfree _)) fun a ha => ?_
      exact absurd ⟨a, (slot_eq_live fd).mpr ha⟩ habs
  | full habs hfull => exact .inr ⟨rfl, habs, hfull⟩

/-- Step lemma: after a removal the descriptor has no client. -/
theorem clientMapRemove_spec (hv : Valid m) (fd : Fd) :
    Valid (clientMapRemove m fd.val) ∧
      ∀ fd' c, Maps (clientMapRemove m fd.val) fd' c ↔ fd' ≠ fd ∧ Maps m fd' c := by
  obtain ⟨i, hfd, heq⟩ | ⟨habs, heq⟩ := clientMapRemove_cases hv.placed fd
  · rw [heq]
    refine ⟨⟨?_, hv.clean_update i (.inl rfl)⟩, fun fd' c => maps_tomb hfd (hv.only hfd)⟩
    rw [slots_update, slot_eq_tomb.mpr rfl]
    exact hv.placed.set_tomb i
  · rw [heq]
    refine ⟨hv, fun fd' c => ⟨fun h => ⟨?_, h⟩, And.right⟩⟩
    rintro rfl
    exact habs (held_iff.mpr ⟨c, h⟩)

/-! ## Runs -/

inductive Op (Client : Type)
  | insert (fd : Fd) (client : Option Client)
  | find (fd : Fd)
  | remove (fd : Fd)

inductive Out (Client : Type)
  | code (ret : Int32)
  | found (client : Option Client)
  | removed

/-- One table, called again and again. -/
def calls : Machine (Table Client) (Op Client) (Out Client) where
  step
    | m, .insert fd client =>
      ((clientMapInsert m fd.val client).1, .code (clientMapInsert m fd.val client).2)
    | m, .find fd => (m, .found (clientMapFind m fd.val))
    | m, .remove fd => (clientMapRemove m fd.val, .removed)

/-- The call changed what the descriptor maps to: a successful insert of it,
or its removal. -/
def Touches (fd : Fd) : Op Client × Out Client → Prop
  | (.insert fd' _, out) => fd' = fd ∧ out = .code 0
  | (.find _, _) => False
  | (.remove fd', _) => fd' = fd

/-- The client last successfully inserted for the descriptor, which was not
removed since. -/
def Current (h : List (Op Client × Out Client)) (fd : Fd) (c : Option Client) : Prop :=
  ∃ pre post, h = pre ++ (.insert fd c, .code 0) :: post ∧ ∀ e ∈ post, ¬Touches fd e

theorem current_snoc {h : List (Op Client × Out Client)} {e : Op Client × Out Client}
    {c : Option Client} :
    Current (h ++ [e]) fd c ↔ e = (.insert fd c, .code 0) ∨ (Current h fd c ∧ ¬Touches fd e) := by
  constructor
  · rintro ⟨pre, post, heq, hpost⟩
    rcases append_singleton_split heq with ⟨-, -, hx⟩ | ⟨post', rfl⟩
    · exact .inl hx
    · rw [List.append_assoc, List.cons_append] at heq
      obtain rfl := (List.cons.inj (List.append_cancel_left heq)).2
      refine .inr ⟨⟨pre, post', rfl, fun x hx => hpost x (List.mem_append_left _ hx)⟩, ?_⟩
      exact hpost e (List.mem_append_right _ (List.mem_singleton_self e))
  · rintro (rfl | ⟨⟨pre, post, rfl, hpost⟩, he⟩)
    · exact ⟨h, [], rfl, by simp⟩
    · refine ⟨pre, post ++ [e], by simp, fun x hx => ?_⟩
      rcases List.mem_append.mp hx with hx | hx
      · exact hpost x hx
      · rw [List.mem_singleton.mp hx]
        exact he

/-- The table holds what the history says. -/
structure Inv (h : List (Op Client × Out Client)) (m : Table Client) : Prop where
  valid : Valid m
  maps : ∀ fd c, Maps m fd c ↔ Current h fd c

theorem inv_init : Inv [] (clientMapInit : Table Client) where
  valid := valid_init
  maps fd c := by
    refine ⟨fun ⟨i, hi⟩ => absurd (Entry.mk.inj hi).1.symm fd.ne_empty, ?_⟩
    rintro ⟨pre, post, heq, -⟩
    simp at heq

theorem inv_step (h : List (Op Client × Out Client)) (m : Table Client) (op : Op Client)
    (hi : Inv h m) : Inv (h ++ [(op, (calls.step m op).2)]) (calls.step m op).1 := by
  cases op with
  | insert fd client =>
    obtain ⟨hret, hv, hmaps⟩ | ⟨heq, -, -⟩ := clientMapInsert_spec hi.valid fd client
    · refine ⟨hv, fun fd' c => ?_⟩
      simp [calls, current_snoc, hmaps, hi.maps, Touches, hret, and_comm, eq_comm]
    · refine ⟨by simpa only [calls, heq] using hi.valid, fun fd' c => ?_⟩
      simp [calls, heq, current_snoc, hi.maps, Touches]
  | find fd =>
    refine ⟨hi.valid, fun fd' c => ?_⟩
    simp [calls, current_snoc, hi.maps, Touches]
  | remove fd =>
    obtain ⟨hv, hmaps⟩ := clientMapRemove_spec hi.valid fd
    refine ⟨hv, fun fd' c => ?_⟩
    simp [calls, current_snoc, hmaps, hi.maps, Touches, and_comm, eq_comm]

/-- Run lemma: after every sequence of calls. -/
theorem inv_run (ops : List (Op Client)) :
    Inv (calls.hist clientMapInit ops) (calls.run clientMapInit ops) := by
  simpa using Machine.hist_inv inv_step ops inv_init

/-- The live descriptors of a table are counted by their slots. -/
theorem ncard_maps (hv : Valid m) (hfull : ∀ i, ∃ k, slots m i = .live k) :
    {fd : Fd | ∃ c, Maps m fd c}.ncard = ipcClientMapSize := by
  have himage : {k | Held (slots m) k} = Fd.val '' {fd : Fd | ∃ c, Maps m fd c} := by
    ext k
    constructor
    · rintro ⟨i, hi⟩
      have hfd : (m i).fd = k := fd_of_slot_live hi
      rcases hv.clean i with he | ht | hnn
      · simp [slots, slot_eq_empty.mpr he] at hi
      · simp [slots, slot_eq_tomb.mpr ht] at hi
      · refine ⟨⟨k, hfd ▸ hnn⟩, ⟨(m i).client, i, Entry.ext hfd rfl⟩, rfl⟩
    · rintro ⟨fd, hm, rfl⟩
      exact held_iff.mpr hm
  rw [← hv.placed.ncard_held hfull, himage, Set.ncard_image_of_injective _ fun _ _ h => Fd.ext h]

/-- **The client table is a finite map.** After every sequence of calls on a
fresh table, a lookup returns the client last inserted for the descriptor and
not removed since, and the null pointer when there is none. An insert fails
only when the table has as many live descriptors as slots and this is not one
of them. -/
theorem client_map_refines (ops : List (Op Client)) (fd : Fd) :
    (∀ c, Current (calls.hist clientMapInit ops) fd c →
      clientMapFind (calls.run clientMapInit ops) fd.val = c) ∧
    ((∀ c, ¬Current (calls.hist clientMapInit ops) fd c) →
      clientMapFind (calls.run clientMapInit ops) fd.val = none) ∧
    ∀ client, (clientMapInsert (calls.run clientMapInit ops) fd.val client).2 ≠ 0 →
      {fd' | ∃ c, Current (calls.hist clientMapInit ops) fd' c}.ncard = ipcClientMapSize ∧
        ∀ c, ¬Current (calls.hist clientMapInit ops) fd c := by
  have hi := inv_run ops
  refine ⟨fun c hc => ?_, fun hnone => ?_, fun client hfail => ?_⟩
  · obtain ⟨a, ha⟩ := (hi.maps fd c).mpr hc
    obtain ⟨i, hfd, hfind⟩ | ⟨habs, -⟩ := clientMapFind_cases hi.valid.placed fd
    · obtain rfl := hi.valid.only hfd a (by rw [ha])
      rw [hfind, ha]
    · exact absurd (held_iff.mpr ⟨c, a, ha⟩) habs
  · obtain ⟨i, hfd, -⟩ | ⟨-, hfind⟩ := clientMapFind_cases hi.valid.placed fd
    · exact absurd ((hi.maps fd _).mp ⟨i, Entry.ext hfd rfl⟩) (hnone _)
    · exact hfind
  · obtain ⟨hret, -⟩ | ⟨-, habs, hfull⟩ := clientMapInsert_spec hi.valid fd client
    · exact absurd hret hfail
    · refine ⟨?_, fun c hc => habs (held_iff.mpr ⟨c, (hi.maps fd c).mpr hc⟩)⟩
      simpa only [hi.maps] using ncard_maps hi.valid hfull

end Lota.L6.ClientMap

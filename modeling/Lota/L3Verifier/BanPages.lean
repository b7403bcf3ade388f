import Lota.L2Store.BanList
import Lota.L3Verifier.SessionToken

/-!
# Paging through the bans (`verifier/server/api.go`)

`GET /api/v1/bans` answers with a page of bans and, when there are more, with
the `next_id` of the page behind it. An administrator bans and unbans between
the requests of a reader who follows the cursors.

* `handleListBans_page`: one request is one page of the listing.
* `follow_walk`: a reader's requests are a walk, for either store.
* `pageLimit_toString`: every page size is accepted.
* `ban_listing_complete`: a finished walk has every ban that was there all
  the time exactly once, and a walk ends when nothing is added any more.
-/
namespace Lota.L3.BanPages
open Lota.Core Lota.Core.Keyset Lota.L2.Revocation Lota.L2.BanList Lota.L3.SessionToken

/-! ## The endpoint -/

/-- The parameters of the URL; one that is missing is empty. -/
structure ListBansQuery where
  offset : String := ""
  limit : String
  nextID : String

/-- mirrors src/verifier/server/api.go:740-746 -/
structure BanResponse where
  hardwareID : String
  reason : String
  bannedAt : String
  bannedBy : String
  note : String
  deriving DecidableEq

/-- mirrors src/verifier/server/api.go:748-754 -/
structure BanListResponse where
  bans : List BanResponse
  count : Nat
  total : Nat
  limit : Nat
  nextID : String

/-- Which query of the request fails. -/
structure ListFaults where
  list : Option String := none
  count : Option String := none

def defaultLimit : Nat := 100

def maxLimit : Nat := 1000

/-- mirrors src/verifier/server/api.go:890-906 -/
def pageLimit (l : String) : Except (Nat × String) Nat :=
  let limit : Except (Nat × String) Nat := if l = "" then .ok defaultLimit
    else
      match parseInt64 l with
      | none => .error (400, "invalid limit")
      | some parsed => if parsed ≤ 0 then .error (400, "invalid limit") else .ok parsed.toNat
  limit.map fun n => if n > maxLimit then maxLimit else n

/-- mirrors src/verifier/server/api.go:988-994 -/
def banResponse (e : BanEntry) : BanResponse :=
  { hardwareID := formatHardwareID e.hardwareID, reason := e.reason.text
    bannedAt := fmtRFC3339 e.bannedAt, bannedBy := e.bannedBy, note := e.note }

/-- The page out of the fetched entries.
mirrors src/verifier/server/api.go:979-1003 -/
def respond (entries : List BanEntry) (limit total : Nat) : BanListResponse :=
  let next := if limit < entries.length then (entries[limit - 1]?).elim "" encodeBanCursor else ""
  let page := if limit < entries.length then entries.take limit else entries
  { bans := page.map banResponse, count := page.length, total, limit, nextID := next }

/-- An error is a status code with its text.
mirrors src/verifier/server/api.go:878-1004; both ban stores are `CursorBanLister`s -/
def handleListBans (banStr : Option BanStore) (f : ListFaults) (q : ListBansQuery) :
    Except (Nat × String) BanListResponse :=
  match banStr with
  | none => .error (503, "hardware bans not configured")
  | some s =>
    if q.offset ≠ ""
      then .error (400, "offset pagination is not supported for bans; use next_id cursor")
    else
      match pageLimit q.limit with
      | .error e => .error e
      | .ok limit =>
        match listBansAfter s f.list (limit + 1) (trimSpace q.nextID) with
        | .error e => .error (400, e)
        | .ok entries =>
          match countBans s f.count with
          | .error _ => .error (500, "database unavailable")
          | .ok total => .ok (respond entries limit total)

/-! ## A reader who follows the cursors -/

inductive BanOp where
  | ban (f : EnforceFaults) (hardwareID : Blob 32) (reason : RevocationReason)
    (bannedBy note : String) (now : Time)
  | unban (f : EnforceFaults) (hardwareID : Blob 32)

def BanOp.apply (s : BanStore) : BanOp → BanStore
  | .ban f hardwareID reason bannedBy note now =>
    (s.banHardware f hardwareID reason bannedBy note now).1
  | .unban f hardwareID => (s.unbanHardware f hardwareID).1

/-- What happens up to and in one page request. -/
structure Round where
  ops : List BanOp
  faults : ListFaults

/-- The store, the cursor the reader holds, and whether the last page is read. -/
structure Reader where
  store : BanStore
  nextID : String
  done : Bool

/-- Bans and unbans, then the next request of the reader; a request that fails
is made again with the same cursor. -/
def follow (limit : String) :
    Machine Reader Round (Option (BanStore × Except (Nat × String) BanListResponse)) where
  step c r :=
    let store := r.ops.foldl BanOp.apply c.store
    if c.done then ({ c with store }, none)
    else
      let reply := handleListBans (some store) r.faults { limit, nextID := c.nextID }
      match reply with
      | .error _ => ({ c with store }, some (store, reply))
      | .ok resp => ({ store, nextID := resp.nextID, done := resp.nextID = "" }, some (store, reply))

/-- Before the first page. -/
def fresh (s : BanStore) : Reader := ⟨s, "", false⟩

/-- The pages the reader got, each with the store it was read from. -/
def answered (outs : List (Option (BanStore × Except (Nat × String) BanListResponse))) :
    List (BanStore × BanListResponse) :=
  outs.filterMap fun
    | some (s, .ok resp) => some (s, resp)
    | _ => none

/-- Every ban is made at a time a cursor can carry. -/
def BanOp.Dated : BanOp → Prop
  | .ban _ _ _ _ _ now => L2.BanList.Dated now
  | .unban _ _ => True

def BanOp.IsUnban : BanOp → Prop
  | .ban .. => False
  | .unban .. => True

/-- A round in which nothing is added and no query fails. -/
def Round.Quiet (r : Round) : Prop :=
  (∀ op ∈ r.ops, op.IsUnban) ∧ r.faults.list = none ∧ r.faults.count = none

/-! ## What the administrator changes -/

theorem apply_entries (s : BanStore) (op : BanOp) :
    (op.apply s).entries = s.entries ∨
    (∃ k, (op.apply s).entries = s.entries.erase k) ∨
    (∃ e, ¬ op.IsUnban ∧ (op.Dated → L2.BanList.Dated e.bannedAt) ∧
      (op.apply s).entries = s.entries.insert e.hardwareID e) := by
  cases op with
  | ban f hwid reason bannedBy note now =>
    obtain h | h :=
      s.add_entries f hwid ⟨hwid, reason, now, bannedBy, note⟩ "hardware ID is already banned"
    · exact .inl h
    · exact .inr (.inr ⟨⟨hwid, reason, now, bannedBy, note⟩, id, id, h⟩)
  | unban f hwid =>
    obtain h | h := s.remove_entries f hwid "hardware ID is not banned"
      "failed to read affected rows after hardware unban: "
    · exact .inl h
    · exact .inr (.inl ⟨hwid, h⟩)

theorem kept_apply {s : BanStore} (h : Kept s.entries) {op : BanOp} (hd : op.Dated) :
    Kept (op.apply s).entries := by
  obtain he | ⟨k, he⟩ | ⟨e, -, hdate, he⟩ := apply_entries s op
  · rw [he]
    exact h
  · rw [he]
    intro k' e hl
    exact h k' e (lookup_of_erase hl)
  · rw [he]
    intro k' e' hl
    rw [lookup_insert_ite] at hl
    split at hl
    · rename_i hk
      cases hl
      exact ⟨hk.symm, hdate hd⟩
    · exact h k' e' hl

theorem kept_ops {s : BanStore} (h : Kept s.entries) {ops : List BanOp} (hd : ∀ op ∈ ops, op.Dated) :
    Kept (ops.foldl BanOp.apply s).entries := by
  induction ops generalizing s with
  | nil => exact h
  | cons op ops ih =>
    exact ih (kept_apply h (hd op List.mem_cons_self)) fun o ho => hd o (List.mem_cons_of_mem _ ho)

/-- Unbans leave what was there before. -/
theorem unbans_lookup {s : BanStore} {ops : List BanOp} (hu : ∀ op ∈ ops, op.IsUnban) {k : Blob 32}
    {e : BanEntry}
    (hl : (ops.foldl BanOp.apply s).entries.lookup k = some e) : s.entries.lookup k = some e := by
  induction ops generalizing s with
  | nil => exact hl
  | cons op ops ih =>
    have hfirst := ih (fun o ho => hu o (List.mem_cons_of_mem _ ho)) hl
    obtain he | ⟨k', he⟩ | ⟨e', hn, -, -⟩ := apply_entries s op
    · rw [he] at hfirst
      exact hfirst
    · rw [he] at hfirst
      exact lookup_of_erase hfirst
    · exact absurd (hu op List.mem_cons_self) hn

/-! ## One request -/

/-- The cursor the reader holds. -/
def Holds (nextID : String) : Option (Lex (Int × List Nat)) → Prop
  | none => nextID = ""
  | some c => ∃ e, L2.BanList.Dated e.bannedAt ∧ nextID = encodeBanCursor e ∧ c = key e

theorem trimSpace_of_no_space {s : String} (h : ∀ c ∈ s.toList, isSpace c = false) :
    trimSpace s = s := by
  unfold trimSpace
  rw [trimBoth_eq_self h, String.ofList_toList]

theorem encodeBanCursor_no_space {e : BanEntry} (h : L2.BanList.Dated e.bannedAt) :
    ∀ c ∈ (encodeBanCursor e).toList, isSpace c = false := by
  obtain ⟨n, -, -, htext⟩ := encodeBanCursor_toList h
  have hhex : ∀ d < 16, isSpace (hexDigit d) = false := by decide
  have hdig : ∀ c : Char, c.isDigit = true → isSpace c = false := by
    intro c hc
    simp only [Char.isDigit, Bool.and_eq_true, decide_eq_true_iff] at hc
    have h1 : 48 ≤ c.toNat := hc.1
    have h2 : c.toNat ≤ 57 := hc.2
    unfold isSpace isUnicodeSpace
    simp only [Bool.or_eq_false_iff, Bool.and_eq_false_iff, decide_eq_false_iff_not]
    omega
  intro c hc
  rw [htext, List.mem_append, List.mem_cons] at hc
  rcases hc with hc | rfl | hc
  · exact hdig c (isDigit_toDigits hc)
  · decide
  · obtain ⟨d, hd, rfl⟩ := mem_hexEncode hc
    exact hhex d hd

theorem holds_names {nextID : String} {cur : Option (Lex (Int × List Nat))} (h : Holds nextID cur) :
    trimSpace nextID = nextID ∧ Names nextID cur := by
  cases cur with
  | none =>
    have hnil : nextID = "" := h
    subst hnil
    exact ⟨by decide, rfl⟩
  | some c =>
    obtain ⟨e, hd, rfl, rfl⟩ := h
    exact ⟨trimSpace_of_no_space (encodeBanCursor_no_space hd), names_encode hd⟩

theorem pageLimit_pos {l : String} {n : Nat} (h : pageLimit l = .ok n) : 1 ≤ n := by
  unfold pageLimit at h
  have hcap : ∀ {m k : Nat}, 1 ≤ m → (if m > maxLimit then maxLimit else m) = k → 1 ≤ k := by
    rintro m k hm rfl
    unfold maxLimit
    split <;> omega
  split at h
  · cases h
    decide
  · cases hp : parseInt64 l with
    | none => simp [hp, Except.map] at h
    | some parsed =>
      simp only [hp] at h
      split at h
      · cases h
      · simp only [Except.map, Except.ok.injEq] at h
        exact hcap (by omega) h

/-- **One request.** A request of either store that no query fails in is
answered with one page of the listing. -/
theorem handleListBans_page {s : BanStore} (hs : Kept s.entries) {f : ListFaults}
    (hf : f.list = none ∧ f.count = none)
    {limit nextID : String} {n : Nat} (hn : pageLimit limit = .ok n)
    {cur : Option (Lex (Int × List Nat))}
    (hc : Holds nextID cur) :
    ∃ resp page next, handleListBans (some s) f { limit, nextID } = .ok resp ∧
      Page key n (held s.entries) cur page next ∧ resp.bans = page.map banResponse ∧
      Holds resp.nextID next ∧ (resp.nextID = "" ↔ next = none) := by
  obtain ⟨htrim, hnames⟩ := holds_names hc
  have hpos := pageLimit_pos hn
  obtain ⟨ds, hlist, hdesc, hmem⟩ := listBansAfter_spec hs hnames (by omega : 0 < n + 1)
  have hcount : countBans s f.count = .ok (held s.entries).length := by
    unfold countBans
    rw [hf.2]
    cases s <;> rfl
  have hreply : handleListBans (some s) f { limit, nextID } =
      .ok (respond (ds.take (n + 1)) n (held s.entries).length) := by
    unfold handleListBans
    have hadd : ((n : Int) + 1) = ((n + 1 : Nat) : Int) := by omega
    simp only [ne_eq, not_true_eq_false, if_false, hn, hf.1, htrim, hadd, hlist, hcount]
  refine ⟨_, _, _, hreply, cut_page hpos hdesc hmem, ?_, ?_⟩
  · unfold respond cut
    split <;> rfl
  · unfold respond cut
    by_cases hlen : n < (ds.take (n + 1)).length
    · simp only [if_pos hlen]
      have hlast : n - 1 < (ds.take (n + 1)).length := by omega
      rw [List.getElem?_eq_getElem hlast]
      have hin : (ds.take (n + 1))[n - 1] ∈ held s.entries :=
        ((hmem _).mp (List.mem_of_mem_take (List.getElem_mem hlast))).1
      have hdate := (hs _ _ ((mem_held hs _).mp hin)).2
      refine ⟨⟨_, hdate, rfl, rfl⟩, ?_⟩
      exact iff_of_false (names_encode hdate).1 nofun
    · simp only [if_neg hlen]
      exact ⟨rfl, trivial⟩

/-- A query that fails makes an error reply; in a memory store there is none. -/
theorem handleListBans_faults (s : BanStore) (f : ListFaults) (q : ListBansQuery) :
    handleListBans (some s) f q = handleListBans (some s) {} q ∨
    ∃ e, handleListBans (some s) f q = .error e := by
  cases s with
  | memory m => exact .inl rfl
  | sqlite t =>
    cases hq : handleListBans (some (.sqlite t)) f q with
    | error e => exact .inr ⟨e, rfl⟩
    | ok resp =>
      left
      rw [← hq]
      obtain ⟨fl, fc⟩ := f
      have hlist : fl = none := by
        cases fl with
        | none => rfl
        | some e =>
          exfalso
          unfold handleListBans listBansAfter sqliteListBansAfter at hq
          grind
      have hcount : fc = none := by
        cases fc with
        | none => rfl
        | some e =>
          exfalso
          unfold handleListBans countBans at hq
          grind
      rw [hlist, hcount]

/-! ## Runs -/

/-- A request of the walk and the page the reader got. -/
structure Read (a : BanStore × BanListResponse) (w : Request BanEntry (Lex (Int × List Nat))) :
    Prop where
  kept : Kept a.1.entries
  held : w.held = L2.BanList.held a.1.entries
  bans : a.2.bans = w.page.map banResponse

section
variable {limit : String} {n : Nat} {c : Reader} {r : Round} {cur : Option (Lex (Int × List Nat))}

/-- What a reader has after some rounds: a walk from the cursor it held, with
the next cursor in hand unless the walk has ended. -/
structure Followed (n : Nat) (cur : Option (Lex (Int × List Nat))) (c' : Reader)
    (pages : List (BanStore × BanListResponse))
    (ws : List (Request BanEntry (Lex (Int × List Nat)))) : Prop where
  walk : Walk key n cur ws
  reads : List.Forall₂ Read pages ws
  kept : Kept c'.store.entries
  ended : c'.done = true ↔ ∃ w ∈ ws, w.next = none
  cursor : c'.done = false → ∃ cur', Holds c'.nextID cur'

/-- A reader who has the last page makes no more requests. -/
theorem done_run (h : c.done = true) (rounds : List Round) :
    ((follow limit).run c rounds).done = true ∧ answered ((follow limit).outs c rounds) = [] := by
  induction rounds generalizing c with
  | nil => exact ⟨h, rfl⟩
  | cons r rounds ih =>
    have hstep :
        (follow limit).step c r = ({ c with store := r.ops.foldl BanOp.apply c.store }, none) := by
      simp [follow, h]
    rw [Machine.run, Machine.outs, hstep]
    exact ih h

theorem step_store (c : Reader) (r : Round) :
    ((follow limit).step c r).1.store = r.ops.foldl BanOp.apply c.store := by
  simp only [follow]
  split
  · rfl
  · split <;> rfl

theorem kept_run (hk : Kept c.store.entries) {rounds : List Round}
    (hdates : ∀ r ∈ rounds, ∀ op ∈ r.ops, op.Dated) :
    Kept ((follow limit).run c rounds).store.entries := by
  induction rounds generalizing c with
  | nil => exact hk
  | cons r rounds ih =>
    refine ih ?_ fun r' hr' => hdates r' (List.mem_cons_of_mem _ hr')
    rw [step_store]
    exact kept_ops hk (hdates r List.mem_cons_self)

/-- **Step: one round.** The reader gets no page and holds on to its cursor, or
it gets the page behind it. -/
theorem follow_step (hn : pageLimit limit = .ok n) (hk : Kept (r.ops.foldl BanOp.apply c.store).entries)
    (hd : c.done = false) (hc : Holds c.nextID cur) :
    (∃ e, (follow limit).step c r = ({ c with store := r.ops.foldl BanOp.apply c.store },
        some (r.ops.foldl BanOp.apply c.store, .error e)) ∧
        ¬ (r.faults.list = none ∧ r.faults.count = none)) ∨
    (∃ resp page next,
      (follow limit).step c r = (⟨r.ops.foldl BanOp.apply c.store, resp.nextID, resp.nextID = ""⟩,
        some (r.ops.foldl BanOp.apply c.store, .ok resp)) ∧
      Page key n (held (r.ops.foldl BanOp.apply c.store).entries) cur page next ∧
      resp.bans = page.map banResponse ∧
      Holds resp.nextID next ∧ (resp.nextID = "" ↔ next = none)) := by
  obtain ⟨resp, page, next, hreply, hpage⟩ := @handleListBans_page _ hk {} ⟨rfl, rfl⟩ _ _ _ hn _ hc
  have herr : ∀ e, handleListBans (some (r.ops.foldl BanOp.apply c.store)) r.faults
      { limit, nextID := c.nextID } = .error e →
      ¬ (r.faults.list = none ∧ r.faults.count = none) := by
    intro e he hf
    obtain ⟨resp', -, -, hok, -⟩ := handleListBans_page hk hf hn hc
    rw [hok] at he
    cases he
  obtain hq | ⟨e, hq⟩ :=
    handleListBans_faults (r.ops.foldl BanOp.apply c.store) r.faults { limit, nextID := c.nextID }
  · refine .inr ⟨resp, page, next, ?_, hpage⟩
    simp only [follow, hd, Bool.false_eq_true, if_false, hq, hreply]
  · refine .inl ⟨e, ?_, herr e hq⟩
    simp only [follow, hd, Bool.false_eq_true, if_false, hq]

/-- **Run: pages.** The requests of a reader are a walk. -/
theorem follow_walk (hn : pageLimit limit = .ok n) (hk : Kept c.store.entries) (hd : c.done = false)
    (hc : Holds c.nextID cur) (rounds : List Round) (hdates : ∀ r ∈ rounds, ∀ op ∈ r.ops, op.Dated) :
    ∃ ws, Followed n cur ((follow limit).run c rounds)
    (answered ((follow limit).outs c rounds)) ws := by
  induction rounds generalizing c cur with
  | nil => exact ⟨[], .here cur, .nil, hk, by simp [Machine.run, hd], fun _ => ⟨cur, hc⟩⟩
  | cons r rounds ih =>
    have hks : Kept (r.ops.foldl BanOp.apply c.store).entries :=
      kept_ops hk (hdates r List.mem_cons_self)
    have hrest : ∀ r' ∈ rounds, ∀ op ∈ r'.ops, op.Dated :=
      fun r' hr' => hdates r' (List.mem_cons_of_mem _ hr')
    rw [Machine.run, Machine.outs]
    obtain ⟨e, hstep, -⟩ | ⟨resp, page, next, hstep, hpage, hbans, hnext, hend⟩ :=
      follow_step hn hks hd hc
    · rw [hstep]
      exact ih hks hd hc hrest
    · rw [hstep]
      have hread : ∀ nx, Read (r.ops.foldl BanOp.apply c.store, resp)
          ⟨held (r.ops.foldl BanOp.apply c.store).entries, page, nx⟩ :=
        fun nx => ⟨hks, rfl, hbans⟩
      cases next with
      | none =>
        have hdone : (decide (resp.nextID = "")) = true := by simpa using hend
        obtain ⟨hd', ha'⟩ :=
          @done_run limit ⟨r.ops.foldl BanOp.apply c.store, resp.nextID, resp.nextID = ""⟩ hdone rounds
        refine ⟨[⟨held (r.ops.foldl BanOp.apply c.store).entries, page, none⟩], .last hpage,
          ?_, ?_, ?_, ?_⟩
        · show List.Forall₂ Read ((_, resp) :: answered _) _
          rw [ha']
          exact .cons (hread none) .nil
        · exact kept_run hks hrest
        · simp [hd']
        · intro hnot
          rw [hd'] at hnot
          cases hnot
      | some k =>
        have hnot : (decide (resp.nextID = "")) = false := by simpa using hend
        obtain ⟨ws, hws⟩ :=
          @ih ⟨r.ops.foldl BanOp.apply c.store, resp.nextID, resp.nextID = ""⟩ (some k) hks
            hnot hnext hrest
        refine ⟨⟨_, page, some k⟩ :: ws, .more hpage hws.walk, .cons (hread _) hws.reads, hws.kept,
          ?_, hws.cursor⟩
        rw [hws.ended]
        simp

/-! ## Quiet rounds -/

theorem quiet_dated {quiet : List Round} (hq : ∀ r ∈ quiet, r.Quiet) :
    ∀ r ∈ quiet, ∀ op ∈ r.ops, op.Dated := by
  intro r hr op hop
  cases op with
  | ban => exact absurd ((hq r hr).1 _ hop) id
  | unban => trivial

/-- As long as the walk has not ended, every quiet round is a page. -/
theorem quiet_pages (hn : pageLimit limit = .ok n) (hk : Kept c.store.entries) (hd : c.done = false)
    (hc : Holds c.nextID cur) {quiet : List Round} (hq : ∀ r ∈ quiet, r.Quiet)
    (hend : ((follow limit).run c quiet).done = false) :
    (answered ((follow limit).outs c quiet)).length = quiet.length := by
  induction quiet generalizing c cur with
  | nil => rfl
  | cons r quiet ih =>
    have hks : Kept (r.ops.foldl BanOp.apply c.store).entries :=
      kept_ops hk (quiet_dated hq r List.mem_cons_self)
    rw [Machine.run] at hend
    rw [Machine.outs]
    obtain ⟨e, -, hf⟩ | ⟨resp, page, next, hstep, -, -, hnext, -⟩ :=
      @follow_step limit n c r cur hn hks hd hc
    · exact absurd (hq r List.mem_cons_self).2 hf
    · rw [hstep] at hend ⊢
      have hnot : (decide (resp.nextID = "")) = false := by
        cases hdone : decide (resp.nextID = "") with
        | false => rfl
        | true =>
          have hstop :=
            (@done_run limit ⟨r.ops.foldl BanOp.apply c.store, resp.nextID, resp.nextID = ""⟩
              hdone quiet).1
          rw [hend] at hstop
          cases hstop
      have hlen :=
        @ih ⟨r.ops.foldl BanOp.apply c.store, resp.nextID, resp.nextID = ""⟩ next hks hnot hnext
        (fun r' hr' => hq r' (List.mem_cons_of_mem _ hr')) hend
      exact congrArg Nat.succ hlen

theorem mem_answered {outs : List (Option (BanStore × Except (Nat × String) BanListResponse))}
    {a : BanStore × BanListResponse}
    (h : a ∈ answered outs) : some (a.1, .ok a.2) ∈ outs := by
  obtain ⟨o, ho, hoa⟩ := List.mem_filterMap.mp h
  split at hoa
  · cases hoa
    exact ho
  · cases hoa

theorem step_out {c : Reader} {r : Round} {s : BanStore} {reply : Except (Nat × String) BanListResponse}
    (h : ((follow limit).step c r).2 = some (s, reply)) : s = r.ops.foldl BanOp.apply c.store := by
  simp only [follow] at h
  split at h
  · cases h
  · split at h
    · cases h
      rfl
    · cases h
      rfl

/-- Nothing is read in quiet rounds that was not there before them. -/
theorem quiet_held {quiet : List Round} (hq : ∀ r ∈ quiet, r.Quiet) {s : BanStore}
    {reply : Except (Nat × String) BanListResponse}
    (hs : some (s, reply) ∈ (follow limit).outs c quiet) {k : Blob 32}
    {e : BanEntry} (hl : s.entries.lookup k = some e) : c.store.entries.lookup k = some e := by
  induction quiet generalizing c with
  | nil => cases hs
  | cons r quiet ih =>
    have hu := (hq r List.mem_cons_self).1
    rcases List.mem_cons.mp hs with hs | hs
    · rw [step_out hs.symm] at hl
      exact unbans_lookup hu hl
    · have hnext := ih (fun r' hr' => hq r' (List.mem_cons_of_mem _ hr')) hs
      rw [step_store] at hnext
      exact unbans_lookup hu hnext

/-! ## Complete listings -/

theorem reads_bans {pages : List (BanStore × BanListResponse)}
    {ws : List (Request BanEntry (Lex (Int × List Nat)))}
    (h : List.Forall₂ Read pages ws) :
    pages.flatMap (·.2.bans) = (ws.flatMap (·.page)).map banResponse := by
  induction h with
  | nil => rfl
  | cons hr _ ih => rw [List.flatMap_cons, List.flatMap_cons, List.map_append, ih, hr.bans]

theorem reads_of_mem {pages : List (BanStore × BanListResponse)}
    {ws : List (Request BanEntry (Lex (Int × List Nat)))}
    (h : List.Forall₂ Read pages ws) {w : Request BanEntry (Lex (Int × List Nat))} (hw : w ∈ ws) :
    ∃ a ∈ pages, Read a w := by
  induction h with
  | nil => cases hw
  | cons hr _ ih =>
    rcases List.mem_cons.mp hw with rfl | hw
    · exact ⟨_, List.mem_cons_self, hr⟩
    · obtain ⟨a, ha, hread⟩ := ih hw
      exact ⟨a, List.mem_cons_of_mem _ ha, hread⟩

/-- **Run: once.** -/
theorem listed_once {pages : List (BanStore × BanListResponse)} {c' : Reader}
    {ws : List (Request BanEntry (Lex (Int × List Nat)))} (h : Followed n none c' pages ws)
    (hd : c'.done = true)
    {e : BanEntry} (he : ∀ a ∈ pages, a.1.entries.lookup e.hardwareID = some e) :
    (pages.flatMap (·.2.bans)).filter (fun b => b.hardwareID = formatHardwareID e.hardwareID) =
    [banResponse e] := by
  have hpick : (ws.flatMap (·.page)).filter (fun y => y.hardwareID = e.hardwareID) = [e] := by
    refine walk_once h.walk (h.ended.mp hd) nofun (fun w hw => ?_) (by simp) (fun w hw y hy hp => ?_)
    · obtain ⟨a, ha, hread⟩ := reads_of_mem h.reads hw
      rw [hread.held]
      exact (mem_held hread.kept e).mpr (he a ha)
    · obtain ⟨a, ha, hread⟩ := reads_of_mem h.reads hw
      rw [hread.held] at hy
      have hy' := (mem_held hread.kept y).mp hy
      rw [of_decide_eq_true hp, he a ha] at hy'
      exact (Option.some.inj hy').symm
  have hsame :
      ((fun b : BanResponse => decide (b.hardwareID = formatHardwareID e.hardwareID)) ∘ banResponse) =
      fun y => decide (y.hardwareID = e.hardwareID) := by
    funext y
    refine decide_eq_decide.mpr ⟨fun hf => ?_, fun hf => congrArg formatHardwareID hf⟩
    exact Subtype.ext (hexEncode_injective hf)
  rw [reads_bans h.reads, List.filter_map, hsame, hpick]
  rfl

/-- **Run: end.** -/
theorem quiet_ends (hn : pageLimit limit = .ok n) (hk : Kept c.store.entries)
    (hc : c.done = false → ∃ cur, Holds c.nextID cur)
    {quiet : List Round} (hq : ∀ r ∈ quiet, r.Quiet)
    (hlen : (held c.store.entries).length < quiet.length * n) :
    ((follow limit).run c quiet).done = true := by
  by_contra hend
  rw [Bool.not_eq_true] at hend
  cases hd : c.done with
  | true =>
    rw [(done_run hd quiet).1] at hend
    cases hend
  | false =>
    obtain ⟨cur, hcur⟩ := hc hd
    obtain ⟨ws, hws⟩ := follow_walk hn hk hd hcur quiet (quiet_dated hq)
    have hpages := quiet_pages hn hk hd hcur hq hend
    rw [hws.reads.length_eq] at hpages
    have hmore : ∀ w ∈ ws, w.next ≠ none := by
      intro w hw hnone
      rw [hws.ended.mpr ⟨w, hw, hnone⟩] at hend
      cases hend
    have hold : ∀ w ∈ ws, ∀ x ∈ w.held, x ∈ held c.store.entries := by
      intro w hw x hx
      obtain ⟨a, ha, hread⟩ := reads_of_mem hws.reads hw
      rw [hread.held] at hx
      exact (mem_held hk x).mpr (quiet_held hq (mem_answered ha) ((mem_held hread.kept x).mp hx))
    have hbound := walk_bounded hws.walk hmore hold
    rw [hpages] at hbound
    omega

/-- Every page size is accepted, and cut to the maximum. -/
theorem pageLimit_toString {size : Nat} (h1 : 1 ≤ size) (h2 : size < 2 ^ 63) :
    pageLimit (toString size) = .ok (min size maxLimit) := by
  have hne : toString size ≠ "" := by
    intro h
    have hl := toList_toString size
    rw [h] at hl
    exact toDigits_ne_nil size hl.symm
  have hpos : ¬ (size : Int) ≤ 0 := by omega
  unfold pageLimit
  rw [if_neg hne, parseInt64_toString h2]
  simp only [if_neg hpos, Except.map, Int.toNat_natCast, Except.ok.injEq]
  by_cases hmax : size > maxLimit
  · rw [if_pos hmax, Nat.min_eq_right (by omega)]
  · rw [if_neg hmax, Nat.min_eq_left (by omega)]

/-- **Complete listings.** For either store, every page size, and whatever is
banned and unbanned between the requests: a walk that has come to its end has
returned every ban that was there at each of its requests exactly once; and
however far a walk has come, it ends once nothing is added any more. -/
theorem ban_listing_complete (hn : pageLimit limit = .ok n) {s : BanStore} (hk : Kept s.entries)
    (rounds : List Round)
    (hdates : ∀ r ∈ rounds, ∀ op ∈ r.ops, op.Dated) :
    (((follow limit).run (fresh s) rounds).done = true →
      ∀ e, (∀ a ∈ answered ((follow limit).outs (fresh s) rounds),
        a.1.entries.lookup e.hardwareID = some e) →
        ((answered ((follow limit).outs (fresh s) rounds)).flatMap (·.2.bans)).filter
          (fun b => b.hardwareID = formatHardwareID e.hardwareID) = [banResponse e]) ∧
    (∀ quiet, (∀ r ∈ quiet, r.Quiet) →
      (held ((follow limit).run (fresh s) rounds).store.entries).length < quiet.length * n →
        ((follow limit).run (fresh s) (rounds ++ quiet)).done = true) := by
  obtain ⟨ws, hws⟩ := @follow_walk limit n (fresh s) none hn hk rfl rfl rounds hdates
  refine ⟨fun hd e he => listed_once hws hd he, fun quiet hq hlen => ?_⟩
  rw [Machine.run_append]
  exact quiet_ends hn hws.kept hws.cursor hq hlen

end

/-- Two bans of the same moment, read one by one from a SQLite store; the first
one is lifted after its page. -/
def twoBans : List Round :=
  [⟨[.ban {} (toBlob 32 [1]) .cheating "admin" "" 5, .ban {} (toBlob 32 [2]) .admin "admin" "" 5], {}⟩,
   ⟨[.unban {} (toBlob 32 [2])], {}⟩]

theorem ban_listing_complete_two_bans :
    ((follow "1").run (fresh (.sqlite ∅)) twoBans).done = true ∧
    ((answered ((follow "1").outs (fresh (.sqlite ∅)) twoBans)).flatMap (·.2.bans)).filter
        (fun b => b.hardwareID = formatHardwareID (toBlob 32 [1])) =
      [banResponse ⟨toBlob 32 [1], .cheating, 5, "admin", ""⟩] := by
  have hdone : ((follow "1").run (fresh (.sqlite ∅)) twoBans).done = true := by decide +kernel
  refine ⟨hdone, (@ban_listing_complete "1" 1 (by decide) (.sqlite ∅) kept_empty twoBans ?_).1 hdone
    ⟨toBlob 32 [1], .cheating, 5, "admin", ""⟩ ?_⟩
  · unfold twoBans
    simp [BanOp.Dated, L2.BanList.Dated]
  · decide +kernel

end Lota.L3.BanPages

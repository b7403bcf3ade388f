import Lota.L5Enroll.Ceremony

/-!
# What an agent knows when it is enrolled

* `Stage`: where a handler can be; `stage_net` and `stage_call` are its steps.
* `Backed`: the service of the server is the machine of `Enroll`, its calls
  between their two parts are those of the handlers, and what the handlers
  were told is in its history. `run_inv` is the refinement.
* `handle_sents`, `enrolled_log`: what a handler that sent two replies has
  done, and what an agent that succeeds has.
* `enroll_session`: an agent that stores a certificate presented its EK and its
  AIK to the CA, its TPM opened the challenge of this connection, and the
  certificate is the one the service issued for that secret.
-/
namespace Lota.L5.Ceremony
open Lota.Core Lota.Core.Dialogue
open Lota.L5.BeginRate (Config RateTable allowBegin)
open Lota.L5.Enroll (Service EnrollError Prepared Taken History begun)
open Lota.L5.Wire

/-! ## Where a handler can be -/

/-- It writes a reply and then returns or waits for `Complete`. -/
def Writes (p : Handler) : Prop :=
  ∃ body k, p = .send body k ∧ (∀ e, k (.error e) = .ret ()) ∧
    (k (.ok ()) = .ret () ∨ k (.ok ()) = handleComplete)

def Stage (p : Handler) : Prop :=
  p = .ret () ∨ Writes p ∨ p = handleComplete ∨ (∃ req, p = handleTake req) ∨
    (∃ t, p = handleFinish t) ∨
    (∃ x, p = handleCommit x) ∨ (∃ req, p = handlePrepare req) ∨
    (∃ remote req, p = handleBegin remote req) ∨ ∃ remote, p = handle remote

theorem writeReply_stage {body : Except WireError Bytes} {k : Handler}
    (hk : k = .ret () ∨ k = handleComplete) :
    writeReply body k = .ret () ∨ Writes (writeReply body k) := by
  cases body with
  | error e => exact .inl rfl
  | ok body => exact .inr ⟨body, _, rfl, fun _ => rfl, hk⟩

/-- The `Begin` that has been prepared and not committed. -/
def committing : Handler → Option Prepared
  | .call (.commit p) _ => some p
  | _ => none

/-- The `Complete` that has its session and is not finished. -/
def finishing : Handler → Option Taken
  | .call (.finish t) _ => some t
  | _ => none

/-- Neither in the middle of `Begin` nor of `Complete`. -/
def Outside (p : Handler) : Prop := committing p = none ∧ finishing p = none

theorem replied_stage {p : Handler} (h : p = .ret () ∨ Writes p) : Stage p ∧ Outside p := by
  rcases h with rfl | h
  · exact ⟨.inl rfl, rfl, rfl⟩
  · refine ⟨.inr (.inl h), ?_⟩
    obtain ⟨body, k, rfl, -, -⟩ := h
    exact ⟨rfl, rfl⟩

/-- **Step.** A frame is sent or received, or that fails. -/
theorem stage_net {p : Handler} (h : Stage p) :
    (∀ b k r, p = .send b k → Stage (k r) ∧ Outside (k r)) ∧ ∀ k r, p = .recv k → Stage (k r) ∧
    Outside (k r) := by
  rcases h with rfl | ⟨body, k, rfl, herr, hok⟩ | rfl | ⟨req, rfl⟩ | ⟨t, rfl⟩ | ⟨x, rfl⟩ | ⟨req,
    rfl⟩ | ⟨remote, req, rfl⟩ |
    ⟨remote, rfl⟩
  · exact ⟨(fun _ _ _ h => nomatch h), (fun _ _ h => nomatch h)⟩
  · refine ⟨fun b k' r h => ?_, (fun _ _ h => nomatch h)⟩
    cases h
    cases r with
    | error e => exact replied_stage (.inl (herr e))
    | ok u =>
      rcases hok with hok | hok
      · exact replied_stage (.inl hok)
      · rw [show k (.ok u) = handleComplete from hok]
        exact ⟨.inr (.inr (.inl rfl)), rfl, rfl⟩
  · refine ⟨(fun _ _ _ h => nomatch h), fun k r h => ?_⟩
    cases h
    cases r with
    | error e => exact replied_stage (.inl rfl)
    | ok body =>
      simp only
      split
      · exact replied_stage (.inl rfl)
      · next req _ => exact ⟨.inr (.inr (.inr (.inl ⟨req, rfl⟩))), rfl, rfl⟩
  · exact ⟨(fun _ _ _ h => nomatch h), (fun _ _ h => nomatch h)⟩
  · exact ⟨(fun _ _ _ h => nomatch h), (fun _ _ h => nomatch h)⟩
  · exact ⟨(fun _ _ _ h => nomatch h), (fun _ _ h => nomatch h)⟩
  · exact ⟨(fun _ _ _ h => nomatch h), (fun _ _ h => nomatch h)⟩
  · exact ⟨(fun _ _ _ h => nomatch h), (fun _ _ h => nomatch h)⟩
  · refine ⟨(fun _ _ _ h => nomatch h), fun k r h => ?_⟩
    cases h
    cases r with
    | error e => exact replied_stage (.inl rfl)
    | ok body =>
      simp only
      split
      · exact replied_stage (.inl rfl)
      · next req _ =>
        exact ⟨.inr (.inr (.inr (.inr (.inr (.inr (.inr (.inl ⟨remote, req, rfl⟩))))))), rfl, rfl⟩

/-- What an answer leaves the handler with. -/
def committed : (q : Query) → Answer q → Option Prepared
  | .prepare _ _, .ok p => some p
  | _, _ => none

def taken : (q : Query) → Answer q → Option Taken
  | .take _ _, some t => some t
  | _, _ => none

theorem refuseBegin_stage (status : UInt16) :
    Stage (refuseBegin status) ∧ Outside (refuseBegin status) :=
  replied_stage (writeReply_stage (.inl rfl))

theorem refuseComplete_stage (status : UInt16) :
    Stage (refuseComplete status) ∧ Outside (refuseComplete status) :=
  replied_stage (writeReply_stage (.inl rfl))

/-- **Step.** A question is answered. -/
theorem stage_call {q : Query} {k : Answer q → Handler} (h : Stage (.call q k)) (a : Answer q) :
    Stage (k a) ∧ committing (k a) = committed q a ∧ finishing (k a) = taken q a := by
  rcases h with h | ⟨body, k, h, -, -⟩ | h | ⟨req, h⟩ | ⟨t, h⟩ | ⟨x, h⟩ | ⟨req, h⟩ | ⟨remote, req,
    h⟩ | ⟨remote, h⟩
  · cases h
  · cases h
  · cases h
  · cases h
    cases a with
    | none => exact refuseComplete_stage _
    | some t => exact ⟨.inr (.inr (.inr (.inr (.inl ⟨t, rfl⟩)))), rfl, rfl⟩
  · cases h
    cases a with
    | error e => exact refuseComplete_stage _
    | ok r => exact replied_stage (writeReply_stage (.inl rfl))
  · cases h
    cases a with
    | error e => exact refuseBegin_stage _
    | ok u => exact replied_stage (writeReply_stage (.inr rfl))
  · cases h
    cases a with
    | error e => exact refuseBegin_stage _
    | ok p => exact ⟨.inr (.inr (.inr (.inr (.inr (.inl ⟨p, rfl⟩))))), rfl, rfl⟩
  · cases h
    cases a with
    | false => exact refuseBegin_stage _
    | true => exact ⟨.inr (.inr (.inr (.inr (.inr (.inr (.inl ⟨req, rfl⟩)))))), rfl, rfl⟩
  · cases h

/-! ## The service behind the handlers -/

theorem prepare_req {C : Enroll.CA} {s : Service} {req : Enroll.BeginRequest} {p : Prepared}
    (h : s.prepare C req = .ok p) : p.req = req := by
  unfold Service.prepare at h
  repeat' split at h
  all_goals cases h
  rfl

/-- What a handler has been told is so. -/
def Known (h : History) : Did NetError Query Answer → Prop
  | .asked (.prepare ek aik) (.ok p) => p.req.ekCertDER = ek ∧ p.req.aikTPMTPublic = aik
  | .asked (.commit p) (.ok ()) => p ∈ begun h
  | .asked (.take sid secret) (some t) => t.req.sessionID = sid ∧ t.req.recoveredSecret = secret
  | .asked (.finish t) (.ok (der, dev)) => ∃ e, (e, .certificate t der dev) ∈ h
  | _ => True

theorem Known.mono {h h' : History} {d : Did NetError Query Answer} (hd : Known h d)
    (hpre : h <+: h') : Known h' d := by
  obtain ⟨more, rfl⟩ := hpre
  unfold Known at hd ⊢
  split
  · exact hd
  · unfold begun at hd ⊢
    rw [List.filterMap_append]
    exact List.mem_append_left _ hd
  · exact hd
  · obtain ⟨e, he⟩ := hd
    exact ⟨e, List.mem_append_left _ he⟩
  · trivial

/-- A handler with what it was told. -/
def Sound (h : History) (c : Conn) : Prop := Stage c.handler.prog ∧ ∀ d ∈ c.handler.log, Known h d

/-- The calls between their two parts. -/
def Conn.committing (c : Conn) : Option Prepared := Ceremony.committing c.handler.prog

def Conn.finishing (c : Conn) : Option Taken := Ceremony.finishing c.handler.prog

/-- The service is where the machine of `Enroll` is after `events`. -/
structure Backed (C : Enroll.CA) (s₀ : Service) (events : List Enroll.Event) (B : List Prepared)
    (T : List Taken)
    (s : Server) : Prop where
  run : (Enroll.machine C).run (Enroll.start s₀) events = ⟨s.service, B, T⟩
  beginning : B.Perm (s.conns.filterMap Conn.committing)
  completing : T.Perm (s.conns.filterMap Conn.finishing)
  sound : ∀ c ∈ s.conns, Sound ((Enroll.machine C).hist (Enroll.start s₀) events) c

/-- One entry of a list is replaced. -/
theorem filterMap_set {α β : Type} (f : α → Option β) {l : List α} {i : Nat} {x : α}
    (h : l[i]? = some x) (y : α) :
    ((f x).toList ++ (l.set i y).filterMap f).Perm ((f y).toList ++ l.filterMap f) := by
  induction l generalizing i with
  | nil => simp at h
  | cons z l ih =>
    cases i with
    | zero =>
      obtain rfl : z = x := by simpa using h
      rw [List.set_cons_zero, List.filterMap_cons, List.filterMap_cons]
      cases f y <;> cases f z <;> simp [List.Perm.swap]
    | succ i =>
      have ih' := ih (by simpa using h)
      rw [List.set_cons_succ, List.filterMap_cons, List.filterMap_cons]
      cases hz : f z with
      | none => exact ih'
      | some w =>
        refine (List.perm_middle).trans ?_
        exact (ih'.cons w).trans List.perm_middle.symm

theorem filterMap_set_same {α β : Type} {f : α → Option β} {l : List α} {i : Nat} {x y : α}
    (h : l[i]? = some x)
    (hf : f y = f x) : ((l.set i y).filterMap f).Perm (l.filterMap f) := by
  have hp := filterMap_set f h y
  rw [hf] at hp
  exact (List.perm_append_left_iff _).mp hp

section
variable {C : Enroll.CA} {s₀ : Service} {events : List Enroll.Event} {B : List Prepared}
  {T : List Taken} {s : Server}
  {i : Nat} {c c' : Conn}

theorem Backed.set (h : Backed C s₀ events B T s) (hc : s.conns[i]? = some c)
    (hb : c'.committing = c.committing)
    (hf : c'.finishing = c.finishing)
    (hs : Sound ((Enroll.machine C).hist (Enroll.start s₀) events) c') (table : RateTable) :
    Backed C s₀ events B T { s with conns := s.conns.set i c', table } := by
  refine ⟨h.run, h.beginning.trans (filterMap_set_same hc hb).symm,
    h.completing.trans (filterMap_set_same hc hf).symm, fun x hx => ?_⟩
  rcases List.mem_or_eq_of_mem_set hx with hx | rfl
  · exact h.sound x hx
  · exact hs

/-- The machine takes one more step. -/
theorem Backed.event (h : Backed C s₀ events B T s) (hc : s.conns[i]? = some c) {ev : Enroll.Event}
    {o : Enroll.Output}
    {service : Service} {B' : List Prepared} {T' : List Taken}
    (hstep : Enroll.step C ⟨s.service, B, T⟩ ev = (⟨service, B', T'⟩, o))
    (hB : (c.committing.toList ++ B').Perm (c'.committing.toList ++ B))
    (hT : (c.finishing.toList ++ T').Perm (c'.finishing.toList ++ T))
    (hs : ∀ hist, (Enroll.machine C).hist (Enroll.start s₀) events <+: hist → (ev, o) ∈ hist →
      Sound hist c') :
    Backed C s₀ (events ++ [ev]) B' T' { s with service, conns := s.conns.set i c' } := by
  have hhist : (Enroll.machine C).hist (Enroll.start s₀) (events ++ [ev]) =
      (Enroll.machine C).hist (Enroll.start s₀) events ++ [(ev, o)] := by
    rw [Machine.hist_append, h.run]
    show _ ++ [(ev, (Enroll.step C ⟨s.service, B, T⟩ ev).2)] = _
    rw [hstep]
  have hpre : (Enroll.machine C).hist (Enroll.start s₀) events <+:
      (Enroll.machine C).hist (Enroll.start s₀) (events ++ [ev]) := by
    rw [hhist]
    exact List.prefix_append _ _
  refine ⟨?_, ?_, ?_, fun x hx => ?_⟩
  · rw [Machine.run_append, h.run]
    show (Enroll.step C ⟨s.service, B, T⟩ ev).1 = _
    rw [hstep]
  · have h1 := hB.trans ((List.perm_append_left_iff _).mpr h.beginning)
    exact (List.perm_append_left_iff _).mp (h1.trans (filterMap_set Conn.committing hc c').symm)
  · have h1 := hT.trans ((List.perm_append_left_iff _).mpr h.completing)
    exact (List.perm_append_left_iff _).mp (h1.trans (filterMap_set Conn.finishing hc c').symm)
  · rcases List.mem_or_eq_of_mem_set hx with hx | rfl
    · exact ⟨(h.sound x hx).1, fun d hd => ((h.sound x hx).2 d hd).mono hpre⟩
    · exact hs _ hpre (by rw [hhist]; exact List.mem_append_right _ (List.mem_singleton_self _))

/-- The handler is told something that is no event. -/
theorem Backed.told (h : Backed C s₀ events B T s) (hc : s.conns[i]? = some c) {q : Query}
    {k : Answer q → Handler}
    (hq : c.handler.prog = .call q k) {a : Answer q}
    (hold : committing c.handler.prog = none ∧ finishing c.handler.prog = none)
    (hnew : committed q a = none ∧ taken q a = none)
    (hknown : Known ((Enroll.machine C).hist (Enroll.start s₀) events) (.asked q a))
    (table : RateTable) :
    Backed C s₀ events B T
    { s with conns := s.conns.set i { c with handler := c.handler.answered k a }, table } := by
  obtain ⟨hstage, hlog⟩ := h.sound c (List.mem_of_getElem? hc)
  rw [hq] at hstage
  obtain ⟨hstage', hcom, hfin⟩ := stage_call hstage a
  have hcom' : ({ c with handler := c.handler.answered k a } : Conn).committing = c.committing :=
    hcom.trans (hnew.1.trans hold.1.symm)
  refine h.set hc hcom' (hfin.trans (hnew.2.trans hold.2.symm)) ⟨hstage', fun d hd => ?_⟩ table
  rcases List.mem_append.mp hd with hd | hd
  · exact hlog d hd
  · rw [List.mem_singleton.mp hd]
    exact hknown

/-- The handler is told what the machine did. -/
theorem Backed.did (h : Backed C s₀ events B T s) (hc : s.conns[i]? = some c) {q : Query}
    {k : Answer q → Handler}
    (hq : c.handler.prog = .call q k) {a : Answer q} {ev : Enroll.Event} {o : Enroll.Output}
    {service : Service}
    {B' : List Prepared} {T' : List Taken}
    (hstep : Enroll.step C ⟨s.service, B, T⟩ ev = (⟨service, B', T'⟩, o))
    (hB : ((committing c.handler.prog).toList ++ B').Perm ((committed q a).toList ++ B))
    (hT : ((finishing c.handler.prog).toList ++ T').Perm ((taken q a).toList ++ T))
    (hknown : ∀ hist, (ev, o) ∈ hist → Known hist (.asked q a)) :
    Backed C s₀ (events ++ [ev]) B' T'
    { s with service, conns := s.conns.set i { c with handler := c.handler.answered k a } } := by
  obtain ⟨hstage, hlog⟩ := h.sound c (List.mem_of_getElem? hc)
  rw [hq] at hstage
  obtain ⟨hstage', hcom, hfin⟩ := stage_call hstage a
  refine h.event hc hstep ?_ ?_ fun hist hpre hmem => ⟨hstage', fun d hd => ?_⟩
  · show ((committing c.handler.prog).toList ++ B').Perm ((committing (k a)).toList ++ B)
    rw [hcom]
    exact hB
  · show ((finishing c.handler.prog).toList ++ T').Perm ((finishing (k a)).toList ++ T)
    rw [hfin]
    exact hT
  · rcases List.mem_append.mp hd with hd | hd
    · exact (hlog d hd).mono hpre
    · rw [List.mem_singleton.mp hd]
      exact hknown hist hmem

/-- **Step.** The service answers a handler. -/
theorem backed_serve (cfg : Config) (h : Backed C s₀ events B T s)
    (hc : s.conns[i]? = some c) {q : Query}
    {k : Answer q → Handler} (hq : c.handler.prog = .call q k) (env : Env) :
    ∃ events' B' T', Backed C s₀ events' B' T' { (serve C cfg s env q).1 with
      conns := s.conns.set i { c with handler := c.handler.answered k (serve C cfg s env q).2 } } := by
  have hmem := List.mem_of_getElem? hc
  have hprog : committing c.handler.prog = committing (.call q k) ∧
      finishing c.handler.prog = finishing (.call q k) := by
    rw [hq]
    exact ⟨rfl, rfl⟩
  cases q with
  | allowBegin remote => exact ⟨events, B, T, h.told hc hq hprog ⟨rfl, rfl⟩ trivial _⟩
  | prepare ek aik =>
    let req : Enroll.BeginRequest :=
      { now := env.now, ekCertDER := ek, aikTPMTPublic := aik, secret := env.secret,
        sessionID := env.sessionID }
    cases hr : s.service.prepare C req with
    | error e =>
      have hserve : serve C cfg s env (.prepare ek aik) = (s, .error e) := congrArg (Prod.mk s) hr
      rw [hserve]
      exact ⟨events, B, T, h.told hc hq (a := .error e) hprog ⟨rfl, rfl⟩ trivial s.table⟩
    | ok p =>
      have hreq : p.req = req := prepare_req hr
      have hstep : Enroll.step C ⟨s.service, B, T⟩ (.prepare req) =
          (⟨s.service, B ++ [p], T⟩, .nothing) := by
        simp only [Enroll.step, hr]
      have hB : ((committing c.handler.prog).toList ++ (B ++ [p])).Perm ([p] ++ B) := by
        rw [hprog.1]
        show (B ++ [p]).Perm ([p] ++ B)
        exact List.perm_append_comm
      have hserve : serve C cfg s env (.prepare ek aik) = (s, .ok p) := congrArg (Prod.mk s) hr
      rw [hserve]
      exact ⟨_, _, _, h.did hc hq hstep hB (by rw [hprog.2]; exact .refl _)
        (fun hist _ => show p.req.ekCertDER = ek ∧
          p.req.aikTPMTPublic = aik by rw [hreq]; exact ⟨rfl, rfl⟩)⟩
  | commit p =>
    -- the machine knows the call by its place among those that have begun
    have hin : p ∈ B := h.beginning.mem_iff.mpr (List.mem_filterMap.mpr ⟨c, hmem, hprog.1⟩)
    obtain ⟨j, hj, hjp⟩ := List.getElem_of_mem hin
    have hat : B[j]? = some p := by rw [List.getElem?_eq_getElem hj, hjp]
    have hperm : (p :: B.eraseIdx j).Perm B := hjp ▸ List.getElem_cons_eraseIdx_perm hj
    cases hr : s.service.commit p with
    | mk service r =>
      have hB : ((committing c.handler.prog).toList ++ B.eraseIdx j).Perm ([] ++ B) := by
        rw [hprog.1]; exact hperm
      have hT : ((finishing c.handler.prog).toList ++ T).Perm ([] ++ T) := by
        rw [hprog.2]; exact .refl _
      cases r with
      | error e =>
        have hstep : Enroll.step C ⟨s.service, B, T⟩ (.commit j) =
            (⟨service, B.eraseIdx j, T⟩, .refused e) := by
          simp only [Enroll.step, hat, hr]
        have hserve : serve C cfg s env (.commit p) = ({ s with service }, .error e) := by
          simp only [serve, hr]
        rw [hserve]
        exact ⟨_, _, _, h.did hc hq hstep hB hT (fun _ _ => trivial)⟩
      | ok u =>
        have hstep : Enroll.step C ⟨s.service, B, T⟩ (.commit j) =
            (⟨service, B.eraseIdx j, T⟩, .challenge p) := by
          simp only [Enroll.step, hat, hr]
        have hserve : serve C cfg s env (.commit p) = ({ s with service }, .ok ()) := by
          simp only [serve, hr]
        rw [hserve]
        exact ⟨_, _, _, h.did hc hq hstep hB hT
          (fun hist hm => show p ∈ begun hist from List.mem_filterMap.mpr ⟨_, hm, rfl⟩)⟩
  | take sid secret =>
    let req : Enroll.CompleteRequest := { now := env.now, sessionID := sid, recoveredSecret := secret }
    cases hl : s.service.pending.lookup sid with
    | none =>
      have hr : s.service.take req = (s.service, none) := by
        unfold Service.take
        rw [show s.service.pending.lookup req.sessionID = none from hl]
      have hserve : serve C cfg s env (.take sid secret) = (s, none) := by
        show (({ s with service := (s.service.take req).1 }, (s.service.take req).2) : Server ×
          Answer (.take sid secret)) = _
        rw [hr]
        rfl
      rw [hserve]
      exact ⟨events, B, T, h.told hc hq (a := none) hprog ⟨rfl, rfl⟩ trivial s.table⟩
    | some session =>
      have hr : s.service.take req =
          ({ s.service with pending := s.service.pending.erase sid }, some { req, session }) := by
        unfold Service.take
        rw [show s.service.pending.lookup req.sessionID = some session from hl]
      have hstep : Enroll.step C ⟨s.service, B, T⟩ (.take req) =
          (⟨{ s.service with pending := s.service.pending.erase sid }, B, { req, session } :: T⟩,
            .nothing) := by
        simp only [Enroll.step, hr]
      have hserve : serve C cfg s env (.take sid secret) =
          ({ s with service := { s.service with pending := s.service.pending.erase sid } },
            some { req, session }) := by
        show (({ s with service := (s.service.take req).1 }, (s.service.take req).2) : Server ×
          Answer (.take sid secret)) = _
        rw [hr]
        rfl
      rw [hserve]
      exact ⟨_, _, _, h.did hc hq hstep (by rw [hprog.1]; exact .refl _)
        (by rw [hprog.2]; exact .refl _) (fun _ _ => show _ ∧ _ from ⟨rfl, rfl⟩)⟩
  | finish t =>
    have hin : t ∈ T := h.completing.mem_iff.mpr (List.mem_filterMap.mpr ⟨c, hmem, hprog.2⟩)
    have hT : ((finishing c.handler.prog).toList ++ T.erase t).Perm ([] ++ T) := by
      rw [hprog.2]
      exact (List.perm_cons_erase hin).symm
    have hB : ((committing c.handler.prog).toList ++ B).Perm ([] ++ B) := by rw [hprog.1]; exact .refl _
    cases hr : Enroll.finish C s.service.ttl t with
    | error e =>
      have hstep : Enroll.step C ⟨s.service, B, T⟩ (.finish t) =
          (⟨s.service, B, T.erase t⟩, .refused e) := by
        simp only [Enroll.step, if_neg (not_not.mpr hin), hr]
      have hserve : serve C cfg s env (.finish t) = (s, .error e) := congrArg (Prod.mk s) hr
      rw [hserve]
      exact ⟨_, _, _, h.did hc hq hstep hB hT (fun _ _ => trivial)⟩
    | ok r =>
      obtain ⟨der, dev⟩ := r
      have hstep : Enroll.step C ⟨s.service, B, T⟩ (.finish t) =
          (⟨s.service, B, T.erase t⟩, .certificate t der dev) := by
        simp only [Enroll.step, if_neg (not_not.mpr hin), hr]
      have hserve : serve C cfg s env (.finish t) = (s, .ok (der, dev)) := congrArg (Prod.mk s) hr
      rw [hserve]
      exact ⟨_, _, _, h.did hc hq hstep hB hT (fun hist hm => show ∃ e, _ from ⟨_, hm⟩)⟩

/-- **Step.** A handler reads, writes or fails. -/
theorem Backed.net (h : Backed C s₀ events B T s) (hc : s.conns[i]? = some c)
    {p : Party NetError Query Answer Unit}
    (hp : c.handler.Moves p) (up down : Bytes) :
    Backed C s₀ events B T { s with conns := s.conns.set i { c with handler := p, up, down } } := by
  obtain ⟨hstage, hlog⟩ := h.sound c (List.mem_of_getElem? hc)
  rcases hp with ⟨hprog, hsame⟩ | ⟨hmove, d, hd, hnot⟩
  · refine h.set hc (congrArg committing hprog) (congrArg finishing hprog) ⟨?_, fun d hd => ?_⟩ s.table
    · show Stage p.prog
      rw [hprog]
      exact hstage
    · exact hlog d (hsame ▸ hd)
  · have hnext : (Stage p.prog ∧ Outside p.prog) ∧ Outside c.handler.prog := by
      rcases hmove with ⟨b, k, r, hsend, hp⟩ | ⟨k, r, hrecv, hp⟩
      · rw [hp, hsend]
        exact ⟨(stage_net hstage).1 b k r hsend, rfl, rfl⟩
      · rw [hp, hrecv]
        exact ⟨(stage_net hstage).2 k r hrecv, rfl, rfl⟩
    obtain ⟨⟨hstage', hout'⟩, hout⟩ := hnext
    have hcom : ({ c with handler := p, up, down } : Conn).committing = c.committing :=
      hout'.1.trans hout.1.symm
    refine h.set hc hcom (hout'.2.trans hout.2.symm) ⟨hstage', fun x hx => ?_⟩ s.table
    have hx' : x ∈ c.handler.log ++ [d] := hd ▸ hx
    rcases List.mem_append.mp hx' with hx' | hx'
    · exact hlog x hx'
    · rw [List.mem_singleton.mp hx']
      unfold Known
      split
      all_goals first | trivial | exact absurd rfl (hnot _ _)

end

/-! ## Every run -/

/-- Both ends of a connection are where their programs are. -/
def Talks (c : Conn) : Prop :=
  ∃ h, (h = .ret () ∨ ∃ remote, h = handle remote) ∧
    Linked framing enrollToCa h c.agent c.handler c.up c.down

structure Inv (C : Enroll.CA) (s₀ : Service) (s : Server) : Prop where
  backed : ∃ events B T, Backed C s₀ events B T s
  talks : ∀ c ∈ s.conns, Talks c

section
variable {C : Enroll.CA} {cfg : Config} {maxConns : Nat} {s₀ : Service} {s : Server}

theorem opened_inv (hs : Inv C s₀ s) {h : Handler} (hh : h = .ret () ∨ ∃ remote, h = handle remote) :
    Inv C s₀ { s with conns := s.conns ++ [opened h] } := by
  obtain ⟨events, B, T, hb⟩ := hs.backed
  have hstage : Stage h ∧ Outside h := by
    rcases hh with rfl | ⟨remote, rfl⟩
    · exact ⟨.inl rfl, rfl, rfl⟩
    · exact ⟨.inr (.inr (.inr (.inr (.inr (.inr (.inr (.inr ⟨remote, rfl⟩))))))), rfl, rfl⟩
  have hcom : [opened h].filterMap Conn.committing = [] := by
    rw [List.filterMap_cons_none (show (opened h).committing = none from hstage.2.1)]
    rfl
  have hfin : [opened h].filterMap Conn.finishing = [] := by
    rw [List.filterMap_cons_none (show (opened h).finishing = none from hstage.2.2)]
    rfl
  refine ⟨⟨events, B, T, hb.run, ?_, ?_, fun c hc => ?_⟩, fun c hc => ?_⟩
  · rw [List.filterMap_append, hcom, List.append_nil]
    exact hb.beginning
  · rw [List.filterMap_append, hfin, List.append_nil]
    exact hb.completing
  · rcases List.mem_append.mp hc with hc | hc
    · exact hb.sound c hc
    · rw [List.mem_singleton.mp hc]
      exact ⟨hstage.1, (fun d hd => nomatch hd)⟩
  · rcases List.mem_append.mp hc with hc | hc
    · exact hs.talks c hc
    · rw [List.mem_singleton.mp hc]
      exact ⟨h, hh, .start ..⟩

/-- One connection goes on. -/
theorem modify_inv (hs : Inv C s₀ s) {i : Nat} {f : Conn → Conn}
    (hb : ∀ c events B T, s.conns[i]? = some c → Backed C s₀ events B T s →
      Backed C s₀ events B T { s with conns := s.conns.set i (f c) })
    (ht : ∀ c, Talks c → Talks (f c)) : Inv C s₀ (s.modify i f) := by
  unfold Server.modify
  split
  · next c hc =>
    obtain ⟨events, B, T, hback⟩ := hs.backed
    refine ⟨⟨events, B, T, hb c events B T hc hback⟩, fun x hx => ?_⟩
    rcases List.mem_or_eq_of_mem_set hx with hx | rfl
    · exact hs.talks x hx
    · exact ht c (hs.talks c (List.mem_of_getElem? hc))
  · exact hs

/-- A step of an agent leaves the service and the handlers alone. -/
theorem Backed.agent {events : List Enroll.Event} {B : List Prepared} {T : List Taken}
    {i : Nat} {c c' : Conn}
    (h : Backed C s₀ events B T s) (hc : s.conns[i]? = some c) (hsame : c'.handler = c.handler) :
    Backed C s₀ events B T { s with conns := s.conns.set i c' } := by
  refine h.set hc ?_ ?_ ?_ s.table
  · unfold Conn.committing
    rw [hsame]
  · unfold Conn.finishing
    rw [hsame]
  · unfold Sound
    rw [hsame]
    exact h.sound c (List.mem_of_getElem? hc)

/-- **Step.** -/
theorem act_inv (hs : Inv C s₀ s) (a : Action) : Inv C s₀ (act C cfg maxConns s a) := by
  cases a with
  | accept remote =>
    simp only [act]
    split
    · exact opened_inv hs (.inl rfl)
    · exact opened_inv hs (.inr ⟨remote, rfl⟩)
  | write i n =>
    refine modify_inv hs
      (fun c events B T hc hb => hb.net hc (c.handler.write_moves framing .tooLarge n) ..)
        fun c ht => ?_
    obtain ⟨h, hh, hl⟩ := ht
    exact ⟨h, hh, (hl.symm.write .tooLarge n).symm⟩
  | read i n =>
    refine modify_inv hs
      (fun c events B T hc hb => hb.net hc (c.handler.read_moves framing .tooLarge n c.up) ..)
        fun c ht => ?_
    obtain ⟨h, hh, hl⟩ := ht
    exact ⟨h, hh, (hl.symm.read .tooLarge n).symm⟩
  | fail i =>
    refine modify_inv hs (fun c events B T hc hb => hb.net hc (c.handler.fail_moves .io) ..)
      fun c ht => ?_
    obtain ⟨h, hh, hl⟩ := ht
    exact ⟨h, hh, (hl.symm.fail .io).symm⟩
  | serve i env =>
    simp only [act]
    split
    · exact hs
    · next c hc =>
      split
      · next q k hq =>
        obtain ⟨events, B, T, hb⟩ := hs.backed
        refine ⟨backed_serve cfg hb hc hq env, fun x hx => ?_⟩
        rcases List.mem_or_eq_of_mem_set hx with hx | rfl
        · exact hs.talks x hx
        · obtain ⟨h, hh, hl⟩ := hs.talks c (List.mem_of_getElem? hc)
          exact ⟨h, hh, (hl.symm.answered hq _).symm⟩
      · exact hs
  | agentWrite i n =>
    refine modify_inv hs (fun c events B T hc hb => hb.agent hc rfl) fun c ht => ?_
    obtain ⟨h, hh, hl⟩ := ht
    exact ⟨h, hh, hl.write _ n⟩
  | agentRead i n =>
    refine modify_inv hs (fun c events B T hc hb => hb.agent hc rfl) fun c ht => ?_
    obtain ⟨h, hh, hl⟩ := ht
    exact ⟨h, hh, hl.read _ n⟩
  | agentFail i e =>
    refine modify_inv hs (fun c events B T hc hb => hb.agent hc rfl) fun c ht => ?_
    obtain ⟨h, hh, hl⟩ := ht
    exact ⟨h, hh, hl.fail e⟩
  | agentTold i answer =>
    refine modify_inv hs (fun c events B T hc hb => hb.agent hc ?_) fun c ht => ?_
    · split <;> rfl
    · obtain ⟨h, hh, hl⟩ := ht
      split
      · next q k hq => exact ⟨h, hh, hl.answered hq _⟩
      · exact ⟨h, hh, hl⟩

/-- **Run.** -/
theorem run_inv (acts : List Action) : Inv C s₀ ((server C cfg maxConns).run (booted s₀) acts) := by
  have h0 : Inv C s₀ (booted s₀) := by
    refine ⟨⟨[], [], [], rfl, .refl _, .refl _, (fun c hc => nomatch hc)⟩, (fun c hc => nomatch hc)⟩
  exact Machine.run_inv (P := fun _ _ => True) (J := Inv C s₀) (fun _ a hs _ => act_inv hs a) h0
    (Machine.allSteps_iff.mpr fun _ _ _ _ => trivial)

end

/-! ## What an enrolled agent has done -/

/-- It failed on the way. -/
theorem not_enrolled {l : List (Did Fault Ask Told)} {e : Fault}
    (h : Follows (.ret (.error e) : Agent) l (.ret (.ok ()))) : False := nomatch h.of_ret.2

theorem completed_log {ch : EnrollChallenge} {secret : Bytes} {l : List (Did Fault Ask Told)}
    (h : Follows (complete ch secret) l (.ret (.ok ()))) :
    ∃ body rbuf res, l = [.sent body, .got rbuf, .asked (.storeCert res.aikCert) (.ok ())] ∧
      decodeComplete body = .ok ⟨cString ch.sessionId.toList, secret⟩ ∧
      enrollDecodeResult (some rbuf) = .ok res ∧ res.status = statusOK := by
  have henc := encodeComplete_ensures (some frameBuf) (some (sessionString ch.sessionId)) (some secret)
  unfold complete at h
  split at h
  · exact (not_enrolled h).elim
  · next blen body hbody =>
    rw [hbody] at henc
    obtain ⟨o, sid, sec, -, hsid, hsec, -, -, hdec⟩ := henc
    cases hsid
    cases hsec
    rcases h.of_send with ⟨-, h₁⟩ | ⟨l₁, hl₁, h₁⟩ | ⟨e, l₁, -, h₁⟩
    · cases h₁
    · rcases h₁.of_recv with ⟨-, h₂⟩ | ⟨rbuf, l₂, hl₂, h₂⟩ | ⟨e, l₂, -, h₂⟩
      · cases h₂
      · dsimp only at h₂
        split at h₂
        · exact (not_enrolled h₂).elim
        · next res hres =>
          split at h₂
          · exact (not_enrolled h₂).elim
          · next hok =>
            rcases h₂.of_call with ⟨-, h₃⟩ | ⟨a, l₃, hl₃, h₃⟩
            · cases h₃
            · cases a with
              | error e => exact (not_enrolled h₃).elim
              | ok u =>
                rw [hl₁, hl₂, hl₃, h₃.of_ret.1]
                exact ⟨_, rbuf, res, rfl, hdec, hres, not_not.mp hok⟩
      · exact (not_enrolled h₂).elim
    · exact (not_enrolled h₁).elim

/-- Everything an agent that succeeds has done, in its order. -/
theorem enrolled_log {l : List (Did Fault Ask Told)} (h : Follows enrollToCa l (.ret (.ok ()))) :
    ∃ ek aik body rbuf ch secret body' rbuf' res,
      l = [.asked .ekCert (.ok ek), .asked .aikPublic (.ok aik), .asked .connect (.ok ()),
        .sent body, .got rbuf,
        .asked (.activate ch.credBlob ch.encSecret) (.ok secret), .sent body', .got rbuf',
        .asked (.storeCert res.aikCert) (.ok ())] ∧
      decodeBegin body = .ok ⟨ek, aik⟩ ∧
      (enrollDecodeChallenge (some rbuf) = .ok ch ∧ ch.status = statusOK) ∧
      decodeComplete body' = .ok ⟨cString ch.sessionId.toList, secret⟩ ∧
      enrollDecodeResult (some rbuf') = .ok res ∧ res.status = statusOK := by
  rcases h.of_call with ⟨-, h₁⟩ | ⟨a, l₁, hl₁, h₁⟩
  · cases h₁
  cases a with
  | error e => exact (not_enrolled h₁).elim
  | ok ek =>
  rcases h₁.of_call with ⟨-, h₂⟩ | ⟨a, l₂, hl₂, h₂⟩
  · cases h₂
  cases a with
  | error e => exact (not_enrolled h₂).elim
  | ok aik =>
  rcases h₂.of_call with ⟨-, h₃⟩ | ⟨a, l₃, hl₃, h₃⟩
  · cases h₃
  cases a with
  | error e => exact (not_enrolled h₃).elim
  | ok u =>
  have henc := encodeBegin_ensures (some frameBuf) (some ek) (some aik)
  dsimp only at h₃
  split at h₃
  · exact (not_enrolled h₃).elim
  next blen body hbody =>
  rw [hbody] at henc
  obtain ⟨o, e, a, -, he, ha, -, -, hdec⟩ := henc
  cases he
  cases ha
  rcases h₃.of_send with ⟨-, h₄⟩ | ⟨l₄, hl₄, h₄⟩ | ⟨e, l₄, -, h₄⟩
  · cases h₄
  · rcases h₄.of_recv with ⟨-, h₅⟩ | ⟨rbuf, l₅, hl₅, h₅⟩ | ⟨e, l₅, -, h₅⟩
    · cases h₅
    · dsimp only at h₅
      split at h₅
      · exact (not_enrolled h₅).elim
      · next ch hch =>
        split at h₅
        · exact (not_enrolled h₅).elim
        · next hok =>
          rcases h₅.of_call with ⟨-, h₆⟩ | ⟨a, l₆, hl₆, h₆⟩
          · cases h₆
          · cases a with
            | error e => exact (not_enrolled h₆).elim
            | ok secret =>
              obtain ⟨body', rbuf', res, hl₇, hdec', hres, hst⟩ := completed_log h₆
              rw [hl₁, hl₂, hl₃, hl₄, hl₅, hl₆, hl₇]
              exact ⟨ek, aik, _, rbuf, ch, secret, body', rbuf', res, rfl, hdec,
                ⟨hch, not_not.mp hok⟩, hdec', hres, hst⟩
    · exact (not_enrolled h₅).elim
  · exact (not_enrolled h₄).elim

/-! ## What a handler that replied twice has done -/

/-- A refusal is the last reply. -/
theorem reply_last {body : Except WireError Bytes} {l : List (Did NetError Query Answer)} {p : Handler}
    (h : Follows (writeReply body (.ret ())) l p) :
    sents l = [] ∨ ∃ b, body = .ok b ∧ sents l = [b] := by
  cases body with
  | error e =>
    rw [h.of_ret.1]
    exact .inl rfl
  | ok b =>
    rcases h.of_send with ⟨rfl, -⟩ | ⟨l', rfl, h'⟩ | ⟨e, l', rfl, h'⟩
    · exact .inl rfl
    · rw [h'.of_ret.1]
      exact .inr ⟨b, rfl, rfl⟩
    · rw [h'.of_ret.1]
      exact .inl rfl

theorem completeStatus_ne (e : EnrollError) : completeStatus e ≠ statusOK := by
  unfold completeStatus
  split <;> decide

/-- A reply to `Complete` is a refusal, or the certificate of a `Complete` with
what the handler got. -/
theorem complete_sents {l : List (Did NetError Query Answer)} {p : Handler} {r : Bytes}
    {rs : List Bytes}
    (h : Follows handleComplete l p) (hs : sents l = r :: rs) :
    ∃ g req gs, gots l = g :: gs ∧ decodeComplete g = .ok req ∧
      ((∃ status, status ≠ statusOK ∧ encodeResult ⟨status, [], []⟩ = .ok r) ∨
        ∃ t der dev, .asked (.take (goString req.sessionID) req.secret) (some t) ∈ l ∧
          .asked (.finish t) (.ok (der, dev)) ∈ l ∧
          encodeResult ⟨statusOK, der, ascii dev⟩ = .ok r) := by
  rcases h.of_recv with ⟨hl, -⟩ | ⟨g, l₁, hl, h₁⟩ | ⟨e, l₁, hl, h₁⟩
  · rw [hl] at hs
    cases hs
  · have hs₁ : sents l₁ = r :: rs := by rw [← hs, hl]; rfl
    dsimp only at h₁
    split at h₁
    · rw [h₁.of_ret.1] at hs₁
      cases hs₁
    · next req hreq =>
      refine ⟨g, req, gots l₁, by rw [hl]; rfl, hreq, ?_⟩
      rcases h₁.of_call with ⟨hl₁, -⟩ | ⟨a, l₂, hl₁, h₂⟩
      · rw [hl₁] at hs₁
        cases hs₁
      · have hs₂ : sents l₂ = r :: rs := by rw [← hs₁, hl₁]; rfl
        cases a with
        | none =>
          rcases reply_last h₂ with hno | ⟨b, hb, hone⟩
          · rw [hno] at hs₂
            cases hs₂
          · rw [hone] at hs₂
            cases hs₂
            exact .inl ⟨_, completeStatus_ne _, hb⟩
        | some t =>
          rcases h₂.of_call with ⟨hl₂, -⟩ | ⟨a, l₃, hl₂, h₃⟩
          · rw [hl₂] at hs₂
            cases hs₂
          · have hs₃ : sents l₃ = r :: rs := by rw [← hs₂, hl₂]; rfl
            cases a with
            | error e =>
              rcases reply_last h₃ with hno | ⟨b, hb, hone⟩
              · rw [hno] at hs₃
                cases hs₃
              · rw [hone] at hs₃
                cases hs₃
                exact .inl ⟨_, completeStatus_ne _, hb⟩
            | ok x =>
              obtain ⟨der, dev⟩ := x
              rcases reply_last h₃ with hno | ⟨b, hb, hone⟩
              · rw [hno] at hs₃
                cases hs₃
              · rw [hone] at hs₃
                cases hs₃
                refine .inr ⟨t, der, dev, ?_, ?_, hb⟩
                · rw [hl, hl₁]
                  simp
                · rw [hl, hl₁, hl₂]
                  simp
  · rw [hl, h₁.of_ret.1] at hs
    cases hs

/-- A refusal of `Begin` is the only reply. -/
theorem refused_once {status : UInt16} {l : List (Did NetError Query Answer)} {p : Handler}
    {r r' : Bytes} {rs : List Bytes}
    (h : Follows (refuseBegin status) l p) (hs : sents l = r :: r' :: rs) : False := by
  rcases reply_last h with hno | ⟨b, -, hone⟩
  · rw [hno] at hs
    cases hs
  · rw [hone] at hs
    cases hs

/-- Behind two replies are a `Begin` that was committed, its challenge, and a
`Complete`. -/
theorem handle_sents {remote : Bytes} {l : List (Did NetError Query Answer)} {p : Handler}
    {r r' : Bytes} {rs : List Bytes}
    (h : Follows (handle remote) l p) (hs : sents l = r :: r' :: rs) :
    ∃ g req x g' req' gs, gots l = g :: g' :: gs ∧ decodeBegin g = .ok req ∧
    decodeComplete g' = .ok req' ∧
      .asked (.prepare req.ekCertDER req.aikPublic) (.ok x) ∈ l ∧ .asked (.commit x) (.ok ()) ∈ l ∧
      encodeChallenge ⟨statusOK, ascii x.sessionID, x.credentialBlob, x.encryptedSecret⟩ = .ok r ∧
      ((∃ status, status ≠ statusOK ∧ encodeResult ⟨status, [], []⟩ = .ok r') ∨
        ∃ t der dev, .asked (.take (goString req'.sessionID) req'.secret) (some t) ∈ l ∧
          .asked (.finish t) (.ok (der, dev)) ∈ l ∧
          encodeResult ⟨statusOK, der, ascii dev⟩ = .ok r') := by
  rcases h.of_recv with ⟨hl, -⟩ | ⟨g, l₁, hl, h₁⟩ | ⟨e, l₁, hl, h₁⟩
  · rw [hl] at hs
    cases hs
  · have hs₁ : sents l₁ = r :: r' :: rs := by rw [← hs, hl]; rfl
    dsimp only at h₁
    split at h₁
    · rw [h₁.of_ret.1] at hs₁
      cases hs₁
    · next req hreq =>
      rcases h₁.of_call with ⟨hl₁, -⟩ | ⟨a, l₂, hl₁, h₂⟩
      · rw [hl₁] at hs₁
        cases hs₁
      have hs₂ : sents l₂ = r :: r' :: rs := by rw [← hs₁, hl₁]; rfl
      cases a with
      | false => exact (refused_once h₂ hs₂).elim
      | true =>
      rcases h₂.of_call with ⟨hl₂, -⟩ | ⟨a, l₃, hl₂, h₃⟩
      · rw [hl₂] at hs₂
        cases hs₂
      have hs₃ : sents l₃ = r :: r' :: rs := by rw [← hs₂, hl₂]; rfl
      cases a with
      | error e => exact (refused_once h₃ hs₃).elim
      | ok x =>
      rcases h₃.of_call with ⟨hl₃, -⟩ | ⟨a, l₄, hl₃, h₄⟩
      · rw [hl₃] at hs₃
        cases hs₃
      have hs₄ : sents l₄ = r :: r' :: rs := by rw [← hs₃, hl₃]; rfl
      cases a with
      | error e => exact (refused_once h₄ hs₄).elim
      | ok u =>
      dsimp only at h₄
      unfold writeReply at h₄
      split at h₄
      · rw [h₄.of_ret.1] at hs₄
        cases hs₄
      · next b hb =>
        rcases h₄.of_send with ⟨hl₄, -⟩ | ⟨l₅, hl₄, h₅⟩ | ⟨e, l₅, hl₄, h₅⟩
        · rw [hl₄] at hs₄
          cases hs₄
        · have hs₅ : b :: sents l₅ = r :: r' :: rs := by rw [← hs₄, hl₄]; rfl
          obtain ⟨rfl, hs₆⟩ := List.cons.inj hs₅
          obtain ⟨g', req', gs, hg', hreq', hend⟩ := complete_sents h₅ hs₆
          refine ⟨g, req, x, g', req', gs, ?_, hreq, hreq', ?_, ?_, hb, ?_⟩
          · rw [← hg', hl, hl₁, hl₂, hl₃, hl₄]
            rfl
          · rw [hl, hl₁, hl₂]
            simp
          · rw [hl, hl₁, hl₂, hl₃]
            simp
          · rcases hend with hend | ⟨t, der, dev, ht, hf, henc⟩
            · exact .inl hend
            · refine .inr ⟨t, der, dev, ?_, ?_, henc⟩
              · rw [hl, hl₁, hl₂, hl₃, hl₄]
                simp [ht]
              · rw [hl, hl₁, hl₂, hl₃, hl₄]
                simp [hf]
        · rw [hl₄, h₅.of_ret.1] at hs₄
          cases hs₄
  · rw [hl, h₁.of_ret.1] at hs
    cases hs

/-! ## Session ids on the wire -/

theorem hexEncode_chars {bs : Bytes} {c : Char} (h : c ∈ (hexEncode bs).toList) :
    ∃ n < 16, c = hexDigit n := by
  unfold hexEncode at h
  rw [String.toList_ofList] at h
  obtain ⟨b, -, hc⟩ := List.mem_flatMap.mp h
  have hb := b.toNat_lt
  rcases List.mem_pair.mp hc with rfl | rfl
  · exact ⟨_, by omega, rfl⟩
  · exact ⟨_, Nat.mod_lt _ (by decide), rfl⟩

/-- A hex string has no NUL and is the same string on both sides. -/
theorem hexEncode_wire (bs : Bytes) :
    (0 : UInt8) ∉ ascii (hexEncode bs) ∧ goString (ascii (hexEncode bs)) = hexEncode bs := by
  have hdigit : ∀ n < 16, UInt8.ofNat (hexDigit n).toNat ≠ 0 ∧
      Char.ofNat (UInt8.ofNat (hexDigit n).toNat).toNat = hexDigit n := by
    decide
  constructor
  · intro h0
    obtain ⟨c, hc, h0⟩ := List.mem_map.mp h0
    obtain ⟨n, hn, rfl⟩ := hexEncode_chars hc
    exact (hdigit n hn).1 h0
  · have hsame : ((hexEncode bs).toList.map fun c => Char.ofNat (UInt8.ofNat c.toNat).toNat) =
        (hexEncode bs).toList := by
      refine (List.map_congr_left fun c hc => ?_).trans (List.map_id _)
      obtain ⟨n, hn, rfl⟩ := hexEncode_chars hc
      exact (hdigit n hn).2
    unfold goString ascii
    rw [List.map_map]
    show String.ofList ((hexEncode bs).toList.map fun c => Char.ofNat (UInt8.ofNat c.toNat).toNat) = _
    rw [hsame, String.ofList_toList]

/-! ## The ceremony -/

/-- What the C decoder accepts, the Go decoder reads. -/
theorem matches_ok {α β ε : Type} {R : α → β → Prop} {x : Except Fail α} {y : Except ε β} {a : α}
    (h : Matches R x y)
    (hx : x = .ok a) : ∃ b, y = .ok b ∧ R a b := by
  subst hx
  cases y with
  | error e => exact h.elim
  | ok b => exact ⟨b, rfl, h⟩

/-- Two `Begin`s with one session id are one, if the ids are distinct. -/
theorem eq_of_sessionID {ps : List Prepared} (hd : (ps.map Prepared.sessionID).Nodup)
    {p q : Prepared} (hp : p ∈ ps)
    (hq : q ∈ ps) (h : p.sessionID = q.sessionID) : p = q := List.inj_on_of_nodup_map hd hp hq h

theorem challenge_decoded {r : ChallengeReply} {bs : Bytes} (h : encodeChallenge r = .ok bs) :
    decodeChallenge bs = .ok r := by
  have hwithin : r.Within := by
    obtain ⟨hlim, -⟩ := except_guard_ok.mp h
    obtain ⟨h1, h23⟩ := not_or.mp hlim
    obtain ⟨h2, h3⟩ := not_or.mp h23
    exact ⟨Nat.not_lt.mp h1, Nat.not_lt.mp h2, Nat.not_lt.mp h3⟩
  obtain ⟨bs', he, hd⟩ := challenge_roundTrips.roundTrip r hwithin
  rw [h] at he
  cases he
  exact hd

theorem result_decoded {r : ResultReply} {bs : Bytes} (h : encodeResult r = .ok bs) :
    decodeResult bs = .ok r := by
  have hwithin : r.Within := by
    obtain ⟨hlim, -⟩ := except_guard_ok.mp h
    obtain ⟨h1, h2⟩ := not_or.mp hlim
    exact ⟨Nat.not_lt.mp h1, Nat.not_lt.mp h2⟩
  obtain ⟨bs', he, hd⟩ := result_roundTrips.roundTrip r hwithin
  rw [h] at he
  cases he
  exact hd

/-- What stands behind a certificate `der` that an agent stored: the `Begin`
`p` of its connection and the `Complete` `t`. -/
structure Enrolled (C : Enroll.CA) (s₀ : Service) (h : History) (log : List (Did Fault Ask Told))
    (p : Prepared) (t : Taken)
    (der : Bytes) : Prop where
  /-- The CA verified the EK certificate and the AIK of this TPM. -/
  ek : .asked .ekCert (.ok p.req.ekCertDER) ∈ log
  aik : .asked .aikPublic (.ok p.req.aikTPMTPublic) ∈ log
  verified : Enroll.BeginOK C s₀ p
  returned : p ∈ begun h
  /-- This TPM opened the challenge, and the CA was given what was in it. -/
  opened : .asked (.activate p.credentialBlob p.encryptedSecret) (.ok t.req.recoveredSecret) ∈ log
  session : t.req.sessionID = p.sessionID
  /-- What is stored is what the service issued for it. -/
  stored : .asked (.storeCert der) (.ok ()) ∈ log
  issued : ∃ dev pre post e q, h = pre ++ (e, .certificate t der dev) :: post ∧
    Enroll.IssuedFor C s₀ (begun pre) t der dev q ∧ (((begun h).map Prepared.sessionID).Nodup → q = p)

section
variable {C : Enroll.CA} {cfg : Config} {maxConns : Nat}

/-- **Enrollment.** Any number of agents and one CA, any interleaving, any
pieces, any failures. The service of the CA goes through a run of the
enrollment service. In it, for every connection on which `enroll_to_ca`
succeeds, the CA has verified the EK certificate and the AIK that this agent
read from its TPM, this TPM has opened the challenge that the CA made for them,
and the stored certificate is the one the service issued for the secret in it.
With distinct session ids it is issued for this AIK. -/
theorem enroll_session {pseudonymKey : Bytes} {opts : List Enroll.ServiceOption} {s₀ : Service}
    (hnew : Enroll.newService pseudonymKey opts = .ok s₀) (acts : List Action) :
    ∃ events B T,
      (Enroll.machine C).run (Enroll.start s₀) events =
      ⟨((server C cfg maxConns).run (booted s₀) acts).service, B, T⟩ ∧
      ∀ (i : Nat) (c : Conn), ((server C cfg maxConns).run (booted s₀) acts).conns[i]? = some c →
        c.agent.prog = .ret (.ok ()) →
        ∃ p t der, Enrolled C s₀ ((Enroll.machine C).hist (Enroll.start s₀) events)
        c.agent.log p t der := by
  have hs : Inv C s₀ ((server C cfg maxConns).run (booted s₀) acts) := run_inv acts
  obtain ⟨events, B, T, hb⟩ := hs.backed
  refine ⟨events, B, T, hb.run, fun i c hc hret => ?_⟩
  have hmem := List.mem_of_getElem? hc
  obtain ⟨-, hknown⟩ := hb.sound c hmem
  obtain ⟨h, hh, hl⟩ := hs.talks c hmem
  have hserv := Enroll.run_inv hnew (C := C) events
  -- the agent's side
  have hleft := hl.left
  rw [hret] at hleft
  obtain ⟨ek, aik, body, rbuf, ch, secret, body', rbuf', res, hlog, hbegin, ⟨hch, hstatus⟩,
      hcomplete, hres, hstatus'⟩ :=
    enrolled_log hleft
  obtain ⟨hup, hdown⟩ := hl.received
  rw [hlog] at hup hdown
  obtain ⟨more, hmore⟩ : [rbuf, rbuf'] <+: sents c.handler.log := hdown
  have hup : gots c.handler.log <+: [body, body'] := hup
  -- the handler's side
  have hright := hl.right
  rcases hh with rfl | ⟨remote, rfl⟩
  · rw [hright.of_ret.1] at hmore
    cases hmore
  obtain ⟨g, req, p, g', req', gs, hgots, hreq, hreq', hprep, hcom, hchal, hend⟩ :=
    handle_sents hright hmore.symm
  rw [hgots] at hup
  obtain ⟨hg, hup⟩ := List.cons_prefix_cons.mp hup
  obtain ⟨hg', -⟩ := List.cons_prefix_cons.mp hup
  rw [hg, hbegin] at hreq
  rw [hg', hcomplete] at hreq'
  cases hreq
  cases hreq'
  obtain ⟨hek, haik⟩ : p.req.ekCertDER = ek ∧ p.req.aikTPMTPublic = aik := hknown _ hprep
  have hbegun : p ∈ begun ((Enroll.machine C).hist (Enroll.start s₀) events) := hknown _ hcom
  have hok := hserv.returned p hbegun
  -- the challenge as the agent reads it
  obtain ⟨cr, hcr, hsame⟩ := matches_ok (decodeChallenge_matches rbuf) hch
  rw [challenge_decoded hchal] at hcr
  cases hcr
  obtain ⟨id, -, hid⟩ : ∃ id, p.req.sessionID = .ok id ∧ p.sessionID = hexEncode id := by
    obtain ⟨ekPub, aikPublic, aikName, hv⟩ := hok
    exact hv.sessionID
  have hwire := hexEncode_wire id
  rw [← hid] at hwire
  have hsid : cString ch.sessionId.toList = ascii p.sessionID := hsame.sessionId hwire.1
  -- the result as the agent reads it
  obtain ⟨rr, hrr, hsame'⟩ := matches_ok (decodeResult_matches rbuf') hres
  rcases hend with ⟨status, hne, henc⟩ | ⟨t, der, dev, htake, hfin, henc⟩
  · rw [result_decoded henc] at hrr
    cases hrr
    exact absurd (hsame'.status.symm.trans hstatus') hne
  · rw [result_decoded henc] at hrr
    cases hrr
    have hder : res.aikCert = der := hsame'.aikCert
    obtain ⟨hts, htr⟩ : t.req.sessionID = goString (cString ch.sessionId.toList) ∧
        t.req.recoveredSecret = secret :=
      hknown _ htake
    have hts' : t.req.sessionID = p.sessionID := by rw [hts, hsid, hwire.2]
    obtain ⟨e, he⟩ : ∃ e, (e, Enroll.Output.certificate t der dev) ∈ (Enroll.machine C).hist
        (Enroll.start s₀) events :=
      hknown _ hfin
    obtain ⟨pre, post, hsplit⟩ := List.append_of_mem he
    obtain ⟨q, hq⟩ := hserv.issued pre post e t der dev hsplit
    have hqin : q ∈ begun ((Enroll.machine C).hist (Enroll.start s₀) events) := by
      rw [hsplit]
      unfold begun
      rw [List.filterMap_append]
      exact List.mem_append_left _ hq.returned
    refine ⟨p, t, der, ?_, ?_, hok, hbegun, ?_, hts', ?_, dev, pre, post, e, q, hsplit,
      hq, fun hd => ?_⟩
    · rw [hlog, hek]
      simp
    · rw [hlog, haik]
      simp
    · rw [hlog, htr, hsame.credBlob, hsame.encSecret]
      simp
    · rw [hlog, hder]
      simp
    · exact eq_of_sessionID hd hqin hbegun (hq.sessionID.trans hts')

end

/-- A TPM that has the keys of `Enroll.ceremonyCA`. -/
def ceremonyTpm : (q : Ask) → Told q
  | .ekCert => .ok [1]
  | .aikPublic => .ok [2]
  | .connect => .ok ()
  | .activate _ encSecret => .ok (encSecret.map (· ^^^ 0xff))
  | .storeCert _ => .ok ()

def ceremonyEnv (now : Time) : Env := { now, secret := .ok [3], sessionID := .ok [4] }

/-- One agent, with frames in pieces. -/
def ceremonyActs : List Action :=
  [.accept (ascii "10.0.0.7:52100"), .agentTold 0 ceremonyTpm, .agentTold 0 ceremonyTpm,
    .agentTold 0 ceremonyTpm,
    .agentWrite 0 3, .read 0 9, .agentWrite 0 99, .read 0 9, .read 0 99, .serve 0 (ceremonyEnv 0),
    .serve 0 (ceremonyEnv 0),
    .serve 0 (ceremonyEnv 0), .write 0 999, .agentRead 0 4, .agentRead 0 999,
    .agentTold 0 ceremonyTpm, .agentWrite 0 999,
    .read 0 4, .read 0 999, .serve 0 (ceremonyEnv 1000000000), .serve 0 (ceremonyEnv 1000000000),
    .write 0 999, .agentRead 0 4, .agentRead 0 999, .agentTold 0 ceremonyTpm]

def Conn.enrolled (c : Conn) : Bool :=
  match c.agent.prog with
  | .ret (.ok ()) => true
  | _ => false

theorem enroll_session_ceremony :
    ∃ events log p t der, Enrolled Enroll.ceremonyCA Enroll.ceremonyService
      ((Enroll.machine Enroll.ceremonyCA).hist (Enroll.start Enroll.ceremonyService) events)
      log p t der := by
  have hnew : Enroll.newService Enroll.ceremonyKey [.maxPending 1] = .ok Enroll.ceremonyService := rfl
  have hdone :
      (((server Enroll.ceremonyCA ⟨10, 60⟩ 4).run (booted Enroll.ceremonyService)
        ceremonyActs).conns[0]?).any
      Conn.enrolled = true := by
    decide +kernel
  obtain ⟨c, hc, henrolled⟩ := (Option.any_eq_true _ _).mp hdone
  have hret : c.agent.prog = .ret (.ok ()) := by
    unfold Conn.enrolled at henrolled
    split at henrolled
    · assumption
    · cases henrolled
  obtain ⟨events, B, T, -, h⟩ := enroll_session hnew ceremonyActs
  obtain ⟨p, t, der, hp⟩ := h 0 c hc hret
  exact ⟨events, c.agent.log, p, t, der, hp⟩

end Lota.L5.Ceremony

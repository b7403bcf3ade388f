import Lota.L5Enroll.Enroll

/-!
# Runs of the enrollment service

The invariant of `Lota.L5Enroll.Enroll` over every interleaving. A session
that is stored or taken belongs to a `Begin` that returned its challenge, and
for every session id the certificates, the taken sessions and the stored one
together are no more than the `Begin`s with that id.

* `step_inv`: one event preserves the invariant.
* `enrollment_sound`: what follows for a whole run.
-/
namespace Lota.L5.Enroll
open Lota.Core

abbrev History := List (Event × Output)

/-- The `Begin`s that returned a challenge. -/
def begun (h : History) : List Prepared :=
  h.filterMap fun e => match e.2 with
    | .challenge p => some p
    | _ => none

/-- The `Complete`s that returned a certificate. -/
def certified (h : History) : List Taken :=
  h.filterMap fun e => match e.2 with
    | .certificate t _ _ => some t
    | _ => none

variable {C : CA}

/-! ## What a prepared call has verified -/

/-- The EK certificate and the AIK were verified, and the session is about
this AIK, the EK's device and the secret that was wrapped. -/
structure Verified (C : CA) (s : Service) (p : Prepared) (ekPub : RSAPublicKey) (aikPublic : TPMPublic)
    (aikName : Bytes) : Prop where
  ek : C.verifyEKCertificate p.req.ekCertDER p.req.now = .ok (.rsa ekPub)
  aik : validateAIK C p.req.aikTPMTPublic = .ok (aikPublic, aikName)
  key : C.publicKey p.req.aikTPMTPublic aikPublic = .ok (.rsa p.session.aikPub)
  challenge : generateChallenge C ekPub aikName p.req.secret =
    .ok (p.credentialBlob, p.encryptedSecret, p.session.secret)
  sessionID : ∃ id, p.req.sessionID = .ok id ∧ p.sessionID = hexEncode id
  device : p.session.deviceID = s.deviceID ekPub
  created : p.session.createdAt = p.req.now

def BeginOK (C : CA) (s : Service) (p : Prepared) : Prop :=
  ∃ ekPub aikPublic aikName, Verified C s p ekPub aikPublic aikName

theorem prepare_ok {s : Service} {req : BeginRequest} {p : Prepared} (h : s.prepare C req = .ok p) :
    BeginOK C s p := by
  unfold Service.prepare at h
  cases hek : C.verifyEKCertificate req.ekCertDER req.now with
  | error e => rw [hek] at h; cases h
  | ok ek =>
  cases ek with
  | other => rw [hek] at h; cases h
  | rsa ekPub =>
  simp only [hek] at h
  cases haik : validateAIK C req.aikTPMTPublic with
  | error e => rw [haik] at h; cases h
  | ok pair =>
  obtain ⟨aikPublic, aikName⟩ := pair
  simp only [haik] at h
  cases hkey : C.publicKey req.aikTPMTPublic aikPublic with
  | error e => rw [hkey] at h; cases h
  | ok key =>
  cases key with
  | other => rw [hkey] at h; cases h
  | rsa aikRSA =>
  simp only [hkey] at h
  cases hch : generateChallenge C ekPub aikName req.secret with
  | error e => rw [hch] at h; cases h
  | ok ch =>
  obtain ⟨credBlob, encSecret, secret⟩ := ch
  simp only [hch] at h
  cases hid : req.sessionID with
  | error e => rw [hid] at h; cases h
  | ok id =>
  simp only [hid] at h
  cases h
  exact ⟨ekPub, aikPublic, aikName, hek, haik, hkey, hch, ⟨id, hid, rfl⟩, rfl, rfl⟩

/-! ## The map of sessions -/

/-- A sweep only removes. -/
theorem sweep_fold {s : Service} {now : Time} {es : List (Sigma fun _ : String => Session)}
    {m : GoMap String Session} : (es.foldl (s.sweepEntry now) m).keys.length ≤ m.keys.length ∧
      ∀ id x, (es.foldl (s.sweepEntry now) m).lookup id = some x → m.lookup id = some x := by
  induction es generalizing m with
  | nil => exact ⟨Nat.le_refl _, fun _ _ h => h⟩
  | cons e es ih =>
    rw [List.foldl_cons]
    obtain ⟨hlen, hlook⟩ := ih (m := s.sweepEntry now m e)
    unfold Service.sweepEntry at hlen hlook ⊢
    split at hlen
    · rename_i hexp
      rw [if_pos hexp] at hlook ⊢
      exact ⟨Nat.le_trans hlen (erase_length_le m e.1), fun id x h => lookup_of_erase (hlook id x h)⟩
    · rename_i hexp
      rw [if_neg hexp] at hlook ⊢
      exact ⟨hlen, hlook⟩

theorem sweep_length (s : Service) (now : Time) :
    (s.sweepLocked now).pending.keys.length ≤ s.pending.keys.length :=
  sweep_fold.1

theorem sweep_lookup {s : Service} {now : Time} {id : String} {x : Session}
    (h : (s.sweepLocked now).pending.lookup id = some x) : s.pending.lookup id = some x :=
  sweep_fold.2 id x h

/-! ## The invariant -/

/-- How often `id` is stored: 0 or 1. -/
def Service.stored (s : Service) (id : String) : Nat := if (s.pending.lookup id).isSome then 1 else 0

theorem stored_mono {s s' : Service}
    (h : ∀ id x, s'.pending.lookup id = some x → s.pending.lookup id = some x)
    (id : String) : s'.stored id ≤ s.stored id := by
  unfold Service.stored
  cases hl : s'.pending.lookup id with
  | none => simp
  | some x => simp [h id x hl]

theorem stored_insert (s : Service) (key : String) (x : Session) (id : String) :
    ({ s with pending := s.pending.insert key x } : Service).stored id = if id = key then 1
    else s.stored id := by
  unfold Service.stored
  simp only
  rw [lookup_insert_ite]
  split
  · rfl
  · rfl

theorem stored_erase (s : Service) (key id : String) :
    ({ s with pending := s.pending.erase key } : Service).stored id = if id = key then 0
    else s.stored id := by
  unfold Service.stored
  simp only
  rw [lookup_erase_ite]
  split
  · rfl
  · rfl

/-- The certificates for `id`. -/
def certCount (h : History) (id : String) : Nat := (certified h).countP fun t => t.req.sessionID = id

/-- The `Begin`s that returned `id`. -/
def beginCount (h : History) (id : String) : Nat := (begun h).countP fun p => p.sessionID = id

def takenCount (s : State) (id : String) : Nat := s.completing.countP fun t => t.req.sessionID = id

/-- The certificate goes to the AIK of one of the `Begin`s `ps`, for its
secret and within its time to live. -/
structure IssuedFor (C : CA) (s : Service) (ps : List Prepared) (t : Taken) (der : Bytes)
    (deviceID : String)
    (p : Prepared) : Prop where
  returned : p ∈ ps
  sessionID : p.sessionID = t.req.sessionID
  verified : BeginOK C s p
  secret : t.req.recoveredSecret = p.session.secret
  live : t.req.now - p.req.now ≤ s.ttl
  certificate : C.issueAIKCertificate p.session.aikPub p.session.deviceID t.req.now = .ok der
  device : deviceID = p.session.deviceID

/-- `s₀` is the service at the start; its settings do not change. -/
structure Inv (C : CA) (s₀ : Service) (h : History) (s : State) : Prop where
  ttl : s.service.ttl = s₀.ttl
  maxPending : s.service.maxPending = s₀.maxPending
  pseudonymKey : s.service.pseudonymKey = s₀.pseudonymKey
  beginning : ∀ p ∈ s.beginning, BeginOK C s₀ p
  returned : ∀ p ∈ begun h, BeginOK C s₀ p
  pending : ∀ id x, s.service.pending.lookup id = some x → ∃ p ∈ begun h, p.sessionID = id ∧
    p.session = x
  completing : ∀ t ∈ s.completing, ∃ p ∈ begun h, p.sessionID = t.req.sessionID ∧ p.session = t.session
  count : ∀ id, certCount h id + takenCount s id + s.service.stored id ≤ beginCount h id
  size : (s.service.pending.keys.length : Int) ≤ s₀.maxPending
  issued : ∀ pre post e t der deviceID, h = pre ++ (e, .certificate t der deviceID) :: post →
    ∃ p, IssuedFor C s₀ (begun pre) t der deviceID p

/-- An output that is neither a challenge nor a certificate. -/
def Quiet : Output → Prop
  | .challenge _ => False
  | .certificate _ _ _ => False
  | _ => True

section
variable {s₀ : Service} {h : History} {s s' : State} {ev : Event} {o : Output}

theorem begun_quiet (h : History) (ev : Event) (ho : Quiet o) : begun (h ++ [(ev, o)]) = begun h := by
  unfold begun
  rw [List.filterMap_append]
  cases o <;> first | exact ho.elim | simp

theorem certified_quiet (h : History) (ev : Event) (ho : Quiet o) :
    certified (h ++ [(ev, o)]) = certified h := by
  unfold certified
  rw [List.filterMap_append]
  cases o <;> first | exact ho.elim | simp

/-- A history that ends with something else than a certificate has its
certificates earlier. -/
theorem issued_append (hi : Inv C s₀ h s) (ho : ∀ t der d, o ≠ .certificate t der d) :
    ∀ pre post e t der deviceID, h ++ [(ev, o)] = pre ++ (e, .certificate t der deviceID) :: post →
      ∃ p, IssuedFor C s₀ (begun pre) t der deviceID p := by
  intro pre post e t der deviceID heq
  rcases append_singleton_split heq with ⟨-, -, hlast⟩ | ⟨post', hh⟩
  · exact absurd (Prod.mk.inj hlast).2 (ho t der deviceID)
  · exact hi.issued pre post' e t der deviceID hh

/-- An event that shows nothing: it may remove sessions, prepare a verified
`Begin` and drop calls. -/
theorem Inv.quiet (hi : Inv C s₀ h s) (ho : Quiet o) (httl : s'.service.ttl = s.service.ttl)
    (hmax : s'.service.maxPending = s.service.maxPending)
    (hkey : s'.service.pseudonymKey = s.service.pseudonymKey)
    (hbeg : ∀ p ∈ s'.beginning, p ∈ s.beginning ∨ BeginOK C s₀ p)
    (hlook : ∀ id x, s'.service.pending.lookup id = some x → s.service.pending.lookup id = some x)
    (hlen : s'.service.pending.keys.length ≤ s.service.pending.keys.length)
    (hcomp : ∀ t ∈ s'.completing, ∃ p ∈ begun h, p.sessionID = t.req.sessionID ∧ p.session = t.session)
    (hcount : ∀ id, takenCount s' id + s'.service.stored id ≤ takenCount s id + s.service.stored id) :
    Inv C s₀ (h ++ [(ev, o)]) s' := by
  have hb := begun_quiet h ev ho
  have hc := certified_quiet h ev ho
  refine ⟨httl.trans hi.ttl, hmax.trans hi.maxPending, hkey.trans hi.pseudonymKey, ?_, ?_, ?_,
    ?_, ?_, ?_, ?_⟩
  · intro p hp
    rcases hbeg p hp with hold | hok
    · exact hi.beginning p hold
    · exact hok
  · rw [hb]
    exact hi.returned
  · intro id x hx
    rw [hb]
    exact hi.pending id x (hlook id x hx)
  · rw [hb]
    exact hcomp
  · intro id
    have hold := hi.count id
    have hnew := hcount id
    unfold certCount beginCount at hold ⊢
    rw [hb, hc]
    omega
  · have := hi.size
    omega
  · apply issued_append hi
    intro t der d heq
    rw [heq] at ho
    exact ho

theorem start_inv (s₀ : Service) (hp : s₀.pending = ∅) (hm : 0 ≤ s₀.maxPending) :
    Inv C s₀ [] (start s₀) := by
  refine ⟨rfl, rfl, rfl, ?_, ?_, ?_, ?_, ?_, ?_, ?_⟩
  · intro p hmem
    cases hmem
  · intro p hmem
    cases hmem
  · intro id x hx
    simp [start, hp] at hx
  · intro t hmem
    cases hmem
  · intro id
    simp [certCount, beginCount, takenCount, Service.stored, start, hp, certified, begun]
  · simpa [start, hp] using hm
  · intro pre post e t der deviceID heq
    simp at heq

/-! ## One event -/

theorem prepare_inv (hi : Inv C s₀ h s) (req : BeginRequest) :
    Inv C s₀ (h ++ [(.prepare req, (step C s (.prepare req)).2)]) (step C s (.prepare req)).1 := by
  cases hp : s.service.prepare C req with
  | error e =>
    have hstep : step C s (.prepare req) = (s, .refused e) := by simp only [step, hp]
    rw [hstep]
    exact hi.quiet trivial rfl rfl rfl (fun p hp => .inl hp) (fun _ _ hx => hx)
      (Nat.le_refl _) hi.completing
      (fun _ => Nat.le_refl _)
  | ok p =>
    have hok : BeginOK C s₀ p := by
      obtain ⟨ekPub, aikPublic, aikName, hv⟩ := prepare_ok hp
      refine ⟨ekPub, aikPublic, aikName, { hv with device := ?_ }⟩
      rw [hv.device]
      unfold Service.deviceID
      rw [hi.pseudonymKey]
    have hstep : step C s (.prepare req) = ({ s with beginning := s.beginning ++ [p] },
      .nothing) := by simp only [step, hp]
    rw [hstep]
    refine hi.quiet trivial rfl rfl rfl ?_ (fun _ _ hx => hx) (Nat.le_refl _) hi.completing
      (fun _ => Nat.le_refl _)
    intro p' hp'
    rcases List.mem_append.mp hp' with hold | hnew
    · exact .inl hold
    · rw [List.mem_singleton.mp hnew]
      exact .inr hok

theorem begun_challenge (h : History) (ev : Event) (p : Prepared) :
    begun (h ++ [(ev, .challenge p)]) = begun h ++ [p] := by
  unfold begun
  rw [List.filterMap_append]
  rfl

theorem certified_challenge (h : History) (ev : Event) (p : Prepared) :
    certified (h ++ [(ev, .challenge p)]) = certified h := by
  unfold certified
  rw [List.filterMap_append]
  simp

theorem commit_inv (hi : Inv C s₀ h s) (i : Nat) :
    Inv C s₀ (h ++ [(.commit i, (step C s (.commit i)).2)]) (step C s (.commit i)).1 := by
  cases hp : s.beginning[i]? with
  | none =>
    have hstep : step C s (.commit i) = (s, .nothing) := by simp only [step, hp]
    rw [hstep]
    exact hi.quiet trivial rfl rfl rfl (fun p hp => .inl hp) (fun _ _ hx => hx)
      (Nat.le_refl _) hi.completing
      (fun _ => Nat.le_refl _)
  | some p =>
    have hok : BeginOK C s₀ p := hi.beginning p (List.mem_of_getElem? hp)
    have hlook : ∀ id x, (s.service.sweepLocked p.req.now).pending.lookup id = some x →
        s.service.pending.lookup id = some x := fun id x => sweep_lookup
    have hlen := sweep_length s.service p.req.now
    have hstored := stored_mono hlook
    have herase : ∀ p' ∈ s.beginning.eraseIdx i, p' ∈ s.beginning :=
      fun p' hp' => List.mem_of_mem_eraseIdx hp'
    by_cases hfull : ((s.service.sweepLocked p.req.now).pending.keys.length : Int) ≥
      s.service.maxPending
    · have hcommit :
          s.service.commit p = (s.service.sweepLocked p.req.now, .error .tooManyPending) := by
        unfold Service.commit
        simp only [if_pos hfull]
      have hstep : step C s (.commit i) = ({ s with
          service := s.service.sweepLocked p.req.now, beginning := s.beginning.eraseIdx i },
          .refused .tooManyPending) := by simp only [step, hp, hcommit]
      rw [hstep]
      refine hi.quiet trivial rfl rfl rfl (fun p' hp' => .inl (herase p' hp')) hlook hlen
        hi.completing ?_
      intro id
      exact Nat.add_le_add_left (hstored id) _
    · have hcommit : s.service.commit p = ({ s.service.sweepLocked p.req.now with
          pending := (s.service.sweepLocked p.req.now).pending.insert p.sessionID p.session },
          .ok ()) := by
        unfold Service.commit
        simp only [if_neg hfull]
      have hstep : step C s (.commit i) = ({ s with
          service := { s.service.sweepLocked p.req.now with
            pending := (s.service.sweepLocked p.req.now).pending.insert p.sessionID p.session }
          beginning := s.beginning.eraseIdx i }, .challenge p) := by simp only [step, hp, hcommit]
      rw [hstep]
      have hb := begun_challenge h (.commit i) p
      have hc := certified_challenge h (.commit i) p
      refine ⟨hi.ttl, hi.maxPending, hi.pseudonymKey, fun p' hp' => hi.beginning p' (herase p' hp'),
        ?_, ?_, ?_, ?_, ?_, ?_⟩
      · intro p' hp'
        rw [hb] at hp'
        rcases List.mem_append.mp hp' with hold | hnew
        · exact hi.returned p' hold
        · rw [List.mem_singleton.mp hnew]
          exact hok
      · intro id x hx
        rw [hb]
        simp only at hx
        rw [lookup_insert_ite] at hx
        split at hx
        · rename_i hid
          exact ⟨p, List.mem_append_right _ (List.mem_singleton_self p), hid.symm, Option.some.inj hx⟩
        · obtain ⟨p', hp', hfacts⟩ := hi.pending id x (hlook id x hx)
          exact ⟨p', List.mem_append_left _ hp', hfacts⟩
      · intro t ht
        obtain ⟨p', hp', hfacts⟩ := hi.completing t ht
        rw [hb]
        exact ⟨p', List.mem_append_left _ hp', hfacts⟩
      · intro id
        have hold := hi.count id
        have hst := hstored id
        unfold certCount beginCount takenCount at hold ⊢
        rw [hb, hc, List.countP_append, List.countP_singleton, stored_insert]
        simp only [decide_eq_true_eq]
        by_cases hid : p.sessionID = id
        · rw [if_pos hid, if_pos hid.symm]
          omega
        · rw [if_neg hid, if_neg (fun hid' => hid hid'.symm)]
          omega
      · have hins := insert_length_le (s.service.sweepLocked p.req.now).pending p.sessionID p.session
        have hmax := hi.maxPending
        simp only
        omega
      · apply issued_append hi
        intro t der d heq
        cases heq

theorem take_inv (hi : Inv C s₀ h s) (req : CompleteRequest) :
    Inv C s₀ (h ++ [(.take req, (step C s (.take req)).2)]) (step C s (.take req)).1 := by
  cases hl : s.service.pending.lookup req.sessionID with
  | none =>
    have hstep : step C s (.take req) = (s, .refused .unknownSession) := by
      simp only [step, Service.take, hl]
    rw [hstep]
    exact hi.quiet trivial rfl rfl rfl (fun p hp => .inl hp) (fun _ _ hx => hx)
      (Nat.le_refl _) hi.completing
      (fun _ => Nat.le_refl _)
  | some x =>
    have hstep : step C s (.take req) = ({ s with
        service := { s.service with pending := s.service.pending.erase req.sessionID }
        completing := { req, session := x } :: s.completing }, .nothing) := by
          simp only [step, Service.take, hl]
    rw [hstep]
    refine hi.quiet trivial rfl rfl rfl (fun p hp => .inl hp) (fun id y hy => lookup_of_erase hy)
      (erase_length_le _ _) ?_ ?_
    · intro t ht
      rcases List.mem_cons.mp ht with hnew | hold
      · rw [hnew]
        exact hi.pending req.sessionID x hl
      · exact hi.completing t hold
    · intro id
      unfold takenCount
      rw [stored_erase]
      simp only [List.countP_cons, decide_eq_true_eq]
      by_cases hid : req.sessionID = id
      · have hone : s.service.stored id = 1 := by
          unfold Service.stored
          rw [← hid, hl]
          rfl
        rw [if_pos hid, if_pos hid.symm]
        omega
      · rw [if_neg hid, if_neg (fun hid' => hid hid'.symm)]
        omega

theorem finish_ok {ttl : Duration} {t : Taken} {der : Bytes} {deviceID : String}
    (h : finish C ttl t = .ok (der, deviceID)) :
    t.req.now - t.session.createdAt ≤ ttl ∧ t.req.recoveredSecret = t.session.secret ∧
      C.issueAIKCertificate t.session.aikPub t.session.deviceID t.req.now = .ok der ∧
      deviceID = t.session.deviceID := by
  unfold finish at h
  obtain ⟨hlive, h⟩ := except_guard_ok.mp h
  obtain ⟨hsecret, h⟩ := except_guard_ok.mp h
  cases hc : C.issueAIKCertificate t.session.aikPub t.session.deviceID t.req.now with
  | error e => rw [hc] at h; cases h
  | ok der' =>
    rw [hc] at h
    obtain ⟨rfl, rfl⟩ := Prod.mk.inj (Except.ok.inj h)
    exact ⟨Int.not_lt.mp hlive, not_not.mp hsecret, rfl, rfl⟩

theorem begun_certificate (h : History) (ev : Event) (t : Taken) (der : Bytes) (d : String) :
    begun (h ++ [(ev, .certificate t der d)]) = begun h := by
  unfold begun
  rw [List.filterMap_append]
  simp

theorem certified_certificate (h : History) (ev : Event) (t : Taken) (der : Bytes) (d : String) :
    certified (h ++ [(ev, .certificate t der d)]) = certified h ++ [t] := by
  unfold certified
  rw [List.filterMap_append]
  rfl

/-- Finishing a call takes it off the list. -/
theorem countP_erase_taken {ts : List Taken} {t : Taken} (ht : t ∈ ts) (id : String) :
    (ts.erase t).countP (fun t => t.req.sessionID = id) + (if t.req.sessionID = id then 1 else 0) =
      ts.countP fun t => t.req.sessionID = id := by
  have hperm := (List.perm_cons_erase ht).countP_eq fun t => decide (t.req.sessionID = id)
  rw [hperm, List.countP_cons]
  simp only [decide_eq_true_eq]

theorem finish_inv (hi : Inv C s₀ h s) (t : Taken) :
    Inv C s₀ (h ++ [(.finish t, (step C s (.finish t)).2)]) (step C s (.finish t)).1 := by
  by_cases ht : t ∈ s.completing
  · have hmem : ∀ t' ∈ s.completing.erase t, t' ∈ s.completing :=
      fun t' ht' => List.mem_of_mem_erase ht'
    cases hf : finish C s.service.ttl t with
    | error e =>
      have hstep : step C s (.finish t) = ({ s with completing := s.completing.erase t },
        .refused e) := by
        simp only [step, ht, not_true, if_false, hf]
      rw [hstep]
      refine hi.quiet trivial rfl rfl rfl (fun p hp => .inl hp) (fun _ _ hx => hx) (Nat.le_refl _)
        (fun t' ht' => hi.completing t' (hmem t' ht')) ?_
      intro id
      have := countP_erase_taken ht id
      unfold takenCount
      simp only
      omega
    | ok pair =>
      obtain ⟨der, deviceID⟩ := pair
      have hstep : step C s (.finish t) = ({ s with completing := s.completing.erase t },
        .certificate t der deviceID) := by
        simp only [step, ht, not_true, if_false, hf]
      rw [hstep]
      obtain ⟨hlive, hsecret, hcert, hdev⟩ := finish_ok hf
      have hb := begun_certificate h (.finish t) t der deviceID
      have hc := certified_certificate h (.finish t) t der deviceID
      refine ⟨hi.ttl, hi.maxPending, hi.pseudonymKey, hi.beginning, ?_, ?_, ?_, ?_, hi.size, ?_⟩
      · rw [hb]
        exact hi.returned
      · rw [hb]
        exact hi.pending
      · intro t' ht'
        rw [hb]
        exact hi.completing t' (hmem t' ht')
      · intro id
        have hold := hi.count id
        have hcnt := countP_erase_taken ht id
        unfold certCount beginCount takenCount at hold ⊢
        rw [hb, hc, List.countP_append, List.countP_singleton]
        simp only [decide_eq_true_eq]
        omega
      · intro pre post e t' der' deviceID' heq
        rcases append_singleton_split heq with ⟨-, hpre, hlast⟩ | ⟨post', hh⟩
        · cases hlast
          subst hpre
          obtain ⟨p, hp, hid, hsess⟩ := hi.completing t ht
          have hok := hi.returned p hp
          obtain ⟨ekPub, aikPublic, aikName, hv⟩ := hok
          refine ⟨p, hp, hid, hi.returned p hp, ?_, ?_, ?_, ?_⟩
          · rw [hsess, hsecret]
          · rw [← hv.created, hsess, ← hi.ttl]
            exact hlive
          · rw [hsess]
            exact hcert
          · rw [hsess]
            exact hdev
        · exact hi.issued pre post' e t' der' deviceID' hh
  · have hstep : step C s (.finish t) = (s, .nothing) := by
      simp only [step, ht, not_false_eq_true, if_true]
    rw [hstep]
    exact hi.quiet trivial rfl rfl rfl (fun p hp => .inl hp) (fun _ _ hx => hx)
      (Nat.le_refl _) hi.completing
      (fun _ => Nat.le_refl _)

/-- **Step.** -/
theorem step_inv (hi : Inv C s₀ h s) (e : Event) :
    Inv C s₀ (h ++ [(e, (step C s e).2)]) (step C s e).1 := by
  cases e with
  | prepare req => exact prepare_inv hi req
  | commit i => exact commit_inv hi i
  | take req => exact take_inv hi req
  | finish t => exact finish_inv hi t

end

/-! ## Whole runs -/

theorem apply_keeps {s : Service} (opt : ServiceOption) (hp : s.pending = ∅) (hm : 0 ≤ s.maxPending) :
    (opt.apply s).pending = ∅ ∧ 0 ≤ (opt.apply s).maxPending := by
  cases opt with
  | sessionTTL ttl =>
    simp only [ServiceOption.apply]
    split
    · exact ⟨hp, hm⟩
    · exact ⟨hp, hm⟩
  | maxPending n =>
    simp only [ServiceOption.apply]
    split
    · rename_i hn
      exact ⟨hp, Int.le_of_lt hn⟩
    · exact ⟨hp, hm⟩

theorem options_keep (opts : List ServiceOption) {s : Service} (hp : s.pending = ∅)
    (hm : 0 ≤ s.maxPending) :
    (opts.foldl ServiceOption.apply s).pending = ∅ ∧
    0 ≤ (opts.foldl ServiceOption.apply s).maxPending := by
  induction opts generalizing s with
  | nil => exact ⟨hp, hm⟩
  | cons opt opts ih =>
    obtain ⟨hp', hm'⟩ := apply_keeps opt hp hm
    exact ih hp' hm'

theorem newService_ok {pseudonymKey : Bytes} {opts : List ServiceOption} {s₀ : Service}
    (h : newService pseudonymKey opts = .ok s₀) : s₀.pending = ∅ ∧ 0 ≤ s₀.maxPending := by
  unfold newService at h
  obtain ⟨-, h⟩ := except_guard_ok.mp h
  rw [← Except.ok.inj h]
  exact options_keep opts rfl (by decide : (0 : Int) ≤ defaultMaxPending)

theorem run_inv {pseudonymKey : Bytes} {opts : List ServiceOption} {s₀ : Service}
    (hnew : newService pseudonymKey opts = .ok s₀) (events : List Event) :
    Inv C s₀ ((machine C).hist (start s₀) events) ((machine C).run (start s₀) events) := by
  obtain ⟨hp, hm⟩ := newService_ok hnew
  have hrun := Machine.hist_inv (M := machine C) (J := Inv C s₀) (fun h s e hi => step_inv hi e) events
    (start_inv s₀ hp hm)
  rwa [List.nil_append] at hrun

/-- **Enrollment.** For every service, every library and every interleaving
of the two parts of `Begin` and `Complete`, with any clock readings:
a certificate is issued for the AIK of a `Begin` that returned the session id
before, had verified the EK certificate and the AIK, stored the presented
secret and is not older than the time to live; an id gets at most as many
certificates as `Begin`s returned it, so one if the ids are distinct; and the
stored sessions do not exceed the maximum. -/
theorem enrollment_sound {pseudonymKey : Bytes} {opts : List ServiceOption} {s₀ : Service}
    (hnew : newService pseudonymKey opts = .ok s₀) (events : List Event) :
    (∀ pre post e t der deviceID,
      (machine C).hist (start s₀) events = pre ++ (e, .certificate t der deviceID) :: post →
        ∃ p, IssuedFor C s₀ (begun pre) t der deviceID p) ∧
    (∀ id, certCount ((machine C).hist (start s₀) events) id ≤
      beginCount ((machine C).hist (start s₀) events) id) ∧
    (((begun ((machine C).hist (start s₀) events)).map Prepared.sessionID).Nodup →
      ∀ id, certCount ((machine C).hist (start s₀) events) id ≤ 1) ∧
    (((machine C).run (start s₀) events).service.pending.keys.length : Int) ≤ s₀.maxPending := by
  have hi := run_inv (C := C) hnew events
  have hcount : ∀ id, certCount ((machine C).hist (start s₀) events) id ≤
      beginCount ((machine C).hist (start s₀) events) id := by
    intro id
    have := hi.count id
    omega
  refine ⟨hi.issued, hcount, ?_, hi.size⟩
  intro hnodup id
  have hone : beginCount ((machine C).hist (start s₀) events) id ≤ 1 := by
    have := List.nodup_iff_count_le_one.mp hnodup id
    rw [List.count, List.countP_map] at this
    exact this
  exact Nat.le_trans (hcount id) hone

/-! ## A ceremony -/

/-- A library that knows one EK certificate and one AIK. -/
def ceremonyCA : CA where
  verifyEKCertificate := fun der _ =>
    if der = [1] then .ok (.rsa { n := 2 ^ 2047 + 1, e := 65537 })
      else .error "x509: malformed certificate"
  decodePublic := fun _ => .ok
    { type := algRSA, nameAlg := algSHA256, attributes := requiredAIKAttrs
      rsaParameters := some { keyBits := 2048, sign := some algRSASSA } }
  publicName := fun _ => .ok (some [0x00, 0x0b])
  publicKey := fun _ _ => .ok (.rsa { n := 2 ^ 2047 + 3, e := 65537 })
  makeCredential := fun name _ secret => .ok (name, secret.map (· ^^^ 0xff))
  issueAIKCertificate := fun _ subjectCN _ => .ok (ascii subjectCN)

def ceremonyKey : Bytes := List.replicate 16 7

def ceremonyService : Service where
  ttl := defaultSessionTTL
  maxPending := 1
  pseudonymKey := ceremonyKey
  pending := ∅

def ceremonyBegin : BeginRequest where
  now := 0
  ekCertDER := [1]
  aikTPMTPublic := [2]
  secret := .ok [3]
  sessionID := .ok [4]

def ceremonyTaken : Taken where
  req := { now := 1000000000, sessionID := hexEncode [4], recoveredSecret := [3] }
  session :=
    { secret := [3]
      aikPub := { n := 2 ^ 2047 + 3, e := 65537 }
      deviceID := ceremonyService.deviceID { n := 2 ^ 2047 + 1, e := 65537 }
      createdAt := 0 }

/-- `Begin`, then `Complete` with the right secret, twice. -/
def ceremony : List Event :=
  [.prepare ceremonyBegin, .commit 0, .take ceremonyTaken.req, .finish ceremonyTaken,
    .take ceremonyTaken.req,
   .finish ceremonyTaken]

/-- One certificate comes of it, and the theorem says for whom. -/
theorem enrollment_sound_ceremony :
    newService ceremonyKey [.maxPending 1] = .ok ceremonyService ∧
    certCount ((machine ceremonyCA).hist (start ceremonyService) ceremony) (hexEncode [4]) = 1 ∧
    (((machine ceremonyCA).run (start ceremonyService) ceremony).service.pending.keys.length :
      Int) ≤ 1 ∧
    certCount ((machine ceremonyCA).hist (start ceremonyService) ceremony) (hexEncode [4]) ≤
      beginCount ((machine ceremonyCA).hist (start ceremonyService) ceremony) (hexEncode [4]) := by
  have hnew : newService ceremonyKey [.maxPending 1] = .ok ceremonyService := rfl
  obtain ⟨-, hcount, -, hsize⟩ := enrollment_sound (C := ceremonyCA) hnew ceremony
  exact ⟨hnew, by decide +kernel, hsize, hcount _⟩

end Lota.L5.Enroll

import Lota.L3Verifier.Interleave

/-!
# What reports at the same time agree on

The baseline store is asked once for a boot-commitment report and twice for a
legacy one, and a session token comes later still. `Held` is what an accepted
report leaves in the store, `Keeping` what every access leaves of it.

* `advance_keeping`: no access takes back what is pinned in a row.
* `advance_stands`: a report that gets its token has left its values pinned.
* `pins_agree`: as long as a client is not cleared, its accepted reports agree
  on everything the baseline store pins, whatever overlapped with them.
-/
namespace Lota.L3.Interleave
open Lota.Core Lota.L1.Report Lota.L1.Attest Lota.L1.EventLog
open Lota.L2 Lota.L2.Baseline Lota.L2.SqliteBaseline Lota.L2.Nonce Lota.L2.Revocation
open Lota.L3.BootCommitment Lota.L3.Policy Lota.L3.Signature Lota.L3.Verify

/-- The store pins this agent hash; the in-memory store takes an all-zero
hash for none. -/
def Pinnable (s : BaselineStorer) (h : Hash) : Prop :=
  match s with
  | .memory _ => h ≠ Blob.zero 32
  | .sqlite _ => True

/-- The values of a report are pinned. -/
structure Held (s : BaselineStorer) (id : Identity) : Prop where
  row : (s.pins id.clientID).pcr14 ≠ none
  agentHash : useBootCommitment id.report = true → Pinnable s id.report.system.agentHash →
    (s.pins id.clientID).agentHash = some id.report.system.agentHash
  pcr14 : useBootCommitment id.report = false → (s.pins id.clientID).pcr14 = some (pcr14Of id.report)
  boot : ∀ b, bootPCRsOf id.report = some b → (s.pins id.clientID).boot = some b

/-- What is pinned in a row stays pinned. -/
structure Keeping (client : String) (s t : BaselineStorer) : Prop where
  pins : (s.pins client).pcr14 ≠ none → (s.pins client).Keeps (t.pins client)
  pinnable : ∀ h, Pinnable t h ↔ Pinnable s h

theorem Keeping.refl (client : String) (s : BaselineStorer) : Keeping client s s :=
  ⟨fun _ => .refl _, fun _ => Iff.rfl⟩

theorem Held.keeping {s t : BaselineStorer} {id : Identity} (h : Held s id)
    (k : Keeping id.clientID s t) : Held t id := by
  have hk := k.pins h.row
  refine ⟨?_, fun hf hp => hk.agentHash _ (h.agentHash hf ((k.pinnable _).mp hp)), fun hf => ?_,
    fun b hb => hk.boot b (h.boot b hb)⟩
  · rw [hk.row h.row]
    exact h.row
  · rw [hk.row h.row]
    exact h.pcr14 hf

/-- What a report relies on when it waits for its next access. -/
def Stands (s : BaselineStorer) : Phase → Prop
  | .enrolled ev | .declared ev | .pin ev => useBootCommitment ev.id.report = true
  | .pin14 ev => useBootCommitment ev.id.report = false
  | .pinBoot ev boot => useBootCommitment ev.id.report = false ∧ bootOf ev.id.report = some boot ∧
      (s.pins ev.id.clientID).pcr14 = some (pcr14Of ev.id.report)
  | .token ev => Held s ev.id
  | .revocation _ | .ban _ | .nonce _ | .policy _ => True

theorem Stands.keeping {s t : BaselineStorer} {p : Phase} (h : Stands s p)
    (k : Keeping p.id.clientID s t) : Stands t p := by
  cases p with
  | revocation id | ban id | nonce id | policy id => trivial
  | enrolled ev | declared ev | pin ev | pin14 ev => exact h
  | pinBoot ev boot =>
    have hrow : (s.pins ev.id.clientID).pcr14 ≠ none := by rw [h.2.2]; exact Option.some_ne_none _
    exact ⟨h.1, h.2.1, ((k.pins hrow).row hrow).trans h.2.2⟩
  | token ev => exact Held.keeping h k

/-! ## Accesses -/

/-- One client's pins change as `f` says, the store stays the same kind. -/
theorem keeping_of_update {client c : String} {s t : BaselineStorer} {p : Pins Hash BootPCRs}
    (hpins : t.pins = Function.update s.pins c p) (hp : (s.pins c).pcr14 ≠ none → (s.pins c).Keeps p)
    (hkind : ∀ h, Pinnable t h ↔ Pinnable s h) : Keeping client s t := by
  refine ⟨fun hrow => ?_, hkind⟩
  rw [hpins]
  by_cases hc : client = c
  · subst hc
    rw [Function.update_self]
    exact hp hrow
  · rw [Function.update_of_ne hc]
    exact .refl _

theorem attest_keeping (client : String) (s : BaselineStorer) (f : Faults) (c : String) (q a : Hash)
    (boot : Option BootBaseline) (now : Time) :
    Keeping client s (s.checkAndUpdateAttestation f c q a boot now).1 := by
  have hkind : ∀ h, Pinnable (s.checkAndUpdateAttestation f c q a boot now).1 h ↔ Pinnable s h := by
    cases s <;> exact fun _ => Iff.rfl
  rcases s.checkAndUpdateAttestation_shown f c q a boot now with ⟨hsame, -⟩ | ⟨hpins, -⟩
  · rw [hsame]
    exact .refl client s
  · refine keeping_of_update hpins (fun hrow => ?_) hkind
    have hk := Pins.attest_keeps (s.pins_wf c) q a (boot.map BootBaseline.pcrs) fun hn => absurd hn hrow
    refine ⟨fun h => ?_, fun h hh => ?_, fun b hb => ?_⟩
    · rw [BaselineStorer.shown_pcr14]
      exact hk.row h
    · exact BaselineStorer.shown_agentHash hh (hk.agentHash h hh)
    · rw [BaselineStorer.shown_boot]
      exact hk.boot b hb

theorem check_keeping (client : String) (s : BaselineStorer) (f : Faults) (c : String) (q : Hash)
    (now : Time) : Keeping client s (s.checkAndUpdate f c q now).1 := by
  have hkind : ∀ h, Pinnable (s.checkAndUpdate f c q now).1 h ↔ Pinnable s h := by
    cases s <;> exact fun _ => Iff.rfl
  rcases s.checkAndUpdate_pins f c q now with ⟨hsame, -⟩ | ⟨hpins, -⟩
  · rw [hsame]
    exact .refl client s
  · exact keeping_of_update hpins (fun _ => Pins.check_keeps _ q) hkind

theorem boot_keeping (client : String) (s : BaselineStorer) (f : Faults) (c : String)
    (b : BootBaseline) (now : Time) : Keeping client s (s.checkAndUpdateBootPCRs f c b now).1 := by
  have hkind : ∀ h, Pinnable (s.checkAndUpdateBootPCRs f c b now).1 h ↔ Pinnable s h := by
    cases s <;> exact fun _ => Iff.rfl
  rcases s.checkAndUpdateBootPCRs_pins f c b now with ⟨hsame, -⟩ | ⟨hpins, -⟩
  · rw [hsame]
    exact .refl client s
  · exact keeping_of_update hpins (fun _ => Pins.checkBoot_keeps _ _) hkind

section
variable {K : Crypto} {v : Verifier} {c : Report}

/-- **Accesses keep pins.** -/
theorem advance_keeping (client : String) (v : Verifier) (c : Report) (p : Phase) :
    Keeping client v.baselineStore (advance K v c p).1.baselineStore := by
  cases p with
  | pin ev => exact attest_keeping ..
  | pin14 ev => exact check_keeping ..
  | pinBoot ev boot => exact boot_keeping ..
  | token ev =>
    show Keeping client v.baselineStore (issueToken v c.env ev.id).1.baselineStore
    rw [issueToken_frame]
    exact .refl ..
  | revocation id | ban id | nonce id | policy id => exact .refl ..
  | enrolled ev | declared ev => exact .refl ..

theorem check_accepted {p : Pins Hash BootPCRs} {q : Hash} (h : (p.check q).2.1.refused = false) :
    (p.check q).1.pcr14 = some q := by
  unfold Pins.check at h ⊢
  split
  · rfl
  · rename_i s hs
    by_cases he : s = q
    · rw [hs, he]
    · simp [hs, he, TOFUResult.refused] at h

theorem bootPCRsOf_of_bootOf {report : AttestationReport} {boot : BootBaseline}
    (h : bootOf report = some boot) : bootPCRsOf report = some boot.pcrs := by
  unfold bootPCRsOf
  rw [h]
  rfl

/-- The store has taken a boot-commitment report. -/
theorem held_of_attest {ev : Evidence} (hflag : useBootCommitment ev.id.report = true)
    (hok : judgeAttestation v (attestCall v c.env ev).2 = .ok ()) :
    Held (attestCall v c.env ev).1 ev.id := by
  have hhalf : (attestCall v c.env ev).2.BootHalf (bootOf ev.id.report) :=
    v.baselineStore.checkAndUpdateAttestation_bootHalf ..
  rcases attestCall_pins v c.env ev with ⟨-, hr⟩ | ⟨hagree, -, hpins, -⟩
  · rw [((judgeAttestation_ok hhalf).mp hok).1] at hr
    cases hr
  have hacc := Pins.attest_accepted hagree
  have hmine : (attestCall v c.env ev).1.pins ev.id.clientID = v.baselineStore.shown
      (attestPins v ev).1 := by
    rw [hpins, Function.update_self]
  refine ⟨?_, fun _ hp => ?_, fun hf => ?_, fun b hb => ?_⟩
  · rw [hmine, BaselineStorer.shown_pcr14, attestPins, Pins.attest_pcr14]
    exact Option.some_ne_none _
  · have hp' : Pinnable v.baselineStore ev.id.report.system.agentHash :=
      ((attest_keeping ev.id.clientID v.baselineStore ..).pinnable _).mp hp
    rw [hmine]
    cases hs : v.baselineStore with
    | sqlite db => exact hacc.1
    | memory m =>
      rw [hs] at hp'
      exact BaselineStorer.shown_pinnable hp' hacc.1
  · rw [hflag] at hf
    cases hf
  · rw [hmine, BaselineStorer.shown_boot]
    have hor : (attestPins v ev).1.boot = _ := hacc.2
    rw [hor, hb]
    rfl

end

section
variable {K : Crypto} {v : Verifier} {c : Report}

theorem orGo_inl {α : Type} {x : Except Refusal α} {go : α → Next} {p : Phase}
    (h : orGo x go = .inl p) : ∃ a, x = .ok a ∧ go a = .inl p := by
  cases x with
  | error r => exact nomatch h
  | ok a => exact ⟨a, rfl, h⟩

theorem commitment_stands {s : BaselineStorer} {ev : Evidence} {p : Phase}
    (hflag : useBootCommitment ev.id.report = true)
    (h : commitment v ev = .inl p) : Stands s p := by
  unfold commitment at h
  split at h
  · exact nomatch h
  · obtain ⟨-, -, h⟩ := orGo_inl h
    split at h
    · cases h; exact hflag
    · cases h; exact hflag

/-- A call is about one device from its beginning to its end. -/
theorem advance_id {p p' : Phase} (hnext : (advance K v c p).2 = .inl p') : p'.id = p.id := by
  rcases advance_nonce (K := K) v c p with ⟨id, rfl, -, ⟨-, hgo⟩ | ⟨-, r', -, hgo, -⟩⟩ |
      ⟨-, (⟨p'', hgo, hid, -⟩ | ⟨r', hgo, -⟩) | ⟨ev, r', rfl, hgo⟩⟩
  · rw [hgo] at hnext
    cases hnext
    rfl
  · rw [hgo] at hnext
    exact nomatch hnext
  · rw [hgo] at hnext
    cases hnext
    exact hid
  · rw [hgo] at hnext
    exact nomatch hnext
  · rw [hgo] at hnext
    exact nomatch hnext

/-- The report without the commitment has PCR 14 in its row. -/
theorem pin14_stands {ev : Evidence} {p' : Phase} (hflag : useBootCommitment ev.id.report = false)
    (hnext : (advance K v c (.pin14 ev)).2 = .inl p') :
    Stands (advance K v c (.pin14 ev)).1.baselineStore p' := by
  obtain ⟨u, hok, hnext⟩ := orGo_inl hnext
  have hacc := judgePCR14_ok.mp hok
  have hrow : ((advance K v c (.pin14 ev)).1.baselineStore.pins ev.id.clientID).pcr14 =
      some (pcr14Of ev.id.report) := by
    rcases v.baselineStore.checkAndUpdate_pins c.env.baselineFaults ev.id.clientID
      (pcr14Of ev.id.report)
      c.env.baselineNow with ⟨-, herr, -⟩ | ⟨hpins, hres, -⟩
    · have hacc' :
          (v.baselineStore.checkAndUpdate c.env.baselineFaults ev.id.clientID (pcr14Of ev.id.report)
        c.env.baselineNow).2.1.refused = false := hacc
      rw [herr] at hacc'
      cases hacc'
    · show ((v.baselineStore.checkAndUpdate c.env.baselineFaults ev.id.clientID (pcr14Of ev.id.report)
        c.env.baselineNow).1.pins ev.id.clientID).pcr14 = _
      rw [hpins, Function.update_self]
      exact check_accepted (hres ▸ hacc)
  split at hnext
  · rename_i hboot
    cases hnext
    refine ⟨by rw [hrow]; exact Option.some_ne_none _, fun hf => ?_, fun _ => hrow, fun b hb => ?_⟩
    · rw [hflag] at hf
      cases hf
    · rw [bootPCRsOf, hboot] at hb
      cases hb
  · rename_i boot hboot
    cases hnext
    exact ⟨hflag, hboot, hrow⟩

/-- The boot registers join it there. -/
theorem pinBoot_stands {ev : Evidence} {boot : BootBaseline} {p' : Phase}
    (hs : Stands v.baselineStore (.pinBoot ev boot))
    (hnext : (advance K v c (.pinBoot ev boot)).2 = .inl p') :
    Stands (advance K v c (.pinBoot ev boot)).1.baselineStore p' := by
  obtain ⟨hflag, hboot, hrow⟩ := hs
  obtain ⟨u, hok, hnext⟩ := orGo_inl hnext
  cases hnext
  have hacc := judgeBootPCRs_ok.mp hok
  have hkeep :
      Keeping ev.id.clientID v.baselineStore (advance K v c (.pinBoot ev boot)).1.baselineStore :=
    advance_keeping ..
  have hsome : (v.baselineStore.pins ev.id.clientID).pcr14 ≠ none := by
    rw [hrow]; exact Option.some_ne_none _
  have hrow' := ((hkeep.pins hsome).row hsome).trans hrow
  refine ⟨by rw [hrow']; exact Option.some_ne_none _, fun hf => ?_, fun _ => hrow', fun b hb => ?_⟩
  · rw [hflag] at hf
    cases hf
  · rw [bootPCRsOf_of_bootOf hboot] at hb
    cases hb
    rcases v.baselineStore.checkAndUpdateBootPCRs_pins c.env.bootFaults ev.id.clientID boot
      c.env.bootNow with
      ⟨-, herr, -⟩ | ⟨hpins, hres, -⟩
    · rw [herr] at hacc
      cases hacc
    · show ((v.baselineStore.checkAndUpdateBootPCRs c.env.bootFaults ev.id.clientID boot
          c.env.bootNow).1.pins
        ev.id.clientID).boot = _
      rw [hpins, Function.update_self]
      exact Pins.checkBoot_accepted (hres ▸ hacc)

/-- **Phases.** A report that goes on stands where it is now. -/
theorem advance_stands {p p' : Phase} (hs : Stands v.baselineStore p)
    (hnext : (advance K v c p).2 = .inl p') : Stands (advance K v c p).1.baselineStore p' := by
  cases p with
  | revocation id =>
    unfold advance at hnext
    dsimp only at hnext
    split at hnext
    · cases hnext
    · cases hnext; trivial
  | ban id =>
    unfold advance at hnext
    dsimp only at hnext
    split at hnext
    · cases hnext
    · cases hnext; trivial
  | nonce id =>
    unfold advance at hnext
    dsimp only at hnext
    split at hnext
    · cases hnext
    · cases hnext; trivial
  | policy id =>
    obtain ⟨attest, -, hnext⟩ := orGo_inl hnext
    obtain ⟨-, -, hnext⟩ := orGo_inl hnext
    split at hnext
    · rename_i hflag
      exact commitment_stands hflag hnext
    · rename_i hflag
      cases hnext
      exact Bool.eq_false_iff.mpr hflag
  | enrolled ev =>
    unfold advance at hnext
    dsimp only at hnext
    split at hnext
    · cases hnext; exact hs
    · cases hnext; exact hs
  | declared ev =>
    unfold advance at hnext
    dsimp only at hnext
    split at hnext
    · cases hnext; exact hs
    · cases hnext
  | pin ev =>
    obtain ⟨u, hok, hnext⟩ := orGo_inl hnext
    cases hnext
    exact held_of_attest hs hok
  | pin14 ev => exact pin14_stands hs hnext
  | pinBoot ev boot => exact pinBoot_stands hs hnext
  | token ev => cases hnext

/-- A report is accepted where it asks for its token, and its values are
pinned then. -/
theorem advance_accepts {p : Phase} {r : Verify.Reply} (hs : Stands v.baselineStore p)
    (hnext : (advance K v c p).2 = .inr r) (ha : r.accepted = true) : Held v.baselineStore p.id := by
  rcases advance_nonce (K := K) v c p with ⟨id, rfl, -, ⟨-, hgo⟩ | ⟨-, r', -, hgo, hr⟩⟩ | ⟨-,
    hsame | ⟨ev, r', rfl, -⟩⟩
  · rw [hgo] at hnext
    exact nomatch hnext
  · rw [hgo] at hnext
    cases hnext
    rw [hr] at ha
    cases ha
  · rcases hsame with ⟨p', hgo, -⟩ | ⟨r', hgo, hr⟩
    · rw [hgo] at hnext
      exact nomatch hnext
    · rw [hgo] at hnext
      cases hnext
      rw [hr] at ha
      cases ha
  · exact hs

end

/-! ## Runs -/

/-- The step clears the baseline of this client. -/
def Ev.clears (client : String) : Ev → Bool
  | .admin (.clearBaseline _ clientID) => clientID = client
  | _ => false

/-- The reports of one client, in flight and accepted, stand behind what the
store has pinned. -/
structure Agreeing (K : Crypto) (client : String) (h : List Event) (s : Sys) : Prop where
  threads : ∀ k c p, s.threads.lookup k = some (.report c p) →
    identify K c.env c.data = .ok p.id ∧ (p.id.clientID = client → Stands s.v.baselineStore p)
  verdicts : ∀ e c r id, (e, Out.verdict c r) ∈ h → r.accepted = true →
    identify K c.env c.data = .ok id → id.clientID = client → Held s.v.baselineStore id

section
variable {K : Crypto} {client : String} {h : List Event} {s : Sys}

/-- A step that keeps the pins, whose threads are accounted for and whose
verdict, if it is an acceptance, is held. -/
theorem Agreeing.next (hs : Agreeing K client h s) {t : Sys} {x : Event}
    (hk : Keeping client s.v.baselineStore t.v.baselineStore)
    (hthreads : ∀ k c p, t.threads.lookup k = some (.report c p) →
      s.threads.lookup k = some (.report c p) ∨
      identify K c.env c.data = .ok p.id ∧ (p.id.clientID = client → Stands t.v.baselineStore p))
    (hverdict : ∀ e c r id, x = (e, Out.verdict c r) → r.accepted = true →
      identify K c.env c.data = .ok id →
      id.clientID = client → Held t.v.baselineStore id) : Agreeing K client (h ++ [x]) t := by
  refine ⟨fun k c p hl => ?_, fun e c r id hmem ha hid hc => ?_⟩
  · rcases hthreads k c p hl with hold | hnew
    · obtain ⟨hid, hst⟩ := hs.threads k c p hold
      exact ⟨hid, fun hc => (hst hc).keeping (hc ▸ hk)⟩
    · exact hnew
  · rcases List.mem_append.mp hmem with hold | hnew
    · exact (hs.verdicts e c r id hold ha hid hc).keeping (hc ▸ hk)
    · exact hverdict e c r id (List.mem_singleton.mp hnew).symm ha hid hc

/-- Call `n` is where `next` says. -/
theorem Agreeing.proceed (hs : Agreeing K client h s) (e : Ev) {v : Verifier}
    {threads : GoMap Nat Thread} {n : Nat}
    {c : Report} {next : Next} (hk : Keeping client s.v.baselineStore v.baselineStore)
    (hsub : ∀ k t, threads.lookup k = some t → s.threads.lookup k = some t)
    (hgo : ∀ p, next = .inl p → identify K c.env c.data = .ok p.id ∧
      (p.id.clientID = client → Stands v.baselineStore p))
    (hret : ∀ r id, next = .inr r → r.accepted = true → identify K c.env c.data = .ok id →
      id.clientID = client → Held v.baselineStore id) :
    Agreeing K client (h ++ [(e, (proceed v threads n c next).2)]) (proceed v threads n c next).1 := by
  cases next with
  | inl p =>
    refine hs.next hk (fun k c' p' hl => ?_) (fun _ _ _ _ he => nomatch he)
    have hl' : (threads.insert n (.report c p)).lookup k = some (.report c' p') := hl
    rw [lookup_insert_ite] at hl'
    split at hl'
    · cases hl'
      exact .inr (hgo p rfl)
    · exact .inl (hsub k _ hl')
  | inr r =>
    refine hs.next hk (fun k c' p' hl => .inl (hsub k _ hl)) fun e' c' r' id he ha hid hc => ?_
    cases he
    exact hret r id rfl ha hid hc

/-- A step without a verdict that leaves the baseline store and the reports in
flight alone. -/
theorem Agreeing.silent (hs : Agreeing K client h s) (t : Sys) (x : Event)
    (hx : ∀ c r, x.2 ≠ .verdict c r)
    (hv : t.v.baselineStore = s.v.baselineStore)
    (hsub : ∀ k c p, t.threads.lookup k = some (.report c p) →
      s.threads.lookup k = some (.report c p)) :
    Agreeing K client (h ++ [x]) t := by
  refine hs.next ?_ (fun k c p hl => .inl (hsub k c p hl)) fun e c r id he => ?_
  · rw [hv]
    exact .refl ..
  · rw [he] at hx
    exact absurd rfl (hx c r)

theorem clearBaseline_pinnable (b : BaselineStorer) (f : Faults) (clientID : String) :
    ∀ h, Pinnable (b.clearBaseline f clientID) h ↔ Pinnable b h := by
  cases b <;> exact fun _ => Iff.rfl

/-- **Step.** -/
theorem step_agreeing (hs : Agreeing K client h s) (e : Ev) (hclear : e.clears client = false) :
    Agreeing K client (h ++ [(e, (step K s e).2)]) (step K s e).1 := by
  have hquiet : ∀ c r, Out.quiet ≠ .verdict c r := fun _ _ => nofun
  have hstay : Agreeing K client (h ++ [(e, .quiet)]) s := hs.silent s _ hquiet rfl fun _ _ _ hl => hl
  have hchallenge : ∀ (threads : GoMap Nat Thread) n t, (∀ c p, t ≠ .report c p) →
      (∀ k t, threads.lookup k = some t → s.threads.lookup k = some t) →
      ∀ k c p, (threads.insert n t).lookup k = some (.report c p) →
      s.threads.lookup k = some (.report c p) := by
    intro threads n t ht hsub k c p hl
    rw [lookup_insert_ite] at hl
    split at hl
    · exact absurd (Option.some.inj hl) (ht c p)
    · exact hsub k _ hl
  cases e with
  | report n c =>
    unfold step
    dsimp only
    split
    · exact hstay
    · refine hs.proceed _ (.refl ..) (fun _ _ hl => hl) (fun p hp => ?_) fun r id hr ha hid => ?_
      · obtain ⟨id, hid, hp⟩ := orGo_inl hp
        cases hp
        exact ⟨hid, fun _ => trivial⟩
      · unfold enter at hr
        rw [hid] at hr
        exact nomatch hr
  | challenge n env clientID =>
    unfold step
    dsimp only
    split
    · exact hstay
    · exact hs.silent _ _ hquiet rfl (hchallenge s.threads n _ (fun _ _ => nofun) fun _ _ hl => hl)
  | go n =>
    unfold step
    dsimp only
    cases ht : s.threads.lookup n with
    | none => exact hstay
    | some t =>
      dsimp only
      cases t with
      | report c p =>
        obtain ⟨hid, hst⟩ := hs.threads n c p ht
        refine hs.proceed _ (advance_keeping client s.v c p) (fun _ _ hl => lookup_of_erase hl)
          (fun p' hp' => ?_)
          fun r id hr ha hid' hc => ?_
        · have hsame := advance_id hp'
          exact ⟨hsame ▸ hid, fun hc => advance_stands (hst (hsame ▸ hc)) hp'⟩
        · rw [hid] at hid'
          cases hid'
          have hheld := advance_accepts (hst hc) hr ha
          exact hheld.keeping (hc ▸ advance_keeping client s.v c p)
      | asked env clientID =>
        exact hs.silent _ _ hquiet
          rfl (hchallenge _ n _ (fun _ _ => nofun) fun _ _ hl => lookup_of_erase hl)
      | masked env clientID mask =>
        exact hs.silent _ _ (fun _ _ => nofun) rfl fun _ _ _ hl => lookup_of_erase hl
  | admin a =>
    cases a with
    | clearBaseline f clientID =>
      have hne : client ≠ clientID := by
        intro he
        simp [Ev.clears, he] at hclear
      refine hs.next ⟨fun _ => ?_, ?_⟩ (fun _ _ _ hl => .inl hl) fun _ _ _ _ he => nomatch he
      · show Pins.Keeps _ ((s.v.baselineStore.clearBaseline f clientID).pins client)
        rcases s.v.baselineStore.clearBaseline_pins f clientID with ⟨hsame, -⟩ | hpins
        · rw [hsame]
          exact .refl _
        · rw [hpins, Function.update_of_ne hne]
          exact .refl _
      · exact clearBaseline_pinnable s.v.baselineStore f clientID
    | cleanup now deleteFails => exact hs.silent _ _ hquiet rfl fun _ _ _ hl => hl
    | addPolicy policy => exact hs.silent _ _ hquiet rfl fun _ _ _ hl => hl
    | setActivePolicy name => exact hs.silent _ _ hquiet rfl fun _ _ _ hl => hl
    | enforce revocations bans => exact hs.silent _ _ hquiet rfl fun _ _ _ hl => hl

/-- **Run.** -/
theorem run_agreeing (K : Crypto) (client : String) (v : Verifier) (evs : List Ev)
    (hclear : ∀ e ∈ evs, e.clears client = false) :
    Agreeing K client ((verifier K).hist ⟨v, ∅⟩ evs) ((verifier K).run ⟨v, ∅⟩ evs) := by
  have h0 : Agreeing K client [] ⟨v, ∅⟩ := by
    refine ⟨fun k c p hl => ?_, fun _ _ _ _ hmem => nomatch hmem⟩
    rw [AList.lookup_empty] at hl
    exact nomatch hl
  have hrun := Machine.hist_inv (M := verifier K)
    (J := fun h s => (∀ x ∈ h, x.1.clears client = false) → Agreeing K client h s)
    (fun h s e hs hc => step_agreeing (hs fun x hx => hc x (List.mem_append_left _ hx)) e
      (hc (e, _) (List.mem_append_right _ (List.mem_singleton.mpr rfl))))
    evs fun _ => h0
  refine hrun fun x hx => hclear x.1 ?_
  rw [List.nil_append] at hx
  have hin := List.mem_map_of_mem (f := Prod.fst) hx
  rwa [Machine.hist_fst] at hin

/-- The store stays the kind it is. -/
theorem step_pinnable (s : Sys) (e : Ev) (h : Hash) :
    Pinnable (step K s e).1.v.baselineStore h ↔ Pinnable s.v.baselineStore h := by
  have hproceed : ∀ v threads n c next, (proceed v threads n c next).1.v = v := by
    intro v threads n c next
    cases next <;> rfl
  cases e with
  | report n c =>
    unfold step
    dsimp only
    split
    · exact Iff.rfl
    · rw [hproceed]
  | challenge n env clientID =>
    unfold step
    dsimp only
    split <;> exact Iff.rfl
  | go n =>
    unfold step
    dsimp only
    cases s.threads.lookup n with
    | none => exact Iff.rfl
    | some t =>
      cases t with
      | report c p =>
        show Pinnable (proceed (advance K s.v c p).1 _ n c (advance K s.v c p).2).1.v.baselineStore
            h ↔ _
        rw [hproceed]
        exact (advance_keeping "" s.v c p).pinnable h
      | asked env clientID => exact Iff.rfl
      | masked env clientID mask => exact Iff.rfl
  | admin a =>
    cases a with
    | clearBaseline f clientID => exact clearBaseline_pinnable s.v.baselineStore f clientID h
    | cleanup now deleteFails => exact Iff.rfl
    | addPolicy policy => exact Iff.rfl
    | setActivePolicy name => exact Iff.rfl
    | enforce revocations bans => exact Iff.rfl

theorem run_pinnable (s : Sys) (evs : List Ev) (h : Hash) :
    Pinnable ((verifier K).run s evs).v.baselineStore h ↔ Pinnable s.v.baselineStore h := by
  induction evs generalizing s with
  | nil => exact Iff.rfl
  | cons e evs ih => exact (ih _).trans (step_pinnable s e h)

end

/-- **One client, one set of pins.** Any number of reports and challenges, in
any order of their accesses to the stores. As long as a client is not cleared,
two accepted reports of the client carry the same agent hash if both set
`FlagBootCommitmentV1`, the same PCR 14 if neither does, and the same boot
registers if both quote them. An all-zero agent hash is none to the in-memory
store. -/
theorem pins_agree (K : Crypto) (v : Verifier) (client : String) (evs : List Ev)
    (hclear : ∀ e ∈ evs, e.clears client = false) {e₁ e₂ : Ev} {c₁ c₂ : Report}
    {r₁ r₂ : Verify.Reply} {id₁ id₂ : Identity}
    (h₁ : (e₁, Out.verdict c₁ r₁) ∈ (verifier K).hist ⟨v, ∅⟩ evs)
    (h₂ : (e₂, Out.verdict c₂ r₂) ∈ (verifier K).hist ⟨v, ∅⟩ evs)
    (ha₁ : r₁.accepted = true) (ha₂ : r₂.accepted = true)
    (hi₁ : identify K c₁.env c₁.data = .ok id₁) (hi₂ : identify K c₂.env c₂.data = .ok id₂)
    (hc₁ : id₁.clientID = client) (hc₂ : id₂.clientID = client) :
    (useBootCommitment id₁.report = true → useBootCommitment id₂.report = true →
      Pinnable v.baselineStore id₁.report.system.agentHash →
      Pinnable v.baselineStore id₂.report.system.agentHash →
      id₁.report.system.agentHash = id₂.report.system.agentHash) ∧
    (useBootCommitment id₁.report = false → useBootCommitment id₂.report = false →
      pcr14Of id₁.report = pcr14Of id₂.report) ∧
    ∀ b₁ b₂, bootPCRsOf id₁.report = some b₁ → bootPCRsOf id₂.report = some b₂ → b₁ = b₂ := by
  have hag := run_agreeing K client v evs hclear
  have g₁ := hag.verdicts e₁ c₁ r₁ id₁ h₁ ha₁ hi₁ hc₁
  have g₂ := hag.verdicts e₂ c₂ r₂ id₂ h₂ ha₂ hi₂ hc₂
  have hcc : id₂.clientID = id₁.clientID := hc₂.trans hc₁.symm
  refine ⟨fun f₁ f₂ p₁ p₂ => ?_, fun f₁ f₂ => ?_, fun b₁ b₂ hb₁ hb₂ => ?_⟩
  · have hh := g₂.agentHash f₂ ((run_pinnable ⟨v, ∅⟩ evs _).mpr p₂)
    rw [hcc, g₁.agentHash f₁ ((run_pinnable ⟨v, ∅⟩ evs _).mpr p₁)] at hh
    exact Option.some.inj hh
  · have hh := g₂.pcr14 f₂
    rw [hcc, g₁.pcr14 f₁] at hh
    exact Option.some.inj hh
  · have hh := g₂.boot b₂ hb₂
    rw [hcc, g₁.boot b₁ hb₁] at hh
    exact Option.some.inj hh

/-! ## Calls one after the other -/

section
variable {K : Crypto} {v v' : Verifier} {c : Report} {r : Verify.Reply}

theorem erase_insert_empty (n : Nat) (t : Thread) :
    ((∅ : GoMap Nat Thread).insert n t).erase n = ∅ := by
  refine AList.ext ?_
  show List.kerase n ((∅ : GoMap Nat Thread).insert n t).entries = []
  rw [AList.entries_insert_of_notMem (AList.notMem_empty n)]
  exact List.kerase_cons_eq rfl

theorem replicate_go_idle (n k : Nat) :
    (verifier K).run ⟨v, ∅⟩ (List.replicate k (.go n)) = ⟨v, ∅⟩ := by
  induction k with
  | zero => rfl
  | succ k ih => exact ih

/-- A call that nobody interrupts gives the verdict of `alone`. -/
theorem run_alone (n : Nat) :
    ∀ (k : Nat) (v : Verifier) (p : Phase), alone K c k v (.inl p) = some (v', r) →
    (verifier K).run ⟨v, (∅ : GoMap Nat Thread).insert n (.report c p)⟩
    (List.replicate k (.go n)) = ⟨v', ∅⟩ ∧
      (.go n, .verdict c r) ∈ (verifier K).hist ⟨v, (∅ : GoMap Nat Thread).insert n (.report c p)⟩
      (List.replicate k (.go n)) := by
  intro k
  induction k with
  | zero => exact fun v p h => nomatch h
  | succ k ih =>
    intro v p h
    have hstep : (verifier K).step ⟨v, (∅ : GoMap Nat Thread).insert n (.report c p)⟩ (.go n) =
        proceed (advance K v c p).1 ∅ n c (advance K v c p).2 := by
      dsimp only [verifier, step]
      rw [AList.lookup_insert]
      dsimp only [goThread]
      rw [erase_insert_empty]
    have hrun : alone K c k (advance K v c p).1 (advance K v c p).2 = some (v', r) := h
    simp only [List.replicate_succ, Machine.run, Machine.hist, hstep]
    cases hnext : (advance K v c p).2 with
    | inl p' =>
      rw [hnext] at hrun
      obtain ⟨h1, h2⟩ := ih _ p' hrun
      exact ⟨h1, List.mem_cons_of_mem _ h2⟩
    | inr r' =>
      rw [hnext, alone_returned] at hrun
      cases hrun
      exact ⟨replicate_go_idle n k, List.mem_cons_self ..⟩

/-- A report that is let through on its own. -/
def reportAlone (n : Nat) (c : Report) : List Ev := .report n c :: List.replicate 8 (.go n)

theorem run_reportAlone (n : Nat) {id : Identity} (hid : identify K c.env c.data = .ok id) :
    (verifier K).run ⟨v, ∅⟩ (reportAlone n c) = ⟨(verifyReport K v c.env c.challengeID c.data).1, ∅⟩ ∧
      (.go n, .verdict c (verifyReport K v c.env c.challengeID c.data).2) ∈ (verifier K).hist ⟨v, ∅⟩
      (reportAlone n c) := by
  have hone := alone_eq K v c
  have henter : enter K c = .inl (.revocation id) := by
    unfold enter
    rw [hid]
    rfl
  have hstep : (verifier K).step ⟨v, ∅⟩ (.report n c) =
      (⟨v, (∅ : GoMap Nat Thread).insert n (.report c (.revocation id))⟩, .quiet) := by
    dsimp only [verifier, step]
    rw [AList.lookup_empty, henter]
    rfl
  rw [henter] at hone
  obtain ⟨h1, h2⟩ := run_alone n 8 v _ hone
  simp only [reportAlone, Machine.run, Machine.hist, hstep]
  exact ⟨h1, List.mem_cons_of_mem _ h2⟩

/-- A challenge that is let through on its own. -/
def challengeAlone (n : Nat) (env : GenerateEnv) (clientID : String) : List Ev :=
  [.challenge n env clientID, .go n, .go n]

theorem run_challengeAlone (n : Nat) (env : GenerateEnv) (clientID : String) :
    (verifier K).run ⟨v, ∅⟩ (challengeAlone n env clientID) =
    ⟨(generateChallenge v env clientID).1, ∅⟩ := by
  have hstep : ∀ (v : Verifier) t, (verifier K).step ⟨v, (∅ : GoMap Nat Thread).insert n t⟩ (.go n) =
      goThread K ⟨v, (∅ : GoMap Nat Thread).insert n t⟩ n t := by
    intro v t
    dsimp only [verifier, step]
    rw [AList.lookup_insert]
  have hask : (verifier K).step ⟨v, ∅⟩ (.challenge n env clientID) =
      (⟨v, (∅ : GoMap Nat Thread).insert n (.asked env clientID)⟩, .quiet) := by
    dsimp only [verifier, step]
    rw [AList.lookup_empty]
    rfl
  simp only [challengeAlone, Machine.run, hask, hstep, goThread, erase_insert_empty]
  rfl

end

section
open Lota.L3.Runs

def agentReport (n : Nonce) : Report := ⟨honestEnv, "", wireReport (commitDevice n agentA).report⟩

/-- A challenge to agent A and its report. -/
def visit (k : Nat) (n : Nonce) : List Ev :=
  challengeAlone k (drawing n) "" ++ reportAlone k (agentReport n)

theorem visit_run (v : Verifier) (k : Nat) (n : Nonce) :
    (verifier rsaCrypto).run ⟨v, ∅⟩ (visit k n) = ⟨round v (commitDevice n agentA), ∅⟩ ∧
      (.go k, .verdict (agentReport n)
        (verifyReport rsaCrypto (Runs.run v (challengeTo (commitDevice n agentA))) honestEnv ""
        (wireReport (commitDevice n agentA).report)).2) ∈ (verifier rsaCrypto).hist ⟨v, ∅⟩
        (visit k n) := by
  have hchallenge : Runs.run v (challengeTo (commitDevice n agentA)) =
      (generateChallenge v (drawing n) "").1 := rfl
  obtain ⟨h1, h2⟩ :=
    run_reportAlone (v := (generateChallenge v (drawing n) "").1) (c := agentReport n) k
    (identify_agentDevice ..)
  rw [round_eq, call_report, hchallenge]
  constructor
  · rw [visit, Machine.run_append, run_challengeAlone, h1]
    dsimp only [agentReport]
  · rw [visit, Machine.hist_append, run_challengeAlone]
    exact List.mem_append_right _ h2

theorem visit_clears (k : Nat) (n : Nonce) : ∀ e ∈ visit k n, e.clears Device.name = false := by
  intro e he
  simp only [visit, challengeAlone, reportAlone, List.replicate] at he
  simp only [List.cons_append, List.nil_append, List.mem_cons, List.not_mem_nil, or_false] at he
  rcases he with rfl | rfl | rfl | rfl | rfl | rfl | rfl | rfl | rfl | rfl | rfl | rfl <;> rfl

theorem agentA_pinnable : Pinnable (openVerifier (laxConfig false)).baselineStore agentA := by
  show agentA ≠ Blob.zero 32
  decide

/-- Agent A attests twice. -/
theorem pins_agree_twice :
    (∃ r₁, (Ev.go 1, Out.verdict (agentReport nonce1) r₁) ∈
      (verifier rsaCrypto).hist ⟨openVerifier (laxConfig false), ∅⟩
      (visit 1 nonce1 ++ visit 2 nonce2) ∧ r₁.accepted = true) ∧
    (∃ r₂, (Ev.go 2, Out.verdict (agentReport nonce2) r₂) ∈
      (verifier rsaCrypto).hist ⟨openVerifier (laxConfig false), ∅⟩
      (visit 1 nonce1 ++ visit 2 nonce2) ∧ r₂.accepted = true) ∧
    (commitDevice nonce1 agentA).identity.report.system.agentHash =
      (commitDevice nonce2 agentA).identity.report.system.agentHash := by
  obtain ⟨hrun, hv₁⟩ := visit_run (openVerifier (laxConfig false)) 1 nonce1
  obtain ⟨hrun₂, hv₂⟩ := visit_run pinnedVerifier 2 nonce2
  have hhist : (verifier rsaCrypto).hist ⟨openVerifier (laxConfig false), ∅⟩
      (visit 1 nonce1 ++ visit 2 nonce2) =
      (verifier rsaCrypto).hist ⟨openVerifier (laxConfig false), ∅⟩ (visit 1 nonce1) ++
        (verifier rsaCrypto).hist ⟨pinnedVerifier, ∅⟩ (visit 2 nonce2) := by
    rw [Machine.hist_append, hrun]
    rfl
  have hready : Ready (Runs.run pinnedVerifier (challengeTo (commitDevice nonce2 agentA))) [nonce1] 1 ""
      (commitDevice nonce2 agentA) := pinnedVerifier_resting.ready (by decide) (by decide) (by decide)
  have ha₁ := commitDevice_accepted pinned_ready (.inl rfl)
  have ha₂ :=
    commitDevice_accepted hready (.inr (by rw [challengeTo_pins]; exact pinnedVerifier_pinned.2))
  have hm₁ := List.mem_append_left ((verifier rsaCrypto).hist ⟨pinnedVerifier, ∅⟩ (visit 2 nonce2)) hv₁
  have hm₂ :=
    List.mem_append_right ((verifier rsaCrypto).hist ⟨openVerifier (laxConfig false), ∅⟩
      (visit 1 nonce1)) hv₂
  rw [← hhist] at hm₁ hm₂
  refine ⟨⟨_, hm₁, ha₁⟩, ⟨_, hm₂, ha₂⟩, ?_⟩
  refine (pins_agree rsaCrypto (openVerifier (laxConfig false)) Device.name
    (visit 1 nonce1 ++ visit 2 nonce2) ?_ hm₁ hm₂
    ha₁ ha₂ (identify_agentDevice ..) (identify_agentDevice ..) rfl rfl).1
    (commitDevice_flag nonce1 agentA)
    (commitDevice_flag nonce2 agentA) ?_ ?_
  · intro e he
    rcases List.mem_append.mp he with he | he
    · exact visit_clears 1 nonce1 e he
    · exact visit_clears 2 nonce2 e he
  · exact agentA_pinnable
  · exact agentA_pinnable

end

end Lota.L3.Interleave

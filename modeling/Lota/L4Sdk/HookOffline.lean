import Lota.L4Sdk.WineHook
import Mathlib.Logic.Function.Iterate

/-!
# Loss of the agent in the Wine hook (`sdk/lota_wine_hook.c`)

`publish_offline_status` is called from `refresh_once` only. The loop of the
thread also connects by itself, and polls for events when the agent pushes
them; when one of these notices that the agent is gone, nothing is published.

* `pass_files`: the files after a pass without an agent.
* `pass_followed`: when the agent never pushes, a hook without a connection
  has published.
* `loss_published_iff`: over every run of the thread, when the loss is
  published.
* `loss_unpublished`: a hook that starts without an agent, and one that polls.
-/
namespace Lota.L4.WineHook
open Lota.Core Lota.L4.Gaming

variable {C W : Type}

/-- The offline status, and no token. -/
structure Files.Offline (f : Files) : Prop where
  status : f.status = some (statusPayload .zero true)
  token : f.token = none
  snapshot : f.snapshot = none

instance instDecidableOffline (f : Files) : Decidable f.Offline :=
  decidable_of_iff (f.status = some (statusPayload .zero true) ∧ f.token = none ∧ f.snapshot = none)
    ⟨fun h => ⟨h.1, h.2.1, h.2.2⟩, fun h => ⟨h.status, h.token, h.snapshot⟩⟩

/-- In the worlds `down` the agent cannot be reached, and it stays so: no
connection is made and no request is answered. Events that are under way may
still arrive. -/
structure Unreachable (net : Net C W) (down : W → Prop) : Prop where
  connect : ∀ w, down w → (net.connect w).1 = none ∧ down (net.connect w).2
  protectSelf : ∀ c pid w, down w →
    (∃ e, protectSelf (net.protectSelf c pid w).1 = .error e) ∧ down (net.protectSelf c pid w).2
  getStatus : ∀ c w, down w → (∃ e, readStatus (net.getStatus c w).1 = .error e) ∧
    down (net.getStatus c w).2
  getToken : ∀ c w, down w → (∃ e, Gaming.getToken (net.getToken c w).1 = .error e) ∧
    down (net.getToken c w).2
  subscribe : ∀ c w, down w → (∃ e, subscribe (net.subscribe c w).1 = .error e) ∧
    down (net.subscribe c w).2
  poll : ∀ c w, down w → down (net.poll c w).2

/-- The attempt of the pass is a refresh, or the loss has been published
before and no event comes in. -/
def Publishes (net : Net C W) (s : Hook C × W) : Prop :=
  (s.1.client.isSome ∧ s.1.subscribed = false) ∨
    (s.1.files.Offline ∧ ∀ c, s.1.client = some c → (net.poll c s.2).1.notices = .nil)

/-! ## The files -/

theorem publishOfflineStatus_offline (f : Files) : f.publishOfflineStatus.Offline := ⟨rfl, rfl, rfl⟩

/-- `lota-status` says that the agent is there. -/
def Files.Online (f : Files) : Prop := ∃ status, f.status = some (statusPayload status false)

theorem not_offline {f : Files} (h : f.Online) : ¬ f.Offline := by
  obtain ⟨status, hs⟩ := h
  intro hoff
  have hsame := hs.symm.trans hoff.status
  simp [statusPayload] at hsame

theorem writeToken_status (f : Files) (flags : UInt32) (reply : Reply) :
    (f.writeToken flags reply).status = f.status := by
  unfold Files.writeToken
  split
  · rfl
  · split <;> rfl

/-- Events keep `lota-status` online. -/
theorem deliver_keeps {f : Files} (h : f.Online) (ns : Notices) : (deliver f ns).Online := by
  induction ns generalizing f with
  | nil => exact h
  | cons status during token rest ihd ihr =>
    unfold deliver
    split
    · refine ihr ?_
      obtain ⟨st, hst⟩ := ihd (f := f.writeStatus status) ⟨status, rfl⟩
      exact ⟨st, (writeToken_status _ _ _).trans hst⟩
    · exact ihr ⟨status, rfl⟩

/-- One event puts it online. -/
theorem deliver_online {f : Files} {ns : Notices} (h : ns ≠ .nil) : (deliver f ns).Online := by
  cases ns with
  | nil => exact absurd rfl h
  | cons status during token rest =>
    unfold deliver
    split
    · refine deliver_keeps ?_ rest
      obtain ⟨st, hst⟩ := deliver_keeps (f := f.writeStatus status) ⟨status, rfl⟩ during
      exact ⟨st, (writeToken_status _ _ _).trans hst⟩
    · exact deliver_keeps ⟨status, rfl⟩ rest

/-! ## A pass without an agent -/

section down
variable {net : Net C W} {down : W → Prop} (hnet : Unreachable net down) {h : Hook C}
  {w : W} (hw : down w)
include hnet hw

theorem refreshOnce_down :
    (refreshOnce net h w).1 = { h with client := none, files := h.files.publishOfflineStatus } := by
  rw [refreshOnce_eq]
  rcases openClient_cases net h w with ⟨hc, ho⟩ | ⟨hc, -, ho⟩ | ⟨c, -, hcon, -⟩
  · obtain ⟨c, hc⟩ := Option.isSome_iff_exists.mp hc
    rw [ho]
    simp only [hc]
    obtain ⟨e, he⟩ := (hnet.getStatus c w hw).1
    rcases queryStatus_cases net h w c with ⟨-, hq⟩ | ⟨status, files, hok, -⟩
    · rw [hq]
    · rw [he] at hok
      cases hok
  · rw [ho]
    simp only [hc]
  · rw [(hnet.connect w hw).1] at hcon
    cases hcon

/-- The files after a pass in which the agent cannot be reached. -/
theorem pass_files (hrun : h.running = true) :
    (pass net (h, w)).1.files =
      match h.client with
      | none => h.files
      | some c =>
        if h.subscribed then deliver h.files (net.poll c w).1.notices
          else h.files.publishOfflineStatus := by
  unfold pass
  rw [if_pos hrun]
  rcases connectPhase_cases net h w with ⟨hc, hp⟩ | ⟨hc, -, hp⟩ | ⟨c, x, -, hcon, -⟩
  · obtain ⟨c, hc⟩ := Option.isSome_iff_exists.mp hc
    simp only [hp, hc]
    rcases listenPhase_cases net h w with ⟨-, hn, -⟩ | ⟨c', h₁, hsub, hc', rfl, hl⟩ | ⟨x, hsub, rfl, hl⟩
    · rw [hc] at hn
      cases hn
    · rw [hc] at hc'
      cases hc'
      rw [if_pos hsub]
      rcases hl with hl | hl <;> rw [hl]
    · rw [if_neg (by rw [hsub]; decide)]
      have hdown := refreshOnce_down (h := h) hnet hw
      rcases hl with ⟨-, hl⟩ | ⟨-, hl⟩ <;> rw [hl, hdown]
  · simp only [hp, hc]
  · rw [(hnet.connect w hw).1] at hcon
    cases hcon

/-- **Pass.** -/
theorem pass_offline_iff (hrun : h.running = true) :
    (pass net (h, w)).1.files.Offline ↔ Publishes net (h, w) := by
  rw [pass_files hnet hw hrun]
  unfold Publishes
  cases hc : h.client with
  | none => simp
  | some c =>
    cases hsub : h.subscribed with
    | false => simp [publishOfflineStatus_offline]
    | true =>
      simp only [if_true, Option.isSome_some, Bool.true_eq_false, and_false, false_or,
        Option.some.injEq, forall_eq']
      by_cases hns : (net.poll c w).1.notices = .nil
      · rw [hns]
        simp [deliver]
      · exact iff_of_false (not_offline (deliver_online hns)) fun hoff => hns hoff.2

end down

/-! ## Runs -/

/-- The hook has no events pushed, and has published or is connected. -/
structure Followed (h : Hook C) : Prop where
  running : h.running = true
  polling : h.subscribed = false
  published : h.client = none → h.files.Offline

/-- The agent refuses to push events. -/
def Denies (net : Net C W) : Prop := ∀ c w, ∃ e, subscribe (net.subscribe c w).1 = .error e

section denies
variable {net : Net C W} {h : Hook C} {w : W}

/-- A refresh ends connected, or has published. -/
theorem refreshOnce_keeps (net : Net C W) (h : Hook C) (w : W) :
    (refreshOnce net h w).1.running = h.running ∧ (refreshOnce net h w).1.subscribed = h.subscribed ∧
      ((refreshOnce net h w).1.client = none → (refreshOnce net h w).1.files.Offline) := by
  have hopen : (openClient net h w).1.running = h.running ∧
      (openClient net h w).1.subscribed = h.subscribed ∧
      ((openClient net h w).1.client = none → (openClient net h w).1.files.Offline) := by
    rcases openClient_cases net h w with ⟨hc, ho⟩ | ⟨hc, -, ho⟩ | ⟨c, -, -, ⟨-, ho⟩ | ⟨-, ho⟩⟩
    · rw [ho]
      exact ⟨rfl, rfl, fun hn => absurd hc (by simpa using hn)⟩
    · rw [ho]
      exact ⟨rfl, rfl, fun _ => publishOfflineStatus_offline _⟩
    · rw [ho]
      exact ⟨rfl, rfl, fun hn => absurd hn (by simp)⟩
    · rw [ho]
      exact ⟨rfl, rfl, fun hn => absurd hn (by simp)⟩
  obtain ⟨hrun, hsub, hoff⟩ := hopen
  rw [refreshOnce_eq]
  split
  · exact ⟨hrun, hsub, hoff⟩
  · rename_i c hc
    rcases queryStatus_cases net (openClient net h w).1 (openClient net h w).2 c with
      ⟨-, hq⟩ | ⟨status, files, -, ⟨-, hq⟩ | ⟨-, hq⟩⟩
    · rw [hq]
      exact ⟨hrun, hsub, fun _ => publishOfflineStatus_offline _⟩
    · rw [hq]
      exact ⟨hrun, hsub, fun hn => absurd (hc.symm.trans hn) (by simp)⟩
    · rw [hq]
      exact ⟨hrun, hsub, fun hn => absurd (hc.symm.trans hn) (by simp)⟩

theorem listenPhase_followed (hrun : h.running = true) (hpoll : h.subscribed = false) :
    Followed (listenPhase net h w).1 := by
  obtain ⟨hr, hs, hoff⟩ := refreshOnce_keeps net h w
  rcases listenPhase_cases net h w with ⟨hsub, -⟩ | ⟨c, h₁, hsub, -⟩ | ⟨x, -, rfl, ⟨-, hl⟩ | ⟨hc, hl⟩⟩
  · rw [hpoll] at hsub
    cases hsub
  · rw [hpoll] at hsub
    cases hsub
  · rw [hl]
    exact ⟨hr.trans hrun, hs.trans hpoll, hoff⟩
  · rw [hl]
    exact ⟨hr.trans hrun, rfl, fun _ => hoff hc⟩

/-- **Step.** A pass that connects, or starts with the loss published, follows
the agent. -/
theorem pass_followed (hdeny : Denies net) (hrun : h.running = true) (hpoll : h.subscribed = false)
    (hpub : h.client = none → h.files.Offline ∨ (net.connect w).1.isSome) :
    Followed (pass net (h, w)).1 := by
  unfold pass
  rw [if_pos hrun]
  rcases connectPhase_cases net h w with ⟨-, hp⟩ | ⟨hc, hcon, hp⟩ | ⟨c, x, -, -, rfl,
    ⟨-, hp⟩ | ⟨c', -, hp⟩⟩
  · simp only [hp]
    exact listenPhase_followed hrun hpoll
  · simp only [hp]
    refine ⟨hrun, hpoll, fun _ => ?_⟩
    rcases hpub hc with hoff | hsome
    · exact hoff
    · rw [hcon] at hsome
      cases hsome
  · simp only [hp]
    exact listenPhase_followed ((refreshOnce_keeps _ _ _).1.trans hrun) rfl
  · simp only [hp]
    refine listenPhase_followed ((refreshOnce_keeps _ _ _).1.trans hrun) ?_
    obtain ⟨e, he⟩ := hdeny c' (refreshOnce net { h with client := some c } (net.connect w).2).2
    simp only [he]
    rfl

end denies

/-- A pass keeps the thread running. -/
theorem pass_running {net : Net C W} {s : Hook C × W} (hrun : s.1.running = true) :
    (pass net s).1.running = true := by
  unfold pass
  rw [if_pos hrun]
  have hlisten : ∀ (h : Hook C) (w : W), h.running = true → (listenPhase net h w).1.running = true := by
    intro h w hr
    rcases listenPhase_cases net h w with ⟨-, -, hl⟩ | ⟨c, h₁, -, -, rfl, hl | hl⟩ | ⟨x, -, rfl,
      ⟨-, hl⟩ | ⟨-, hl⟩⟩
    · rw [hl]
      exact hr
    · rw [hl]
      exact hr
    · rw [hl]
      exact hr
    · rw [hl]
      exact (refreshOnce_keeps _ _ _).1.trans hr
    · rw [hl]
      exact (refreshOnce_keeps _ _ _).1.trans hr
  rcases connectPhase_cases net s.1 s.2 with ⟨-, hp⟩ | ⟨-, -, hp⟩ | ⟨c, x, -, -, rfl,
    ⟨-, hp⟩ | ⟨c', -, hp⟩⟩
  · simp only [hp]
    exact hlisten _ _ hrun
  · simp only [hp]
    exact hrun
  · simp only [hp]
    exact hlisten _ _ ((refreshOnce_keeps _ _ _).1.trans hrun)
  · simp only [hp]
    exact hlisten _ _ ((refreshOnce_keeps _ _ _).1.trans hrun)

theorem passes_running (net : Net C W) {s : Hook C × W} (hrun : s.1.running = true) (n : Nat) :
    ((pass net)^[n] s).1.running = true := by
  induction n with
  | zero => exact hrun
  | succ n ih =>
    rw [Function.iterate_succ_apply']
    exact pass_running ih

/-- **Run.** When the agent never pushes and the first pass connects or finds
the loss published, every later pass starts with the agent followed. -/
theorem passes_followed {net : Net C W} (hdeny : Denies net) (pid : UInt32) {files : Files} {w₀ : W}
    (hpub : files.Offline ∨ (net.connect w₀).1.isSome) (n : Nat) :
    Followed ((pass net)^[n + 1] (start pid files, w₀)).1 := by
  induction n with
  | zero => exact pass_followed (h := start pid files) hdeny rfl rfl fun _ => hpub
  | succ n ih =>
    rw [Function.iterate_succ_apply']
    exact pass_followed hdeny ih.running ih.polling fun hc => .inl (ih.published hc)

/-- **Publication.** In every run of the thread, with any agent: a pass in
which the agent cannot be reached, and cannot be from then on, leaves the
offline status without token and snapshot exactly when its attempt is a
refresh, or the files were so before and no event comes in. When the agent
never pushes events, and the first connection is made or the files say offline
when the hook starts, that is so for every such pass. -/
theorem loss_published_iff (net : Net C W) (down : W → Prop) (hnet : Unreachable net down)
    (pid : UInt32)
    (files : Files) (w₀ : W) :
    (∀ n, down ((pass net)^[n] (start pid files, w₀)).2 →
      (((pass net)^[n + 1] (start pid files, w₀)).1.files.Offline ↔
        Publishes net ((pass net)^[n] (start pid files, w₀)))) ∧
    (Denies net → files.Offline ∨ (net.connect w₀).1.isSome →
      ∀ n, down ((pass net)^[n] (start pid files, w₀)).2 →
        ((pass net)^[n + 1] (start pid files, w₀)).1.files.Offline) := by
  have hpass : ∀ n, down ((pass net)^[n] (start pid files, w₀)).2 →
      (((pass net)^[n + 1] (start pid files, w₀)).1.files.Offline ↔
        Publishes net ((pass net)^[n] (start pid files, w₀))) := by
    intro n hw
    rw [Function.iterate_succ_apply']
    exact pass_offline_iff hnet hw (passes_running net rfl n)
  refine ⟨hpass, fun hdeny hpub n hw => (hpass n hw).mpr ?_⟩
  cases n with
  | zero =>
    rcases hpub with hoff | hsome
    · exact .inr ⟨hoff, fun c hc => absurd hc (by simp [start])⟩
    · rw [(hnet.connect w₀ hw).1] at hsome
      cases hsome
  | succ n =>
    have hfol := passes_followed hdeny pid hpub n
    cases hc : ((pass net)^[n + 1] (start pid files, w₀)).1.client with
    | none => exact .inr ⟨hfol.published hc, fun c hc' => absurd (hc.symm.trans hc') (by simp)⟩
    | some c => exact .inl ⟨by rw [hc]; rfl, hfol.polling⟩

/-- An agent that answers the next `w` calls and is gone after that. Its status
is not attested, and it pushes no event. -/
def fadingNet : Net Unit Nat where
  connect := fun w => (if w = 0 then none else some (), w - 1)
  protectSelf := fun _ _ w => (if w = 0 then .broken else .response ipcMagic 0 [], w - 1)
  getStatus := fun _ w => (if w = 0 then .broken else .response ipcMagic 0 [], w - 1)
  getToken := fun _ w => (.broken, w - 1)
  subscribe := fun _ w => (if w = 0 then .broken else .response ipcMagic 0 [], w - 1)
  poll := fun _ w => (⟨.nil, if w = 0 then .reset else .deadline⟩, w - 1)

theorem fadingNet_unreachable : Unreachable fadingNet (· = 0) where
  connect := by rintro w rfl; exact ⟨rfl, rfl⟩
  protectSelf := by rintro c pid w rfl; exact ⟨⟨_, rfl⟩, rfl⟩
  getStatus := by rintro c w rfl; exact ⟨⟨_, rfl⟩, rfl⟩
  getToken := by rintro c w rfl; exact ⟨⟨_, rfl⟩, rfl⟩
  subscribe := by rintro c w rfl; exact ⟨⟨_, rfl⟩, rfl⟩
  poll := by rintro c w rfl; rfl

/-- The files of an earlier session. -/
def staleFiles : Files where
  status := some (statusPayload ⟨1, 100, 900, 1, 0⟩ false)
  token := some [7]
  snapshot := some [7]

theorem loss_published_poller : ((pass fadingNet)^[2] (start 7 staleFiles, 2)).1.files.Offline := by
  have hlost : ((pass fadingNet)^[1] (start 7 staleFiles, 2)).1.client = none := by decide
  refine ((loss_published_iff fadingNet (· = 0) fadingNet_unreachable 7 staleFiles 2).1 1
    (by decide)).mpr ?_
  exact .inr ⟨by decide, fun c hc => absurd (hlost.symm.trans hc) (by simp)⟩

/-- A hook that starts without an agent leaves the token of an earlier session.
A hook that has events pushed loses the agent in the poll of its first pass,
and the status says online after the next pass as well. -/
theorem loss_unpublished :
    Unreachable fadingNet (· = 0) ∧
    (¬ ((pass fadingNet)^[1] (start 7 staleFiles, 0)).1.files.Offline ∧
      ((pass fadingNet)^[1] (start 7 staleFiles, 0)).1.files.token = some [7]) ∧
    (((pass fadingNet)^[1] (start 7 staleFiles, 3)).2 = 0 ∧
      ¬ ((pass fadingNet)^[2] (start 7 staleFiles, 3)).1.files.Offline) :=
  ⟨fadingNet_unreachable, ⟨by decide, by decide⟩, by decide, by decide⟩

end Lota.L4.WineHook

import Lota.L3Verifier.PinRuns
import Lota.L6Agent.AttestSession

/-!
# What an agent knows when its session is over

The invariant of `Lota.L6.Session` and what follows from it. A connection is
good when the bytes written on it are the bytes read and the bytes under way,
in both directions, and when both ends work with the same challenge.

* `inv_settle`, `inv_agent`, `inv_accept`: one step of a handler, of an agent,
  of `acceptLoop`; `act_inv` and `run_inv` every step and every run.
* `attest_session`: an agent that returns a result has answered the challenge
  of its connection, and the result is that of the one call on its report.
* `run_loneSession`: an agent that is not disturbed gets its result.
-/
namespace Lota.L6.Session
open Lota.Core Lota.L1.Report Lota.L3.Verify Lota.L3.Signature Lota.L6.AttestOnce
open Lota.L2.Nonce (GenerateEnv NonceStore)

/-! ## The invariant of a connection -/

/-- On the way to the agent: what the handler has written is what the agent
has read and what is left; the agent works with the challenge of its
connection, and a result it returns is the one the handler sent. -/
def Down (c : Conn) : Prop :=
  match c.agent with
  | .recvChallenge buf => buf.length < challengeSize ∧ Wrote (buf ++ c.down) c.handler
  | .sendReport ch _ _ => c.handler.challenge = some ch ∧
    Wrote (serializeChallenge ch ++ c.down) c.handler
  | .recvResult ch _ buf =>
    buf.length < resultSize ∧ c.handler.challenge = some ch ∧
      Wrote (serializeChallenge ch ++ (buf ++ c.down)) c.handler
  | .returned built sent ret => ∀ r, ret = .ok r → ∃ ch report res, built = some (ch, report) ∧
    sent = report ∧
      c.handler.challenge = some ch ∧ c.handler.result = some res ∧ r = toC res

/-- On the way to the server: what the agent has sent is what the handler has
read and what is left. -/
def Up (c : Conn) : Prop :=
  match c.handler with
  | .accepted => c.up = c.agent.sent
  | .header _ _ buf => buf.length < 32 ∧ buf ++ c.up = c.agent.sent
  | .body _ _ size buf =>
    32 ≤ buf.length ∧ buf.length < size ∧ reportSize (buf.take 32) = some size ∧
      buf ++ c.up = c.agent.sent
  | .replied _ _ (.refused buf) => buf.length = 32 ∧ reportSize buf = none ∧ buf <+: c.agent.sent
  | .replied _ _ (.verified data _) =>
    32 ≤ data.length ∧ reportSize (data.take 32) = some data.length ∧ data <+: c.agent.sent
  | .hung _ _ | .closed _ => True

section
variable {c : Conn} {h : Handler} {out : Bytes}

/-- The handler moves. -/
theorem Down.moves (hd : Down c) (hm : Moves c.handler h out) (up : Bytes) :
    Down { c with handler := h, down := c.down ++ out, up } := by
  unfold Down at hd ⊢
  cases ha : c.agent with
  | recvChallenge buf =>
    rw [ha] at hd
    refine ⟨hd.1, ?_⟩
    show Wrote (buf ++ (c.down ++ out)) h
    rw [← List.append_assoc]
    exact hm.wrote _ hd.2
  | sendReport ch report total =>
    rw [ha] at hd
    refine ⟨hm.challenge ch hd.1, ?_⟩
    show Wrote (serializeChallenge ch ++ (c.down ++ out)) h
    rw [← List.append_assoc]
    exact hm.wrote _ hd.2
  | recvResult ch report buf =>
    rw [ha] at hd
    refine ⟨hd.1, hm.challenge ch hd.2.1, ?_⟩
    show Wrote (serializeChallenge ch ++ (buf ++ (c.down ++ out))) h
    rw [← List.append_assoc buf, ← List.append_assoc]
    exact hm.wrote _ hd.2.2
  | returned built sent ret =>
    rw [ha] at hd
    intro r hr
    obtain ⟨ch, report, res, hbuilt, hsent, hch, hres, hto⟩ := hd r hr
    exact ⟨ch, report, res, hbuilt, hsent, hm.challenge ch hch, hm.result res hres, hto⟩

/-- What is read and what is left are what was there. -/
theorem take_drop_min (down : Bytes) (n m : Nat) (rest : Bytes) :
    rest ++ down.take (min n m) ++ down.drop (min n m) = rest ++ down := by
  rw [List.append_assoc, List.take_append_drop]

/-- A buffer of `size` bytes that is not filled beyond its end. -/
theorem full_length {buf down : Bytes} {n size : Nat} (hbuf : buf.length < size)
    (hfull : ¬ (buf ++ down.take (min n (size - buf.length))).length < size) :
    (buf ++ down.take (min n (size - buf.length))).length = size := by
  rw [List.length_append, List.length_take] at hfull ⊢
  omega

/-- The agent reads. -/
theorem Down.read (hd : Down c) (build : Challenge → Except Errno Bytes) (n : Nat) :
    Down { c with agent := c.agent.read build n c.down, down := c.agent.rest n c.down } := by
  unfold Down at hd
  cases ha : c.agent with
  | recvChallenge buf =>
    rw [ha] at hd
    obtain ⟨hlt, hw⟩ := hd
    rw [← take_drop_min c.down n (challengeSize - buf.length) buf] at hw
    simp only [Agent.read, Agent.rest]
    split
    · rename_i hmore
      exact ⟨hmore, hw⟩
    · rename_i hfull
      obtain ⟨ch, hch, hbuf⟩ := hw.challenge (full_length hlt hfull)
      rw [hbuf, parseChallenge_serialize]
      split
      · rename_i hp
        split at hp
        · cases hp
          intro r hr
          cases hr
        · cases hp
      · rename_i ch' hp
        split at hp
        · cases hp
        · cases hp
          split
          · intro r hr
            cases hr
          · split
            · intro r hr
              cases hr
            · rw [hbuf] at hw
              exact ⟨hch, hw⟩
  | sendReport ch report total =>
    rw [ha] at hd
    exact hd
  | recvResult ch report buf =>
    rw [ha] at hd
    obtain ⟨hlt, hch, hw⟩ := hd
    rw [← take_drop_min c.down n (resultSize - buf.length) buf] at hw
    simp only [Agent.read, Agent.rest]
    split
    · rename_i hmore
      exact ⟨hmore, hch, hw⟩
    · rename_i hfull
      obtain ⟨res, hres, hbuf⟩ := Wrote.result hw hch (full_length hlt hfull)
      rw [hbuf, parseResult_serialize]
      intro r hr
      split at hr
      · cases hr
      · cases hr
        exact ⟨ch, report, res, rfl, rfl, hch, hres, rfl⟩
  | returned built sent ret =>
    rw [ha] at hd
    exact hd

/-- The agent writes. -/
theorem Down.write (hd : Down c) (n : Nat) (up : Bytes) :
    Down { c with agent := (c.agent.write n).1, up } := by
  unfold Down at hd
  cases ha : c.agent with
  | sendReport ch report total =>
    rw [ha] at hd
    simp only [Agent.write]
    split
    · exact hd
    · refine ⟨?_, hd.1, hd.2⟩
      show 0 < resultSize
      decide
  | recvChallenge buf =>
    rw [ha] at hd
    exact hd
  | recvResult ch report buf =>
    rw [ha] at hd
    exact hd
  | returned built sent ret =>
    rw [ha] at hd
    exact hd

theorem Down.fail (hd : Down c) (e : Errno) : Down { c with agent := c.agent.fail e } := by
  unfold Down at hd
  cases ha : c.agent with
  | returned built sent ret =>
    rw [ha] at hd
    exact hd
  | _ =>
    intro r hr
    cases hr

theorem read_sent (a : Agent) (build : Challenge → Except Errno Bytes) (n : Nat) (down : Bytes) :
    (a.read build n down).sent = a.sent := by
  cases a with
  | recvChallenge buf =>
    simp only [Agent.read]
    repeat' split
    all_goals rfl
  | recvResult ch report buf =>
    simp only [Agent.read]
    split <;> rfl
  | _ => rfl

theorem write_sent (a : Agent) (n : Nat) : (a.write n).1.sent = a.sent ++ (a.write n).2 := by
  cases a with
  | sendReport ch report total =>
    have hmore : (Agent.sendReport ch report total).sent ++
        ((Agent.sendReport ch report total).write n).2 =
        report.take (total + min n (report.length - total)) := List.take_add.symm
    rw [hmore]
    simp only [Agent.write]
    by_cases hfull : total + min n (report.length - total) < report.length
    · rw [if_pos hfull]
      rfl
    · rw [if_neg hfull]
      exact (List.take_of_length_le (Nat.not_lt.mp hfull)).symm
  | _ => exact (List.append_nil _).symm

theorem fail_sent (a : Agent) (e : Errno) : (a.fail e).sent = a.sent := by
  cases a <;> rfl

/-- The agent has sent `more`. -/
theorem Up.agent (hu : Up c) {a : Agent} {more : Bytes} (hsent : a.sent = c.agent.sent ++ more)
    (down : Bytes) : Up { c with agent := a, up := c.up ++ more, down } := by
  unfold Up at hu ⊢
  cases hh : c.handler with
  | accepted =>
    rw [hh] at hu
    simp only [hsent]
    rw [show c.up = c.agent.sent from hu]
  | header id ch buf =>
    rw [hh] at hu
    simp only [hsent, ← hu.2, List.append_assoc]
    exact ⟨hu.1, trivial⟩
  | body id ch size buf =>
    rw [hh] at hu
    simp only [hsent, ← hu.2.2.2, List.append_assoc]
    exact ⟨hu.1, hu.2.1, hu.2.2.1, trivial⟩
  | replied id ch served =>
    rw [hh] at hu
    cases served with
    | refused buf =>
      simp only [hsent]
      exact ⟨hu.1, hu.2.1, hu.2.2.trans (List.prefix_append _ _)⟩
    | verified data res =>
      simp only [hsent]
      exact ⟨hu.1, hu.2.1, hu.2.2.trans (List.prefix_append _ _)⟩
  | hung id ch => trivial
  | closed ch => trivial

end

/-! ## The invariant of the server -/

/-- `VerifyReport` has been called. -/
def Handler.finished : Handler → Bool
  | .hung .. | .replied _ _ (.verified ..) => true
  | _ => false

def Handler.verified : Handler → Option (String × Bytes × VerifyResult)
  | .replied id _ (.verified data res) => some (id, data, res)
  | _ => none

/-- A step of a handler: a call is made once, and an answer that was verified
comes from it. -/
structure Calls (h : Handler) (r : Handled) : Prop where
  none : r.call = none → ∀ x, r.handler.verified = some x → h = r.handler
  some : ∀ x, r.call = some x → h.finished = false ∧ r.handler.finished = true ∧
    ∀ y, r.handler.verified = some y → ∃ err, x = (y.1, y.2.1, .returns y.2.2 err)
  finished : h.finished = true → r.handler = h

section
variable {K : Crypto} {v : Verifier} {c : Conn} {n : Nat} {env : ReportEnv} {fails : Option Nat}

/-- The handler reads. -/
theorem up_verify {id : String} {ch : Challenge} {data up : Bytes} (hlen : 32 ≤ data.length)
    (hsize : reportSize (data.take 32) = some data.length) (hpre : data <+: c.agent.sent)
    (down : Bytes) :
    Up { c with handler := (verify K v env id ch data fails).handler, down, up } := by
  unfold verify
  cases Lota.L3.Verify.verifyReport K v env id data with
  | mk v' reply =>
    cases reply with
    | hangs => trivial
    | returns result err => exact ⟨hlen, hsize, hpre⟩

theorem Up.read (hu : Up c) (down : Bytes) :
    Up { c with handler := (read K v env fails n c.up c.handler).handler, down,
                up := unread n c.up c.handler } := by
  unfold Up at hu
  cases hh : c.handler with
  | header id ch buf =>
    rw [hh] at hu
    obtain ⟨hlt, hsent⟩ := hu
    rw [← take_drop_min c.up n (32 - buf.length) buf] at hsent
    simp only [Session.read, unread]
    split
    · rename_i hmore
      exact ⟨hmore, hsent⟩
    · rename_i hfull
      have hlen := full_length hlt hfull
      generalize buf ++ c.up.take (min n (32 - buf.length)) = buf' at hlen hsent
      have hpre : buf' <+: c.agent.sent := ⟨_, hsent⟩
      have htake : buf'.take 32 = buf' := List.take_of_length_le (Nat.le_of_eq hlen)
      split
      · rename_i hsize
        exact ⟨hlen, hsize, hpre⟩
      · rename_i size hsize
        split
        · rename_i hbig
          refine ⟨Nat.le_of_eq hlen.symm, ?_, ?_, hsent⟩
          · show buf'.length < size
            omega
          · rw [htake]
            exact hsize
        · rename_i hsmall
          have h32 : 32 ≤ size := by
            unfold reportSize at hsize
            split at hsize
            · cases hsize
            · simp only at hsize
              split at hsize
              · cases hsize
              · cases hsize
                omega
          refine up_verify (Nat.le_of_eq hlen.symm) ?_ hpre down
          rw [htake, hsize, hlen]
          exact congrArg _ (by omega)
  | body id ch size buf =>
    rw [hh] at hu
    obtain ⟨h32, hlt, hsize, hsent⟩ := hu
    rw [← take_drop_min c.up n (size - buf.length) buf] at hsent
    have hhead : (buf ++ c.up.take (min n (size - buf.length))).take 32 = buf.take 32 :=
      List.take_append_of_le_length h32
    simp only [Session.read, unread]
    split
    · rename_i hmore
      refine ⟨?_, hmore, ?_, hsent⟩
      · show 32 ≤ (buf ++ _).length
        rw [List.length_append]
        omega
      · rw [hhead]
        exact hsize
    · rename_i hfull
      have hlen := full_length hlt hfull
      refine up_verify ?_ ?_ ⟨_, hsent⟩ down
      · rw [hlen]
        omega
      · rw [hhead, hsize, hlen]
  | accepted =>
    rw [hh] at hu
    exact hu
  | hung id ch => trivial
  | replied id ch served =>
    rw [hh] at hu
    exact hu
  | closed ch => trivial

theorem calls_quiet {h h' : Handler} {out : Bytes} (hv : h'.verified = none)
    (hf : h.finished = true → h' = h) : Calls h { handler := h', out, verifier := v } where
  none _ x hx := by
    rw [show h'.verified = some x from hx] at hv
    cases hv
  some x hx := nomatch hx
  finished := hf

theorem calls_start (id : Except Unit String) (genv : GenerateEnv) :
    Calls .accepted (start v id genv fails) := by
  have hf : ∀ h', Handler.accepted.finished = true → h' = Handler.accepted := fun _ h => nomatch h
  unfold start
  cases id with
  | error => exact calls_quiet rfl (hf _)
  | ok id =>
    simp only
    cases Lota.L3.Verify.generateChallenge v genv id with
    | mk v' r =>
      cases r with
      | error e => exact calls_quiet rfl (hf _)
      | ok ch =>
        refine calls_quiet ?_ (hf _)
        cases fails <;> rfl

theorem calls_verify {h : Handler} {id : String} {ch : Challenge} {data : Bytes}
    (hf : h.finished = false) : Calls h (verify K v env id ch data fails) := by
  unfold verify
  cases Lota.L3.Verify.verifyReport K v env id data with
  | mk v' reply =>
    cases reply with
    | hangs =>
      refine ⟨(fun h => nomatch h), ?_, fun h => absurd (hf.symm.trans h) (by decide)⟩
      intro x hx
      exact ⟨hf, rfl, fun y hy => nomatch hy⟩
    | returns result err =>
      refine ⟨(fun h => nomatch h), ?_, fun h => absurd (hf.symm.trans h) (by decide)⟩
      intro x hx
      cases hx
      refine ⟨hf, rfl, ?_⟩
      intro y hy
      cases hy
      exact ⟨err, rfl⟩

theorem calls_read (h : Handler) (up : Bytes) : Calls h (read K v env fails n up h) := by
  cases h with
  | header id ch buf =>
    unfold read
    simp only
    split
    · exact calls_quiet rfl fun h => nomatch h
    · split
      · exact calls_quiet rfl fun h => nomatch h
      · split
        · exact calls_quiet rfl fun h => nomatch h
        · exact calls_verify rfl
  | body id ch size buf =>
    unfold read
    simp only
    split
    · exact calls_quiet rfl fun h => nomatch h
    · exact calls_verify rfl
  | _ => exact ⟨fun _ _ _ => rfl, (fun _ h => nomatch h), fun _ => rfl⟩

theorem calls_fail (h : Handler) : Calls h { handler := h.fail, verifier := v } := by
  cases h with
  | header id ch buf => exact calls_quiet rfl fun h => nomatch h
  | body id ch size buf => exact calls_quiet rfl fun h => nomatch h
  | _ => exact ⟨fun _ _ _ => rfl, (fun _ h => nomatch h), fun _ => rfl⟩

theorem Up.fail {c : Conn} (hu : Up c) (down : Bytes) :
    Up { c with handler := c.handler.fail, down } := by
  unfold Up at hu
  cases hh : c.handler with
  | header id ch buf => trivial
  | body id ch size buf => trivial
  | accepted =>
    rw [hh] at hu
    exact hu
  | hung id ch => trivial
  | replied id ch served =>
    rw [hh] at hu
    exact hu
  | closed ch => trivial

theorem Up.start {c : Conn} (hu : Up c) (hc : c.handler = .accepted) (id : Except Unit String)
    (genv : GenerateEnv)
    (down : Bytes) : Up { c with handler := (Session.start v id genv fails).handler, down } := by
  unfold Up at hu
  rw [hc] at hu
  unfold Session.start
  cases id with
  | error => trivial
  | ok id =>
    simp only
    cases Lota.L3.Verify.generateChallenge v genv id with
    | mk v' r =>
      cases r with
      | error e => trivial
      | ok ch =>
        cases fails with
        | some n => trivial
        | none => exact ⟨by show 0 < 32; decide, hu⟩

end

structure Good (i : Nat) (calls : List VerifyCall) (c : Conn) : Prop where
  down : Down c
  up : Up c
  called : ∀ x, c.handler.verified = some x → ∃ err, ⟨i, x.1, x.2.1, .returns x.2.2 err⟩ ∈ calls

/-- Every connection is good, and no connection has two calls. -/
structure Inv (s : Server) : Prop where
  good : ∀ i c, s.conns[i]? = some c → Good i s.calls c
  owner : ∀ x ∈ s.calls, ∃ c, s.conns[x.conn]? = some c ∧ c.handler.finished = true
  once : (s.calls.map VerifyCall.conn).Nodup

section
variable {K : Crypto} {maxConnections : Nat} {s : Server} {i : Nat} {c : Conn}

theorem Good.calls {calls : List VerifyCall} (h : Good i calls c) (more : List VerifyCall) :
    Good i (calls ++ more) c := by
  refine ⟨h.down, h.up, fun x hx => ?_⟩
  obtain ⟨err, hmem⟩ := h.called x hx
  exact ⟨err, List.mem_append_left _ hmem⟩

/-- The connections after one of them has changed. -/
theorem getElem?_set_cases {l : List Conn} {j : Nat} {d e : Conn} (hd : l[i]? = some c)
    (h : (l.set i d)[j]? = some e) : (j = i ∧ e = d) ∨ (j ≠ i ∧ l[j]? = some e) := by
  have hi := (List.getElem?_eq_some_iff.mp hd).1
  by_cases hj : i = j
  · subst hj
    rw [List.getElem?_set_self hi] at h
    exact .inl ⟨rfl, (Option.some.inj h).symm⟩
  · rw [List.getElem?_set_ne hj] at h
    exact .inr ⟨Ne.symm hj, h⟩

/-- **Step.** A handler moves. -/
theorem inv_settle (hs : Inv s) (hc : s.conns[i]? = some c) {r : Handled} {up : Bytes}
    (hdown : Down { c with handler := r.handler, down := c.down ++ r.out, up })
    (hup : Up { c with handler := r.handler, down := c.down ++ r.out, up })
    (hcalls : Calls c.handler r) : Inv (settle s i c r up) := by
  have hgood := hs.good i c hc
  have hi : i < s.conns.length := (List.getElem?_eq_some_iff.mp hc).1
  have hself : (s.conns.set i { c with handler := r.handler, down := c.down ++ r.out, up })[i]? =
      some { c with handler := r.handler, down := c.down ++ r.out, up } := List.getElem?_set_self hi
  refine ⟨?_, ?_, ?_⟩
  · intro j e he
    rcases getElem?_set_cases hc he with ⟨rfl, rfl⟩ | ⟨-, hold⟩
    · refine ⟨hdown, hup, fun x hx => ?_⟩
      cases hcall : r.call with
      | none =>
        have hsame := hcalls.none hcall x hx
        obtain ⟨err, hmem⟩ := hgood.called x (by rw [hsame]; exact hx)
        exact ⟨err, List.mem_append_left _ hmem⟩
      | some y =>
        obtain ⟨-, -, hy⟩ := hcalls.some y hcall
        obtain ⟨err, rfl⟩ := hy x hx
        refine ⟨err, List.mem_append_right _ ?_⟩
        simp [hcall]
    · exact (hs.good j e hold).calls _
  · intro x hx
    rcases List.mem_append.mp hx with hold | hnew
    · obtain ⟨d, hd, hf⟩ := hs.owner x hold
      by_cases hxi : x.conn = i
      · rw [hxi] at hd ⊢
        cases hc.symm.trans hd
        exact ⟨_, hself, by rw [hcalls.finished hf]; exact hf⟩
      · exact ⟨d,
          by rw [show (settle s i c r up).conns[x.conn]? = _ from List.getElem?_set_ne
            (Ne.symm hxi)]; exact hd, hf⟩
    · cases hcall : r.call with
      | none =>
        rw [hcall] at hnew
        cases hnew
      | some y =>
        rw [hcall] at hnew
        simp only [Option.map_some, Option.toList_some, List.mem_singleton] at hnew
        rw [hnew]
        exact ⟨_, hself, (hcalls.some y hcall).2.1⟩
  · show ((s.calls ++ _).map VerifyCall.conn).Nodup
    cases hcall : r.call with
    | none => simpa using hs.once
    | some y =>
      rw [List.map_append, List.nodup_append]
      refine ⟨hs.once, by simp, ?_⟩
      intro a ha b hb hab
      obtain ⟨x, hx, rfl⟩ := List.mem_map.mp ha
      simp only [Option.map_some, Option.toList_some, List.map_cons, List.map_nil,
        List.mem_singleton] at hb
      -- an earlier call on this connection would have finished its handler
      obtain ⟨d, hd, hf⟩ := hs.owner x hx
      rw [hab, hb, hc] at hd
      cases hd
      rw [(hcalls.some y hcall).1] at hf
      cases hf

/-- **Step.** An agent moves. -/
theorem inv_agent (hs : Inv s) (hc : s.conns[i]? = some c) {d : Conn} (hh : d.handler = c.handler)
    (hdown : Down d)
    (hup : Up d) : Inv { s with conns := s.conns.set i d } := by
  have hgood := hs.good i c hc
  have hi : i < s.conns.length := (List.getElem?_eq_some_iff.mp hc).1
  refine ⟨?_, ?_, hs.once⟩
  · intro j e he
    rcases getElem?_set_cases hc he with ⟨rfl, rfl⟩ | ⟨-, hold⟩
    · exact ⟨hdown, hup, fun x hx => hgood.called x (by rw [← hh]; exact hx)⟩
    · exact hs.good j e hold
  · intro x hx
    obtain ⟨e, he, hf⟩ := hs.owner x hx
    by_cases hxi : x.conn = i
    · rw [hxi] at he ⊢
      cases hc.symm.trans he
      exact ⟨d, List.getElem?_set_self hi, by rw [hh]; exact hf⟩
    · exact ⟨e, (List.getElem?_set_ne (Ne.symm hxi)).trans he, hf⟩

theorem inv_accept (hs : Inv s) {h : Handler} (hup : Up (opened h)) (hw : Wrote [] h)
    (hv : h.verified = none)
    (slots : Nat) : Inv { s with slots, conns := s.conns ++ [opened h] } := by
  refine ⟨?_, ?_, hs.once⟩
  · intro j e he
    rcases Nat.lt_or_ge j s.conns.length with hj | hj
    · rw [List.getElem?_append_left hj] at he
      exact hs.good j e he
    · rw [List.getElem?_append_right hj, List.getElem?_singleton] at he
      split at he
      · cases he
        refine ⟨⟨by show 0 < challengeSize; decide, hw⟩, hup, fun x hx => ?_⟩
        rw [show h.verified = some x from hx] at hv
        cases hv
      · cases he
  · intro x hx
    obtain ⟨e, he, hf⟩ := hs.owner x hx
    exact ⟨e, (List.getElem?_append_left (List.getElem?_eq_some_iff.mp he).1).trans he, hf⟩

/-- **Step.** -/
theorem act_inv (hs : Inv s) (a : Action) : Inv (act K maxConnections s a) := by
  cases a with
  | accept =>
    simp only [act]
    split
    · exact inv_accept hs (h := .closed none) trivial rfl rfl s.slots
    · exact inv_accept hs (h := .accepted) rfl rfl rfl (s.slots + 1)
  | start i id env fails =>
    simp only [act]
    cases hc : s.conns[i]? with
    | none => exact hs
    | some c =>
      have hgood := hs.good i c hc
      cases hh : c.handler with
      | accepted =>
        simp only [hh]
        refine inv_settle hs hc (hgood.down.moves (hh ▸ moves_start id env fails) _)
          (hgood.up.start hh id env _) ?_
        rw [hh]
        exact calls_start id env
      | _ =>
        simp only [hh]
        exact hs
  | read i n env fails =>
    simp only [act]
    cases hc : s.conns[i]? with
    | none => exact hs
    | some c =>
      have hgood := hs.good i c hc
      exact inv_settle hs hc (hgood.down.moves (moves_read env fails n c.up c.handler) _)
        (hgood.up.read _)
        (calls_read c.handler c.up)
  | fail i =>
    simp only [act]
    cases hc : s.conns[i]? with
    | none => exact hs
    | some c =>
      have hgood := hs.good i c hc
      exact inv_settle hs hc (hgood.down.moves (moves_fail c.handler) _) (hgood.up.fail _)
        (calls_fail c.handler)
  | agentRead i n build =>
    simp only [act]
    cases hc : s.conns[i]? with
    | none => exact hs
    | some c =>
      have hgood := hs.good i c hc
      refine inv_agent hs hc ?_ (hgood.down.read build n) ?_
      · rfl
      · have hup :=
          @Up.agent _ hgood.up _ [] (by rw [read_sent c.agent build n c.down, List.append_nil])
          (c.agent.rest n c.down)
        rwa [List.append_nil] at hup
  | agentWrite i n =>
    simp only [act]
    cases hc : s.conns[i]? with
    | none => exact hs
    | some c =>
      have hgood := hs.good i c hc
      refine inv_agent hs hc ?_ (hgood.down.write n _) (hgood.up.agent (write_sent c.agent n) c.down)
      rfl
  | agentFail i e =>
    simp only [act]
    cases hc : s.conns[i]? with
    | none => exact hs
    | some c =>
      have hgood := hs.good i c hc
      refine inv_agent hs hc ?_ (hgood.down.fail e) ?_
      · rfl
      · have hup := @Up.agent _ hgood.up _ [] (by rw [fail_sent c.agent e, List.append_nil]) c.down
        rwa [List.append_nil] at hup

theorem booted_inv (v : Verifier) : Inv (booted v) :=
  ⟨(fun _ _ h => nomatch h), (fun _ h => nomatch h), List.nodup_nil⟩

/-- **Run.** -/
theorem run_inv (v : Verifier) (as : List Action) : Inv ((server K maxConnections).run (booted v) as) :=
  Machine.run_inv (P := fun _ _ => True) (J := Inv) (fun _ a hs _ => act_inv hs a) (booted_inv v)
    (Machine.allSteps_iff.mpr fun _ _ _ _ => trivial)

/-! ## The sessions -/

/-- `header.report_size` -/
def sizeField (report : Bytes) : Nat := ofLE ((report.drop 8).take 4)

/-- Reading in pieces is reading at once. -/
theorem handleConnection_verified {data report : Bytes} (hlen : 32 ≤ data.length)
    (hsize : reportSize (data.take 32) = some data.length) (hpre : data <+: report) :
    handleConnection report = .verifyReport data := by
  obtain ⟨rest, rfl⟩ := hpre
  have hhead : (data ++ rest).take 32 = data.take 32 := List.take_append_of_le_length hlen
  have hlong : data.length ≤ (data ++ rest).length := by simp
  have hbody : ((data ++ rest).drop 32).take (data.length - 32) = data.drop 32 := by
    rw [List.drop_append_of_le_length hlen, List.take_left' (by simp)]
  unfold reportSize at hsize
  split at hsize
  · cases hsize
  · rename_i hmagic
    simp only at hsize
    split at hsize
    · cases hsize
    · rename_i hrange
      have heq := Option.some.inj hsize
      unfold handleConnection
      simp only [hhead, heq]
      rw [if_neg (by omega), if_neg hmagic, if_neg (by rwa [heq] at hrange), if_neg, hbody,
        List.take_append_drop]
      rw [List.length_drop]
      omega

theorem handleConnection_refused {buf report : Bytes} (hlen : buf.length = 32)
    (hsize : reportSize buf = none)
    (hpre : buf <+: report) : handleConnection report = .refused .oldVersion := by
  obtain ⟨rest, rfl⟩ := hpre
  have hhead : (buf ++ rest).take 32 = buf := List.take_left' hlen
  have hlong : 32 ≤ (buf ++ rest).length := by simp [hlen]
  unfold handleConnection
  simp only [hhead]
  rw [if_neg (by omega)]
  unfold reportSize at hsize
  split at hsize
  · rename_i hmagic
    rw [if_pos hmagic]
  · rename_i hmagic
    simp only at hsize
    split at hsize
    · rename_i hrange
      rw [if_neg hmagic, if_pos hrange]
    · cases hsize

/-- The size field is where the handler looks for it. -/
theorem sizeField_take {data report : Bytes} (hlen : 32 ≤ data.length) (hpre : data <+: report)
    (hsize : reportSize (data.take 32) = some data.length) : sizeField report = data.length := by
  obtain ⟨rest, rfl⟩ := hpre
  have hfield : sizeField (data ++ rest) = ofLE (((data.take 32).drop 8).take 4) := by
    unfold sizeField
    rw [List.drop_append_of_le_length (by omega),
      List.take_append_of_le_length (by rw [List.length_drop]; omega),
      List.drop_take, List.take_take, min_eq_left (by decide)]
  rw [hfield]
  unfold reportSize at hsize
  split at hsize
  · cases hsize
  · simp only at hsize
    split at hsize
    · cases hsize
    · exact Option.some.inj hsize

/-- One of a list whose keys do not repeat is the only one with its key. -/
theorem filter_conn_eq {calls : List VerifyCall} {x : VerifyCall}
    (h : (calls.map VerifyCall.conn).Nodup) (hx : x ∈ calls) :
    calls.filter (fun y => y.conn = x.conn) = [x] := by
  induction calls with
  | nil => cases hx
  | cons y calls ih =>
    rw [List.map_cons, List.nodup_cons] at h
    rcases List.mem_cons.mp hx with rfl | hx
    · rw [List.filter_cons_of_pos (by simp), List.filter_eq_nil_iff.mpr]
      intro z hz heq
      exact h.1 (of_decide_eq_true heq ▸ List.mem_map_of_mem hz)
    · have hne : y.conn ≠ x.conn := fun heq => h.1 (heq ▸ List.mem_map_of_mem hx)
      rw [List.filter_cons_of_neg (by simpa using hne)]
      exact ih h.2 hx

/-- **Sessions.** Any number of agents and one server, any interleaving, any
pieces, any failures. If `net_attest` returns a result on connection `i`, the
agent built its report for the challenge that the server made for this
connection, and sent all of it. Either the server called `VerifyReport` exactly
once for this connection, under its id and on the part of the report that the
size field tells, which is all of it if that is its length, and the result is
that of the call; or it refused the header, made no call, and the result says
so. -/
theorem attest_session {v : Verifier} {as : List Action} {built : Option (Challenge × Bytes)}
    {sent : Bytes}
    {r : VerifierResult} (hc : ((server K maxConnections).run (booted v) as).conns[i]? = some c)
    (ha : c.agent = .returned built sent (.ok r)) :
    ∃ ch report id, built = some (ch, report) ∧ sent = report ∧
      ((∃ data res err, c.handler = .replied id ch (.verified data res) ∧
          handleConnection report = .verifyReport data ∧
          data = report.take (sizeField report) ∧ (sizeField report = report.length → data = report) ∧
          ((server K maxConnections).run (booted v) as).calls.filter (fun x => x.conn = i) =
            [⟨i, id, data, .returns res err⟩] ∧
          r = toC res) ∨
        (∃ buf, c.handler = .replied id ch (.refused buf) ∧
          handleConnection report = .refused .oldVersion ∧
          ((server K maxConnections).run (booted v) as).calls.filter (fun x => x.conn = i) = [] ∧
          r = toC { result := .oldVersion })) := by
  have hs : Inv ((server K maxConnections).run (booted v) as) := run_inv v as
  generalize (server K maxConnections).run (booted v) as = s at hs hc
  obtain ⟨hdown, hup, hcalled⟩ := hs.good i c hc
  unfold Down at hdown
  rw [ha] at hdown
  obtain ⟨ch, report, res, hbuilt, hsent, hch, hres, hto⟩ := hdown r rfl
  have hagent : c.agent.sent = report := by rw [ha, ← hsent]; rfl
  unfold Up at hup
  cases hh : c.handler with
  | replied id ch' served =>
    rw [hh] at hup hch hres hcalled
    cases hch
    cases hres
    refine ⟨ch, report, id, hbuilt, hsent, ?_⟩
    cases served with
    | verified data res =>
      obtain ⟨hlen, hsize, hpre⟩ := hup
      rw [hagent] at hpre
      obtain ⟨err, hmem⟩ := hcalled (id, data, res) rfl
      have htake : data = report.take (sizeField report) := by
        rw [sizeField_take hlen hpre hsize]
        exact List.prefix_iff_eq_take.mp hpre
      refine .inl ⟨data, res, err, rfl, handleConnection_verified hlen hsize hpre, htake,
        fun hfull => ?_, filter_conn_eq hs.once hmem, hto⟩
      rw [htake, hfull, List.take_length]
    | refused buf =>
      obtain ⟨hlen, hsize, hpre⟩ := hup
      refine .inr ⟨buf, rfl, handleConnection_refused hlen hsize (hagent ▸ hpre), ?_, hto⟩
      rw [List.filter_eq_nil_iff]
      intro x hx hxi
      rw [← of_decide_eq_true hxi] at hc
      obtain ⟨d, hd, hf⟩ := hs.owner x hx
      cases hc.symm.trans hd
      rw [hh] at hf
      cases hf
  | accepted =>
    rw [hh] at hres
    cases hres
  | header id ch' buf =>
    rw [hh] at hres
    cases hres
  | body id ch' size buf =>
    rw [hh] at hres
    cases hres
  | hung id ch' =>
    rw [hh] at hres
    cases hres
  | closed ch' =>
    rw [hh] at hres
    cases hres

end

/-! ## A session that succeeds -/

/-- One agent, which writes its report in two pieces, and nothing fails. -/
def loneSession (env : GenerateEnv) (build : Challenge → Except Errno Bytes) (renv : ReportEnv) :
    List Action :=
  [.accept, .start 0 (.ok "") env none, .agentRead 0 48 build, .agentWrite 0 7, .agentWrite 0 65536,
    .read 0 32 renv none, .read 0 65536 renv none, .agentRead 0 56 build]

section
variable {K : Crypto} {v v₁ v₂ : Verifier} {env : GenerateEnv} {build : Challenge → Except Errno Bytes}
  {renv : ReportEnv} {ch : Challenge} {report : Bytes} {res : VerifyResult} {err : Option String}

theorem read_challenge (hmagic : ch.magic = reportMagic) (hbuild : build ch = .ok report)
    (hne : report ≠ []) :
    (Agent.recvChallenge []).read build 48 (serializeChallenge ch) = .sendReport ch report 0 := by
  have hall : ([] : Bytes) ++ (serializeChallenge ch).take (min 48 (challengeSize - 0)) =
      serializeChallenge ch :=
    List.take_of_length_le (by rw [serializeChallenge_length]; decide)
  simp only [Agent.read, List.length_nil, hall, serializeChallenge_length, Nat.lt_irrefl, if_false,
    parseChallenge_serialize, hmagic, ne_eq, not_true_eq_false, hbuild, hne]

theorem read_result (hres : res.magic = reportMagic) :
    (Agent.recvResult ch report []).read build 56 (serializeResult res) =
      .returned (some (ch, report)) report (.ok (toC res)) := by
  have hall : ([] : Bytes) ++ (serializeResult res).take (min 56 (resultSize - 0)) =
      serializeResult res :=
    List.take_of_length_le (by rw [serializeResult_length]; decide)
  simp only [Agent.read, List.length_nil, hall, serializeResult_length, Nat.lt_irrefl, if_false,
    parseResult_serialize, hres, ne_eq, not_true_eq_false]

theorem take_rest (l : Bytes) (k : Nat) : l.take k ++ (l.drop k).take (l.length - k) = l := by
  have hrest : (l.drop k).take (l.length - k) = l.drop k :=
    List.take_of_length_le (by rw [List.length_drop])
  rw [hrest, List.take_append_drop]

/-- A report of the size it tells is within the limit of the server. -/
theorem reportSize_le {headerBuf : Bytes} {n : Nat} (h : reportSize headerBuf = some n) :
    n ≤ 65536 := by
  unfold reportSize at h
  split at h
  · cases h
  · simp only at h
    split at h
    · cases h
    · have := Option.some.inj h
      omega

/-- **Completeness.** Such an agent gets the result of its report. -/
theorem run_loneSession (hgen : generateChallenge v env "" = (v₁, .ok ch))
    (hmagic : ch.magic = reportMagic)
    (hbuild : build ch = .ok report) (hsize : reportSize (report.take 32) = some report.length)
    (hlong : 32 < report.length) (hverify : verifyReport K v₁ renv "" report = (v₂, .returns res err))
    (hres : res.magic = reportMagic) :
    ∃ c, ((server K 1).run (booted v) (loneSession env build renv)).conns[0]? = some c ∧
      c.agent = .returned (some (ch, report)) report (.ok (toC res)) := by
  have hshort := reportSize_le hsize
  have hne : report ≠ [] := List.ne_nil_of_length_pos (by omega)
  have hstart : act K 1 ⟨v, 1, [], [opened .accepted]⟩ (.start 0 (.ok "") env none) =
      ⟨v₁, 1, [], [⟨.header "" ch [], .recvChallenge [], serializeChallenge ch, []⟩]⟩ := by
    simp only [act, opened, settle, start, hgen, List.getElem?_cons_zero]
    rfl
  have hchallenge :
      act K 1 ⟨v₁, 1, [], [⟨.header "" ch [], .recvChallenge [], serializeChallenge ch, []⟩]⟩
      (.agentRead 0 48 build) = ⟨v₁, 1, [], [⟨.header "" ch [], .sendReport ch report 0, [], []⟩]⟩ := by
    have hrest : (Agent.recvChallenge []).rest 48 (serializeChallenge ch) = [] :=
      List.drop_eq_nil_of_le (by rw [serializeChallenge_length]; decide)
    simp only [act, List.getElem?_cons_zero, read_challenge hmagic hbuild hne, hrest]
    rfl
  have hfront : act K 1 ⟨v₁, 1, [], [⟨.header "" ch [], .sendReport ch report 0, [], []⟩]⟩
      (.agentWrite 0 7) =
      ⟨v₁, 1, [], [⟨.header "" ch [], .sendReport ch report 7, [], report.take 7⟩]⟩ := by
    have hmin : min 7 (report.length - 0) = 7 := by omega
    simp only [act, List.getElem?_cons_zero, Agent.write, hmin]
    rw [if_pos (by omega)]
    rfl
  have hback : act K 1 ⟨v₁, 1, [], [⟨.header "" ch [], .sendReport ch report 7, [], report.take 7⟩]⟩
      (.agentWrite 0 65536) =
        ⟨v₁, 1, [], [⟨.header "" ch [], .recvResult ch report [], [], report⟩]⟩ := by
    have hmin : min 65536 (report.length - 7) = report.length - 7 := by omega
    have hall : report.take 7 ++ (report.drop 7).take (report.length - 7) = report := take_rest report 7
    simp only [act, List.getElem?_cons_zero, Agent.write, hmin]
    rw [if_neg (by omega), hall]
    rfl
  have hheader : act K 1 ⟨v₁, 1, [], [⟨.header "" ch [], .recvResult ch report [], [], report⟩]⟩
      (.read 0 32 renv none) =
      ⟨v₁, 1, [],
        [⟨.body "" ch report.length (report.take 32), .recvResult ch report [], [],
          report.drop 32⟩]⟩ := by
    have hlen : (report.take 32).length = 32 := by
      rw [List.length_take]
      omega
    have hread : read K v₁ renv none 32 report (.header "" ch []) =
        { handler := .body "" ch report.length (report.take 32), verifier := v₁ } := by
      simp only [read, List.nil_append, List.length_nil, Nat.sub_zero, Nat.min_self, hlen,
        Nat.lt_irrefl, if_false, hsize]
      rw [if_pos hlong]
    simp only [act, List.getElem?_cons_zero, hread, unread]
    rfl
  have hbody : act K 1
      ⟨v₁, 1, [],
        [⟨.body "" ch report.length (report.take 32), .recvResult ch report [], [], report.drop 32⟩]⟩
      (.read 0 65536 renv none) =
      ⟨v₂, 0, [⟨0, "", report, .returns res err⟩],
        [⟨.replied "" ch (.verified report res), .recvResult ch report [],
          serializeResult res, []⟩]⟩ := by
    have hlen : (report.take 32).length = 32 := by
      rw [List.length_take]
      omega
    have hmin : min 65536 (report.length - 32) = report.length - 32 := by omega
    have hall : report.take 32 ++ (report.drop 32).take (report.length - 32) = report :=
      take_rest report 32
    have hread :
        read K v₁ renv none 65536 (report.drop 32) (.body "" ch report.length (report.take 32)) =
        { handler := .replied "" ch (.verified report res), out := serializeResult res, verifier := v₂
          call := some ("", report, .returns res err) } := by
      simp only [read, hlen, hmin, hall, Nat.lt_irrefl, if_false, verify, hverify]
      rfl
    have hunread : unread 65536 (report.drop 32) (.body "" ch report.length (report.take 32)) = [] := by
      simp only [unread, hlen, hmin]
      exact List.drop_eq_nil_of_le (by rw [List.length_drop])
    simp only [act, List.getElem?_cons_zero, hread, hunread]
    rfl
  have hresult : act K 1
      ⟨v₂, 0, [⟨0, "", report, .returns res err⟩],
        [⟨.replied "" ch (.verified report res), .recvResult ch report [], serializeResult res, []⟩]⟩
      (.agentRead 0 56 build) =
      ⟨v₂, 0, [⟨0, "", report, .returns res err⟩],
        [⟨.replied "" ch (.verified report res),
          .returned (some (ch, report)) report (.ok (toC res)), [], []⟩]⟩ := by
    have hrest : (Agent.recvResult ch report []).rest 56 (serializeResult res) = [] :=
      List.drop_eq_nil_of_le (by rw [serializeResult_length]; decide)
    simp only [act, List.getElem?_cons_zero, read_result hres, hrest]
    rfl
  have haccept : act K 1 (booted v) .accept = ⟨v, 1, [], [opened .accepted]⟩ := rfl
  refine ⟨⟨.replied "" ch (.verified report res),
    .returned (some (ch, report)) report (.ok (toC res)), [], []⟩, ?_, rfl⟩
  simp only [loneSession, Machine.run, server, haccept, hstart, hchallenge, hfront, hback, hheader,
    hbody, hresult]
  rfl

end

section
open Lota.L3.Runs

/-- What an honest agent sends for a challenge. -/
def honestBuild (ch : Challenge) : Except Errno Bytes :=
  .ok (wireReport (commitDevice ch.nonce agentA).report)

theorem honest_size (n : Nonce) : (wireReport (commitDevice n agentA).report).length = 8024 := by
  rw [wireReport_length]
  rfl

theorem honest_reportSize (n : Nonce) :
    reportSize ((wireReport (commitDevice n agentA).report).take 32) =
      some (wireReport (commitDevice n agentA).report).length := by
  rw [honest_size]
  obtain ⟨rest, hwire⟩ : ∃ rest, wireReport (commitDevice n agentA).report =
      toLE 4 reportMagic.toNat ++ (toLE 4 reportVersion.toNat ++ (toLE 4 8024 ++ rest)) := by
    unfold wireReport wireHeader
    simp only [List.append_assoc]
    exact ⟨_, rfl⟩
  have hmagic : ((wireReport (commitDevice n agentA).report).take 32).take 4 =
      toLE 4 reportMagic.toNat := by
    rw [List.take_take, hwire]
    exact List.take_left' (toLE_length 4 _)
  have hfield : (((wireReport (commitDevice n agentA).report).take 32).drop 8).take 4 =
      toLE 4 8024 := by
    rw [List.drop_take, List.take_take, hwire]
    exact field_append (a := toLE 4 reportMagic.toNat ++ toLE 4 reportVersion.toNat) (by simp)
      (toLE_length 4 8024)
  unfold reportSize
  rw [hmagic, hfield]
  rfl

theorem generateChallenge_magic {ns : NonceStore} {env : GenerateEnv} {id : String} {mask : UInt32}
    {ch : Challenge}
    (h : (ns.generateChallenge env id mask).2 = .ok ch) : ch.magic = reportMagic := by
  unfold NonceStore.generateChallenge at h
  split at h
  · cases h
  · split at h
    · cases h
    · cases h
      rfl

/-- `VerifyReport` sets the magic before its first check. -/
theorem verifyReport_magic {K : Crypto} {v : Verifier} {env : ReportEnv} {id : String}
    {data : Bytes} {res : VerifyResult}
    {err : Option String} (h : (verifyReport K v env id data).2 = .returns res err) :
    res.magic = reportMagic := by
  have hrefusal : ∀ r : Refusal, r.reply = .returns res err → res.magic = reportMagic := by
    intro r hr
    cases r with
    | fail code text =>
      cases hr
      rfl
    | hangs => cases hr
  unfold verifyReport at h
  split at h
  · exact hrefusal _ h
  · simp only at h
    split at h
    · exact hrefusal _ h
    · unfold issueToken at h
      simp only at h
      split at h
      · cases h
        rfl
      · cases h
        rfl

/-- An honest agent attests. There is one call, on its whole report, and the
agent gets the `VERIFY_OK` of the call. -/
theorem attest_session_one :
    ∃ c ch sent id res err, ((server rsaCrypto 1).run (booted (openVerifier (laxConfig false)))
        (loneSession (drawing nonce1) honestBuild honestEnv)).conns[0]? = some c ∧
      c.agent = .returned (some (ch, sent)) sent (.ok (toC res)) ∧
      ((server rsaCrypto 1).run (booted (openVerifier (laxConfig false)))
        (loneSession (drawing nonce1) honestBuild honestEnv)).calls.filter (fun x => x.conn = 0) =
          [⟨0, id, sent, .returns res err⟩] ∧
      (toC res).result = ResultCode.ok.toUInt32 := by
  obtain ⟨⟨ch, hch, hnonce, -⟩, -⟩ :=
    generate_round (openVerifier_idle (laxConfig false)) (n := nonce1) (by simp) ""
    (openVerifier (laxConfig false)).pcrVerifier.getActivePolicyMask
  have hgen : generateChallenge (openVerifier (laxConfig false)) (drawing nonce1) "" =
      (Lota.L3.Runs.run (openVerifier (laxConfig false)) (challengeTo (commitDevice nonce1 agentA)),
        .ok ch) :=
    Prod.ext rfl hch
  have hbuild : honestBuild ch = .ok (wireReport (commitDevice nonce1 agentA).report) := by
    unfold honestBuild
    rw [hnonce]
  have hlong : 32 < (wireReport (commitDevice nonce1 agentA).report).length := by
    rw [honest_size]
    decide
  have hsize := honest_reportSize nonce1
  have haccepted := commitDevice_accepted pinned_ready (.inl rfl)
  cases hverify : verifyReport rsaCrypto
    (Lota.L3.Runs.run (openVerifier (laxConfig false)) (challengeTo (commitDevice nonce1 agentA)))
      honestEnv ""
    (wireReport (commitDevice nonce1 agentA).report) with
  | mk v₂ reply =>
    rw [hverify] at haccepted
    cases reply with
    | hangs => cases haccepted
    | returns res err =>
      obtain ⟨c, hc, ha⟩ :=
        run_loneSession hgen (generateChallenge_magic hch) hbuild hsize hlong hverify
        (verifyReport_magic (congrArg Prod.snd hverify))
      have hok : res.result = .ok := by
        cases err with
        | none => exact of_decide_eq_true haccepted
        | some e => cases haccepted
      obtain ⟨ch', report, id, hbuilt, hsent,
          ⟨data, res', err', -, -, -, hall, hcalls, hto⟩ | ⟨-, -, -, -, hto⟩⟩ :=
        attest_session hc ha
      · cases hbuilt
        rw [hall (sizeField_take (Nat.le_of_lt hlong) (List.prefix_refl _) hsize)] at hcalls
        refine ⟨c, ch, _, id, res', err', hc, hto ▸ ha, hcalls, ?_⟩
        rw [← hto]
        show res.result.toUInt32 = _
        rw [hok]
      · have hcode := congrArg VerifierResult.result hto
        have hcode : res.result.toUInt32 = ResultCode.oldVersion.toUInt32 := hcode
        rw [hok] at hcode
        exact absurd hcode (by decide)

end

end Lota.L6.Session

import Lota.Core.Text
import Lota.L1Wire.ReportC
import Lota.L3Verifier.Verify

/-!
# Validating session tokens (`verifier/verify/verify.go`, `verifier/server/api.go`)

A game server posts the session token that a client presents and learns
whether the verifier has issued it; with `consume` set, the token is marked as
used. Every call holds the table's lock, so that concurrent requests are a
sequence of calls, each with a clock reading of its own.

* `validate_cases`: what a request can find and what it is told.
* `marked_run`: a token stays consumed until it is issued again.
* `told_run`: whoever consumed a token was told what a later consumer is told.
* `single_use_iff`: the replies tell the first consumer from a later one
  exactly when no request consumes a token that is stored and consumed.
-/
namespace Lota.L3.SessionToken
open Lota.Core Lota.L1 Lota.L1.Report Lota.L3.Verify

abbrev TokenIndex := GoMap (Blob 32) SessionTokenRecord

/-! ## The table -/

/-- mirrors src/verifier/verify/verify.go:151-161 -/
structure SessionTokenStatus where
  clientID : String := ""
  hardwareID : Blob 32 := Blob.zero 32
  validUntil : UInt64 := 0
  resultCode : ResultCode := .ok
  flags : UInt32 := 0
  pcrMask : UInt32 := 0
  consumed : Bool := false
  tokenExists : Bool := false
  expired : Bool := false
  deriving DecidableEq

def Expired (now : UInt64) (rec : SessionTokenRecord) : Prop :=
  rec.validUntil > 0 ∧ rec.validUntil ≤ now

instance decidableExpired (now : UInt64) : DecidablePred (Expired now) :=
  fun rec => inferInstanceAs (Decidable (rec.validUntil > 0 ∧ rec.validUntil ≤ now))

/-- The loop in front of every access. -/
def live (index : TokenIndex) (now : UInt64) : TokenIndex :=
  index.entries.foldl (fun acc e => if Expired now e.2 then acc.erase e.1 else acc) index

/-- mirrors src/verifier/verify/verify.go:390-435 -/
def validateSessionToken (index : TokenIndex) (now : UInt64) (token : Blob 32) (consume : Bool) :
    TokenIndex × SessionTokenStatus :=
  let index := live index now
  match index.lookup token with
  | none => (index, {})
  | some rec =>
    let st : SessionTokenStatus :=
      { tokenExists := true, clientID := rec.clientID, hardwareID := rec.hardwareID,
        validUntil := rec.validUntil
        resultCode := rec.resultCode, flags := rec.flags, pcrMask := rec.pcrMask,
        consumed := rec.consumed
        expired := decide (Expired now rec) }
    if st.expired then (index.erase token, { st with tokenExists := false })
    else if consume && !rec.consumed then
      (index.insert token { rec with consumed := true }, { st with consumed := true })
    else (index, st)

/-! ## The endpoint -/

/-- mirrors src/verifier/server/api.go:262-265 -/
structure ValidateSessionTokenRequest where
  sessionToken : String
  consume : Bool

/-- mirrors src/verifier/server/api.go:267-276 -/
structure ValidateSessionTokenResponse where
  valid : Bool
  consumed : Bool := false
  clientID : String := ""
  hardwareID : String := ""
  resultCode : UInt32 := 0
  flags : UInt32 := 0
  pcrMask : UInt32 := 0
  validUntil : UInt64 := 0
  deriving DecidableEq

inductive HttpReply where
  | badRequest (error : String)
  | ok (response : ValidateSessionTokenResponse)
  deriving DecidableEq

/-- `unicode.IsSpace`. -/
def isSpace (c : Char) : Bool := isUnicodeSpace c.toNat

/-- `strings.TrimSpace`. -/
def trimSpace (s : String) : String := String.ofList (trimBoth isSpace s.toList)

/-- mirrors src/verifier/server/api.go:559-569 -/
def fromHexByte (hi lo : Char) : Option UInt8 := do
  let h ← hexVal hi
  let l ← hexVal lo
  some (UInt8.ofNat (16 * h + l))

/-- A character outside ASCII has bytes that are no digits.
mirrors src/verifier/server/api.go:534-544 -/
def hexDecodeFixed32 (s : String) : Option (Blob 32) := (pairs s.toList).map (toBlob 32)
where
  pairs : List Char → Option Bytes
  | [] => some []
  | [_] => none
  | hi :: lo :: rest => do
    let b ← fromHexByte hi lo
    let bs ← pairs rest
    some (b :: bs)

/-- The token that a request is about.
mirrors src/verifier/server/api.go:504-514 -/
def requestToken (req : ValidateSessionTokenRequest) : Except String (Blob 32) :=
  let sessionToken := trimSpace req.sessionToken
  if sessionToken.utf8ByteSize ≠ 64 then .error "session_token must be 64 hex characters"
  else match hexDecodeFixed32 sessionToken with
  | none => .error "invalid session_token hex"
  | some token => .ok token

/-- mirrors src/verifier/server/api.go:516-531 -/
def statusReply (status : SessionTokenStatus) : HttpReply :=
  if status.tokenExists then
    .ok { valid := !status.expired, consumed := status.consumed, clientID := status.clientID
          hardwareID := hexEncode status.hardwareID.toList, resultCode := status.resultCode.toUInt32
          flags := status.flags, pcrMask := status.pcrMask, validUntil := status.validUntil }
  else .ok { valid := false }

/-- `body` is what `decodeJSONRequest` makes of the request.
mirrors src/verifier/server/api.go:497-532 -/
def handleValidateSessionToken (index : TokenIndex) (now : UInt64)
    (body : Except String ValidateSessionTokenRequest) : TokenIndex × HttpReply :=
  match body with
  | .error e => (index, .badRequest ("invalid JSON: " ++ e))
  | .ok req =>
    match requestToken req with
    | .error e => (index, .badRequest e)
    | .ok token =>
      let r := validateSessionToken index now token req.consume
      (r.1, statusReply r.2)

/-! ## Runs -/

/-- A verification that ends in a token, or a request; `now` is the reading of
`unixTimestamp(time.Now())` in the call. -/
inductive Op where
  | issue (now : UInt64) (token : Blob 32) (id : Identity) (validUntil : UInt64)
    (resultCode : ResultCode)
  | validate (now : UInt64) (body : Except String ValidateSessionTokenRequest)

def step (index : TokenIndex) : Op → TokenIndex × Option HttpReply
  | .issue now token id validUntil resultCode =>
    (rememberSessionToken index now token id validUntil resultCode, none)
  | .validate now body =>
    let r := handleValidateSessionToken index now body
    (r.1, some r.2)

def machine : Machine TokenIndex Op (Option HttpReply) := ⟨step⟩

def Issues (token : Blob 32) : Op → Prop
  | .issue _ token' _ _ _ => token' = token
  | .validate .. => False

/-- A request for the token with `consume` set. -/
def Consumes (token : Blob 32) : Op → Prop
  | .validate _ (.ok req) => req.consume = true ∧ requestToken req = .ok token
  | _ => False

def saysValid : Option HttpReply → Bool
  | some (.ok response) => response.valid
  | _ => false

/-- The token was still unconsumed. -/
def saysUnconsumed : Option HttpReply → Bool
  | some (.ok response) => response.valid && !response.consumed
  | _ => false

/-- What single use means for the callers of one token: at most one of two
consuming requests is told that the token was unconsumed, and after a
consuming request that was told the token is valid, every later one, until
the token is issued again, is told something else. -/
structure SingleUse (h : List (Op × Option HttpReply)) (token : Blob 32) : Prop where
  once : ∀ pre op₁ r₁ mid op₂ r₂ post, h = pre ++ (op₁, r₁) :: (mid ++ (op₂, r₂) :: post) →
    Consumes token op₁ → Consumes token op₂ → ¬ (saysUnconsumed r₁ = true ∧ saysUnconsumed r₂ = true)
  apart : ∀ pre op₁ r₁ mid op₂ r₂ post, h = pre ++ (op₁, r₁) :: (mid ++ (op₂, r₂) :: post) →
    Consumes token op₁ → Consumes token op₂ → saysValid r₁ = true →
    (∀ e ∈ mid, ¬ Issues token e.1) → r₂ ≠ r₁

/-- No request consumes a token that is in the table, in time, and consumed. -/
def NoReuse (index : TokenIndex) : Op → Prop
  | .validate now (.ok req) => req.consume = true → ∀ token, requestToken req = .ok token →
      ∀ rec, index.lookup token = some rec → ¬ Expired now rec → rec.consumed = false
  | _ => True

/-! ## One call -/

section
variable {index : TokenIndex} {now : UInt64} {token : Blob 32}

theorem live_lookup (index : TokenIndex) (now : UInt64) (token : Blob 32) :
    (live index now).lookup token = (index.lookup token).filter fun rec => ¬ Expired now rec :=
  lookup_prune (Expired now) index token

theorem live_some {rec : SessionTokenRecord} :
    (live index now).lookup token = some rec ↔ index.lookup token = some rec ∧ ¬ Expired now rec := by
  rw [live_lookup, Option.filter_eq_some_iff, decide_eq_true_eq]

/-- What a request is told of a token in the table. -/
def recordReply (rec : SessionTokenRecord) (consumed : Bool) : HttpReply :=
  .ok { valid := true, consumed := consumed, clientID := rec.clientID
        hardwareID := hexEncode rec.hardwareID.toList, resultCode := rec.resultCode.toUInt32
        flags := rec.flags, pcrMask := rec.pcrMask, validUntil := rec.validUntil }

/-- The token is not there, or it is, in time, and the reply shows the record
after the request. The branch for an expired record is never taken: the loop
in front has removed it. -/
theorem validate_cases (index : TokenIndex) (now : UInt64) (token : Blob 32) (consume : Bool) :
    ((live index now).lookup token = none ∧
      (validateSessionToken index now token consume).1 = live index now ∧
      statusReply (validateSessionToken index now token consume).2 = .ok { valid := false }) ∨
    ∃ rec, index.lookup token = some rec ∧ ¬ Expired now rec ∧
      statusReply (validateSessionToken index now token consume).2 =
      recordReply rec (rec.consumed || consume) ∧
      ∀ tk, (validateSessionToken index now token consume).1.lookup tk =
        if tk = token then some { rec with consumed := rec.consumed || consume }
          else (live index now).lookup tk := by
  unfold validateSessionToken
  cases hrec : (live index now).lookup token with
  | none => exact .inl ⟨rfl, by simp only [hrec], by simp only [hrec]; rfl⟩
  | some rec =>
    obtain ⟨hstored, hlive⟩ := live_some.mp hrec
    refine .inr ⟨rec, hstored, hlive, ?_⟩
    simp only [hrec, decide_eq_false hlive, Bool.false_eq_true, if_false]
    by_cases hset : (consume && !rec.consumed) = true
    · have hor : (rec.consumed || consume) = true := by
        rw [Bool.and_eq_true] at hset
        rw [hset.1, Bool.or_true]
      rw [if_pos hset, hor]
      exact ⟨rfl, fun tk => lookup_insert_ite _ _ _ _⟩
    · have hor : (rec.consumed || consume) = rec.consumed := by
        cases hc : rec.consumed <;> cases consume <;> simp_all
      rw [if_neg hset, hor]
      refine ⟨rfl, fun tk => ?_⟩
      split
      · rename_i htk
        rw [htk, hrec]
      · rfl

/-- A consuming request is told that there is no such token, or it is told
that the token is consumed, whoever consumed it. -/
theorem consume_cases (index : TokenIndex) {op : Op} (h : Consumes token op) :
    ((step index op).2 = some (.ok { valid := false }) ∧ NoReuse index op ∧
      (step index op).1.lookup token = none) ∨
    ∃ rec, index.lookup token = some rec ∧ (NoReuse index op ↔ rec.consumed = false) ∧
      (step index op).2 = some (recordReply rec true) ∧
      (step index op).1.lookup token = some { rec with consumed := true } := by
  cases op with
  | issue => exact h.elim
  | validate now body =>
    cases body with
    | error e => exact h.elim
    | ok req =>
      obtain ⟨hconsume, htoken⟩ := h
      simp only [step, handleValidateSessionToken, htoken, NoReuse, hconsume, forall_true_left,
        Except.ok.injEq, forall_eq']
      obtain ⟨hnone, hstate, hreply⟩ | ⟨rec, hstored, hlive, hreply, hstate⟩ :=
        validate_cases index now token true
      · refine .inl ⟨by rw [hreply], ?_, by rw [hstate, hnone]⟩
        intro rec hrec hlive
        rw [live_some.mpr ⟨hrec, hlive⟩] at hnone
        cases hnone
      · rw [Bool.or_true] at hreply hstate
        refine .inr ⟨rec, hstored, ?_, by rw [hreply], by rw [hstate, if_pos rfl]⟩
        constructor
        · exact fun hno => hno rec hstored hlive
        · intro hc rec' hrec' _
          rw [hstored] at hrec'
          cases hrec'
          exact hc

/-- A record comes from the table before the call, unless the call issued the
token or consumed it. -/
theorem step_kept {op : Op} (hi : ¬ Issues token op) {rec : SessionTokenRecord}
    (h : (step index op).1.lookup token = some rec) :
    index.lookup token = some rec ∨
      Consumes token op ∧ (step index op).2 = some (recordReply rec true) := by
  cases op with
  | issue now token' id validUntil resultCode =>
    have hne : token ≠ token' := fun he => hi he.symm
    have hr : (rememberSessionToken index now token' id validUntil resultCode).lookup token =
        (live index now).lookup token := (lookup_insert_ite _ _ _ _).trans (if_neg hne)
    have hlive : (live index now).lookup token = some rec := hr.symm.trans h
    exact .inl (live_some.mp hlive).1
  | validate now body =>
    cases body with
    | error e => exact .inl h
    | ok req =>
      cases htoken : requestToken req with
      | error e =>
        simp only [step, handleValidateSessionToken, htoken] at h
        exact .inl h
      | ok token' =>
        simp only [step, handleValidateSessionToken, htoken] at h ⊢
        obtain ⟨-, hstate, -⟩ | ⟨rec', hstored, -, hreply, hstate⟩ :=
          validate_cases index now token' req.consume
        · rw [hstate] at h
          exact .inl (live_some.mp h).1
        · rw [hstate] at h
          split at h
          · rename_i htk
            subst htk
            cases hc : req.consume with
            | false =>
              rw [hc, Bool.or_false] at h
              exact .inl (hstored.trans h)
            | true =>
              rw [hc, Bool.or_true] at h hreply
              cases h
              exact .inr ⟨⟨hc, htoken⟩, by rw [hreply]; rfl⟩
          · exact .inl (live_some.mp h).1

theorem issue_unconsumed {op : Op} (hi : Issues token op) {rec : SessionTokenRecord}
    (h : (step index op).1.lookup token = some rec) : rec.consumed = false := by
  cases op with
  | validate => exact hi.elim
  | issue now token' id validUntil resultCode =>
    obtain rfl : token' = token := hi
    have hr := (AList.lookup_insert (live index now)).symm.trans h
    cases hr
    rfl

end

/-! ## What the table remembers -/

/-- A consumed token was consumed by a request that was told so. -/
def Told (h : List (Op × Option HttpReply)) (index : TokenIndex) : Prop :=
  ∀ token rec, index.lookup token = some rec → rec.consumed = true →
    ∃ pre op mid, h = pre ++ (op, some (recordReply rec true)) :: mid ∧ Consumes token op ∧
      ∀ e ∈ mid, ¬ Issues token e.1

/-- After a consuming request that was told the token is valid, the token is
consumed as long as it is there. -/
def Marked (h : List (Op × Option HttpReply)) (index : TokenIndex) : Prop :=
  ∀ token pre op r mid, h = pre ++ (op, r) :: mid → Consumes token op → saysValid r = true →
    (∀ e ∈ mid, ¬ Issues token e.1) → ∀ rec, index.lookup token = some rec → rec.consumed = true

/-- **Step.** -/
theorem told_step (h : List (Op × Option HttpReply)) (index : TokenIndex) (op : Op)
    (ht : Told h index) : Told (h ++ [(op, (step index op).2)]) (step index op).1 := by
  intro token rec hrec hc
  by_cases hi : Issues token op
  · rw [issue_unconsumed hi hrec] at hc
    cases hc
  rcases step_kept hi hrec with hold | ⟨hcons, hreply⟩
  · obtain ⟨pre, op', mid, rfl, hcons, hmid⟩ := ht token rec hold hc
    refine ⟨pre, op', mid ++ [(op, (step index op).2)], by simp, hcons, ?_⟩
    intro e he
    rcases List.mem_append.mp he with he | he
    · exact hmid e he
    · rw [List.mem_singleton.mp he]
      exact hi
  · exact ⟨h, op, [], by rw [hreply], hcons, fun e he => absurd he List.not_mem_nil⟩

/-- **Step.** -/
theorem marked_step (h : List (Op × Option HttpReply)) (index : TokenIndex) (op : Op)
    (hm : Marked h index) : Marked (h ++ [(op, (step index op).2)]) (step index op).1 := by
  intro token pre op' r mid hsplit hcons hvalid hmid rec hrec
  rcases append_singleton_split hsplit with ⟨-, -, he⟩ | ⟨mid', hold⟩
  · -- the request itself
    obtain ⟨rfl, rfl⟩ := Prod.mk.inj he
    obtain ⟨hreply, -, -⟩ | ⟨rec', -, -, -, hstate⟩ := consume_cases index hcons
    · rw [hreply] at hvalid
      cases hvalid
    · rw [hstate] at hrec
      cases hrec
      rfl
  · -- an earlier request: the new call is in `mid`
    have hmid_eq : mid = mid' ++ [(op, (step index op).2)] := by
      rw [hold, List.append_assoc] at hsplit
      exact (List.cons.inj (List.append_cancel_left hsplit)).2.symm
    have hi : ¬ Issues token op := hmid (op, (step index op).2) (by rw [hmid_eq]; simp)
    have hmid' : ∀ e ∈ mid', ¬ Issues token e.1 := fun e he => hmid e (by rw [hmid_eq]; simp [he])
    rcases step_kept hi hrec with hkept | ⟨hcons', hreply⟩
    · exact hm token pre op' r mid' hold hcons hvalid hmid' rec hkept
    · obtain ⟨hno, -, -⟩ | ⟨rec', -, -, -, hstate⟩ := consume_cases index hcons'
      · rw [hreply] at hno
        cases hno
      · rw [hstate] at hrec
        cases hrec
        rfl

/-! ## Runs -/

section
variable (ops : List Op)

/-- **Run.** -/
theorem told_run : Told (machine.hist ∅ ops) (machine.run ∅ ops) := by
  have h0 : Told [] ∅ := fun token rec hrec => by simp at hrec
  exact Machine.hist_inv told_step ops h0

/-- **Run.** -/
theorem marked_run : Marked (machine.hist ∅ ops) (machine.run ∅ ops) := by
  have h0 : Marked [] ∅ := fun token pre op r mid hsplit => by simp at hsplit
  exact Machine.hist_inv marked_step ops h0

/-- No consuming request is ever told that the token was unconsumed. -/
theorem consumer_not_told {pre post : List (Op × Option HttpReply)} {op : Op} {r : Option HttpReply}
    {token : Blob 32}
    (h : machine.hist ∅ ops = pre ++ (op, r) :: post) (hc : Consumes token op) :
    saysUnconsumed r = false := by
  obtain ⟨is₁, is₂, -, -, rfl⟩ := Machine.hist_split h
  obtain ⟨hreply, -⟩ | ⟨rec, -, -, hreply, -⟩ := consume_cases (machine.run ∅ is₁) hc
  · exact (congrArg saysUnconsumed hreply).trans rfl
  · exact (congrArg saysUnconsumed hreply).trans rfl

/-- **Single use.** Over every run of a new verifier, the callers of every
token can tell the first consuming request from every later one exactly when
no request consumes a token that is stored, in time, and consumed. -/
theorem single_use_iff :
    (∀ token, SingleUse (machine.hist ∅ ops) token) ↔ machine.AllSteps NoReuse ∅ ops := by
  rw [Machine.allSteps_iff]
  constructor
  · rintro h is₁ op is₂ rfl
    by_contra hre
    -- only a consuming request can meet a consumed token
    obtain ⟨token, hcons⟩ : ∃ token, Consumes token op := by
      cases op with
      | issue => exact absurd trivial hre
      | validate now body =>
        cases body with
        | error => exact absurd trivial hre
        | ok req =>
          simp only [NoReuse, not_forall] at hre
          obtain ⟨hc, token, htoken, -⟩ := hre
          exact ⟨token, hc, htoken⟩
    obtain ⟨-, hno, -⟩ | ⟨rec, hrec, hiff, hreply, -⟩ := consume_cases (machine.run ∅ is₁) hcons
    · exact hre hno
    have hc : rec.consumed = true := by
      rw [hiff] at hre
      simpa using hre
    obtain ⟨pre, op₁, mid, hhist, hcons₁, hmid⟩ := told_run is₁ token rec hrec hc
    have hfirst : saysValid (some (recordReply rec true)) = true := rfl
    refine (h token).apart pre op₁ (some (recordReply rec true)) mid op (some (recordReply rec true))
      (machine.hist (machine.run ∅ (is₁ ++ [op])) is₂) ?_ hcons₁ hcons hfirst hmid rfl
    rw [Machine.hist_append, hhist, List.append_assoc, List.cons_append, Machine.run_append]
    show _ ++ _ :: (mid ++ (op, (step (machine.run ∅ is₁) op).2) :: _) = _
    rw [hreply]
    rfl
  · intro h token
    constructor
    · intro pre op₁ r₁ mid op₂ r₂ post hsplit hc₁ hc₂ hboth
      rw [consumer_not_told ops hsplit hc₁] at hboth
      exact absurd hboth.1 Bool.false_ne_true
    · intro pre op₁ r₁ mid op₂ r₂ post hsplit hc₁ hc₂ hvalid hmid heq
      have hsplit' : machine.hist ∅ ops = (pre ++ (op₁, r₁) :: mid) ++ (op₂, r₂) :: post := by
        rw [hsplit, List.append_assoc, List.cons_append]
      obtain ⟨is₁, is₂, hops, hpre, hr₂⟩ := Machine.hist_split hsplit'
      have hstep := h is₁ op₂ is₂ hops
      have hmarked := marked_run is₁ token pre op₁ r₁ mid hpre.symm hc₁ hvalid hmid
      obtain ⟨hreply, -, -⟩ | ⟨rec, hrec, hiff, -, -⟩ := consume_cases (machine.run ∅ is₁) hc₂
      · rw [← heq, hr₂, show (machine.step (machine.run ∅ is₁) op₂).2 = _ from hreply] at hvalid
        cases hvalid
      · have hc := hmarked rec hrec
        rw [hiff.mp hstep] at hc
        cases hc

end

def sampleIdentity : Identity where
  report := ReportC.goReport ReportC.blankReport []
  aik := ⟨0, 0⟩
  clientID := "player"
  hardwareID := Blob.zero 32

def sampleRecord : SessionTokenRecord where
  clientID := "player"
  hardwareID := Blob.zero 32
  validUntil := 3700
  resultCode := .ok
  flags := 0
  pcrMask := 0
  consumed := false

def consumeZero : Op :=
  .validate 100 (.ok { sessionToken := String.ofList (List.replicate 64 '0'), consume := true })

/-- A token that is issued once and consumed by two servers. -/
def twoConsumers : List Op :=
  [.issue 100 (Blob.zero 32) sampleIdentity 3700 .ok, consumeZero, consumeZero]

/-- Two servers consume one token, and both are told the same: the token is
valid and consumed. -/
theorem two_consumers_alike :
    Consumes (Blob.zero 32) consumeZero ∧
    (∃ reply, machine.outs ∅ twoConsumers = [none, some reply, some reply] ∧
      saysValid (some reply) = true) ∧
    ¬ SingleUse (machine.hist ∅ twoConsumers) (Blob.zero 32) := by
  have hcons : Consumes (Blob.zero 32) consumeZero := ⟨rfl, rfl⟩
  have hhist : machine.hist ∅ twoConsumers =
      [(.issue 100 (Blob.zero 32) sampleIdentity 3700 .ok, none)] ++
        (consumeZero, some (recordReply sampleRecord true)) ::
          ([] ++ (consumeZero, some (recordReply sampleRecord true)) :: []) := rfl
  refine ⟨hcons, ⟨recordReply sampleRecord true, rfl, rfl⟩, ?_⟩
  intro h
  exact h.apart _ _ _ _ _ _ _ hhist hcons hcons rfl (fun e he => absurd he List.not_mem_nil) rfl

end Lota.L3.SessionToken

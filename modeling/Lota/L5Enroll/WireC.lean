import Lota.L5Enroll.Wire

/-!
# Enrollment messages in the C agent (`agent/enroll.c`)

The agent writes the two requests and reads the two replies. Buffers are
lists of bytes of a fixed length, and every access checks its index: one
outside the buffer is the failure `fault`, which no errno stands for.

* `Ensures x P`: `x` does not fault, and its result satisfies `P`.
* `Matches R x y`: `x` does not fault, succeeds exactly when `y` does, and
  the results are related by `R`.
* `enroll_wire_agreement`: the four messages in Go and C together.
-/
namespace Lota.L5.Wire
open Lota.Core Lota.Core.Cursor

/-- The negative results of this file. -/
inductive Errno where
  | einval | emsgsize | ebadmsg | eproto | eprotonosupport | enospc
  deriving DecidableEq, Repr

inductive Fail where
  /-- An access outside a buffer. -/
  | fault
  | err (e : Errno)
  deriving DecidableEq, Repr

/-! ## Memory -/

def load (buf : Bytes) (i : Nat) : Except Fail UInt8 :=
  match buf[i]? with
  | some b => .ok b
  | none => .error .fault

/-- `memcpy(dst, buf + off, n)` into an array of `cap` bytes: what arrives. -/
def copyOut (buf : Bytes) (off n cap : Nat) : Except Fail Bytes :=
  if off + n > buf.length ∨ n > cap then .error .fault else .ok ((buf.drop off).take n)

/-- `memcpy(buf + off, data, sizeof data)`: the buffer afterwards. A store of
one byte is a copy of one byte. -/
def copyIn (buf : Bytes) (off : Nat) (data : Bytes) : Except Fail Bytes :=
  if off + data.length > buf.length then .error .fault
  else .ok (buf.take off ++ (data ++ buf.drop (off + data.length)))

/-! ## Reader -/

/-- mirrors src/agent/enroll.c:18-22 -/
structure Rd extends Cursor where
  len : Nat

def Rd.advance (r : Rd) (n : Nat) : Rd := { r with toCursor := r.toCursor.advance n }

/-- mirrors src/agent/enroll.c:24-31 -/
def rdU16 (r : Rd) : Except Fail (UInt16 × Rd) :=
  if r.off + 2 > r.len then .error (.err .ebadmsg)
  else do
    let hi ← load r.buf r.off
    let lo ← load r.buf (r.off + 1)
    .ok (hi.toUInt16 <<< 8 ||| lo.toUInt16, r.advance 2)

/-- mirrors src/agent/enroll.c:33-42 -/
def rdU32 (r : Rd) : Except Fail (UInt32 × Rd) :=
  if r.off + 4 > r.len then .error (.err .ebadmsg)
  else do
    let b0 ← load r.buf r.off
    let b1 ← load r.buf (r.off + 1)
    let b2 ← load r.buf (r.off + 2)
    let b3 ← load r.buf (r.off + 3)
    .ok (b0.toUInt32 <<< 24 ||| b1.toUInt32 <<< 16 ||| b2.toUInt32 <<< 8 ||| b3.toUInt32, r.advance 4)

/-- `cap` is the size of the array behind `dst`.
mirrors src/agent/enroll.c:45-59 -/
def rdBytes16 (r : Rd) (cap max : Nat) : Except Fail (Bytes × Rd) := do
  let (n, r) ← rdU16 r
  if n.toNat > max then .error (.err .emsgsize)
  else if r.off + n.toNat > r.len then .error (.err .ebadmsg)
  else do
    let out ← copyOut r.buf r.off n.toNat cap
    .ok (out, r.advance n.toNat)

/-- mirrors src/agent/enroll.c:61-77 -/
def rdPreamble (r : Rd) : Except Fail Rd := do
  let (m, r) ← rdU32 r
  if m ≠ magic then .error (.err .eproto)
  else do
    let (v, r) ← rdU16 r
    if v ≠ version then .error (.err .eprotonosupport) else .ok r

/-- mirrors src/agent/enroll.h:59-66; a blob with its length is its bytes,
the rest of its array is never looked at. -/
structure EnrollChallenge where
  status : UInt16
  sessionId : Blob (maxSessionIDSize + 1)
  credBlob : Bytes
  encSecret : Bytes

/-- mirrors src/agent/enroll.h:68-73 -/
structure EnrollResult where
  status : UInt16
  aikCert : Bytes
  deviceId : Blob (maxDeviceIDSize + 1)

/-- The zeroed array with a field copied to its front and a NUL behind it. -/
def terminate {n : Nat} (field : Bytes) : Except Fail (Blob n) :=
  if field.length < n then .ok (toBlob n field) else .error .fault

/-- mirrors src/agent/enroll.c:182-213 -/
def enrollDecodeChallenge (body : Option Bytes) : Except Fail EnrollChallenge :=
  match body with
  | none => .error (.err .einval)
  | some body => do
    let r ← rdPreamble ⟨⟨body, 0⟩, body.length⟩
    let (status, r) ← rdU16 r
    let (sid, r) ← rdBytes16 r (maxSessionIDSize + 1) maxSessionIDSize
    let sessionId ← terminate sid
    let (credBlob, r) ← rdBytes16 r maxCredBlobSize maxCredBlobSize
    let (encSecret, _) ← rdBytes16 r maxEncSecretSize maxEncSecretSize
    .ok { status, sessionId, credBlob, encSecret }

/-- mirrors src/agent/enroll.c:215-242 -/
def enrollDecodeResult (body : Option Bytes) : Except Fail EnrollResult :=
  match body with
  | none => .error (.err .einval)
  | some body => do
    let r ← rdPreamble ⟨⟨body, 0⟩, body.length⟩
    let (status, r) ← rdU16 r
    let (aikCert, r) ← rdBytes16 r maxAIKCertSize maxAIKCertSize
    let (dev, _) ← rdBytes16 r (maxDeviceIDSize + 1) maxDeviceIDSize
    let deviceId ← terminate dev
    .ok { status, aikCert, deviceId }

/-! ## Writer -/

/-- mirrors src/agent/enroll.c:81-85 -/
structure Wr where
  buf : Bytes
  max : Nat
  pos : Nat

/-- `w->buf[w->pos++] = b`. -/
def Wr.put (w : Wr) (b : UInt8) : Except Fail Wr := do
  let buf ← copyIn w.buf w.pos [b]
  .ok { w with buf, pos := w.pos + 1 }

/-- mirrors src/agent/enroll.c:87-94 -/
def wrU16 (w : Wr) (v : UInt16) : Except Fail Wr :=
  if w.pos + 2 > w.max then .error (.err .enospc)
  else do
    let w ← w.put (v >>> 8).toUInt8
    w.put v.toUInt8

/-- mirrors src/agent/enroll.c:96-105 -/
def wrU32 (w : Wr) (v : UInt32) : Except Fail Wr :=
  if w.pos + 4 > w.max then .error (.err .enospc)
  else do
    let w ← w.put (v >>> 24).toUInt8
    let w ← w.put (v >>> 16).toUInt8
    let w ← w.put (v >>> 8).toUInt8
    w.put v.toUInt8

/-- mirrors src/agent/enroll.c:107-120 -/
def wrBytes16 (w : Wr) (data : Bytes) : Except Fail Wr :=
  if data.length > 0xFFFF then .error (.err .emsgsize)
  else do
    let w ← wrU16 w (UInt16.ofNat data.length)
    if w.pos + data.length > w.max then .error (.err .enospc)
    else do
      let buf ← copyIn w.buf w.pos data
      .ok { w with buf, pos := w.pos + data.length }

/-- mirrors src/agent/enroll.c:122-128 -/
def wrPreamble (w : Wr) : Except Fail Wr := do
  let w ← wrU32 w magic
  wrU16 w version

/-- The number of bytes written and the buffer; `out` has `out_max` bytes.
mirrors src/agent/enroll.c:130-153 -/
def enrollEncodeBegin (out ekCert aikPublic : Option Bytes) : Except Fail (Nat × Bytes) :=
  match out, ekCert, aikPublic with
  | some out, some ekCert, some aikPublic =>
    if ekCert.length > maxEKCertSize ∨ aikPublic.length > maxAIKPublicSize then .error (.err .emsgsize)
    else do
      let w ← wrPreamble { buf := out, max := out.length, pos := 0 }
      let w ← wrBytes16 w ekCert
      let w ← wrBytes16 w aikPublic
      .ok (w.pos, w.buf)
  | _, _, _ => .error (.err .einval)

/-- The characters of a C string, in front of its NUL. -/
def CString := { chars : Bytes // (0 : UInt8) ∉ chars }

/-- mirrors src/agent/enroll.c:155-180 -/
def enrollEncodeComplete (out : Option Bytes) (sessionId : Option CString) (secret : Option Bytes) :
    Except Fail (Nat × Bytes) :=
  match out, sessionId, secret with
  | some out, some sessionId, some secret =>
    if sessionId.val.length > maxSessionIDSize ∨ secret.length > maxSecretSize
      then .error (.err .emsgsize)
    else do
      let w ← wrPreamble { buf := out, max := out.length, pos := 0 }
      let w ← wrBytes16 w sessionId.val
      let w ← wrBytes16 w secret
      .ok (w.pos, w.buf)
  | _, _, _ => .error (.err .einval)

/-! ## Results without a fault -/

def Ensures {α : Type} (x : Except Fail α) (P : α → Prop) : Prop :=
  match x with
  | .ok a => P a
  | .error e => e ≠ .fault

def Matches {α β ε : Type} (R : α → β → Prop) (x : Except Fail α) (y : Except ε β) : Prop :=
  match x, y with
  | .ok a, .ok b => R a b
  | .error e, .error _ => e ≠ .fault
  | _, _ => False

section
variable {α α' β β' ε : Type}

theorem Ensures.bind {x : Except Fail α} {f : α → Except Fail α'} {P : α → Prop} {Q : α' → Prop}
    (hx : Ensures x P)
    (hf : ∀ a, P a → Ensures (f a) Q) : Ensures (x >>= f) Q := by
  cases x with
  | error e => exact hx
  | ok a => exact hf a hx

theorem Ensures.imp {x : Except Fail α} {P Q : α → Prop} (hx : Ensures x P) (hpq : ∀ a, P a → Q a) :
    Ensures x Q := by
  cases x with
  | error e => exact hx
  | ok a => exact hpq a hx

theorem Ensures.err {e : Errno} {P : α → Prop} : Ensures (.error (.err e)) P := by
  intro h
  cases h

theorem Matches.bind {R : α → β → Prop} {S : α' → β' → Prop} {x : Except Fail α} {y : Except ε β}
    {f : α → Except Fail α'} {g : β → Except ε β'} (hxy : Matches R x y)
    (hfg : ∀ a b, R a b → Matches S (f a) (g b)) : Matches S (x >>= f) (y >>= g) := by
  cases x with
  | error e =>
    cases y with
    | error e' => exact hxy
    | ok b => exact hxy.elim
  | ok a =>
    cases y with
    | error e' => exact hxy.elim
    | ok b => exact hfg a b hxy

theorem Matches.err {R : α → β → Prop} {e : Errno} {e' : ε} :
    Matches R (.error (.err e)) (.error e') := by
  intro h
  cases h

/-- A match and a guard on each side. -/
theorem Matches.guard {R : α → β → Prop} {p q : Prop} [Decidable p] [Decidable q] {e : Errno} {e' : ε}
    {x : Except Fail α} {y : Except ε β} (hpq : p ↔ q) (hxy : ¬ p → Matches R x y) :
    Matches R (if p then .error (.err e) else x) (if q then .error e' else y) := by
  by_cases hp : p
  · rw [if_pos hp, if_pos (hpq.mp hp)]
    exact Matches.err
  · rw [if_neg hp, if_neg (fun hq => hp (hpq.mpr hq))]
    exact hxy hp

end

/-! ## The reader against Go's -/

theorem or_eq_add {n : Nat} (a : Nat) {b : Nat} (h : b < 2 ^ n) : a * 2 ^ n ||| b = a * 2 ^ n + b := by
  rw [← Nat.shiftLeft_eq, ← Nat.shiftLeft_add_eq_or_of_lt h]

theorem joinU16 (hi lo : UInt8) : hi.toUInt16 <<< 8 ||| lo.toUInt16 = UInt16.ofNat (ofBE [hi, lo]) := by
  have h1 := hi.toNat_lt
  have h2 := lo.toNat_lt
  have hbe : ofBE [hi, lo] = hi.toNat * 2 ^ 8 + lo.toNat := by
    simp only [ofBE, ofLE, List.reverse_cons, List.reverse_nil, List.nil_append, List.cons_append]
    omega
  have hshift : (hi.toUInt16 <<< 8).toNat = hi.toNat * 2 ^ 8 := by
    have h8 : (8 : UInt16).toNat % 16 = 8 := rfl
    rw [UInt16.toNat_shiftLeft, UInt8.toNat_toUInt16, h8, Nat.shiftLeft_eq, Nat.mod_eq_of_lt (by omega)]
  apply UInt16.toNat_inj.mp
  rw [UInt16.toNat_or, hshift, UInt8.toNat_toUInt16, or_eq_add _ h2, hbe, UInt16.toNat_ofNat']
  omega

theorem shiftU32 (b : UInt8) (k : UInt32) (hk : k.toNat ≤ 24) (hmod : k.toNat % 32 = k.toNat) :
    (b.toUInt32 <<< k).toNat = b.toNat * 2 ^ k.toNat := by
  have hb := b.toNat_lt
  have hpow : 2 ^ k.toNat ≤ 2 ^ 24 := Nat.pow_le_pow_right (by decide) hk
  have hprod : b.toNat * 2 ^ k.toNat ≤ 255 * 2 ^ 24 := Nat.mul_le_mul (by omega) hpow
  rw [UInt32.toNat_shiftLeft, UInt8.toNat_toUInt32, hmod, Nat.shiftLeft_eq, Nat.mod_eq_of_lt (by omega)]

theorem joinU32 (b0 b1 b2 b3 : UInt8) :
    b0.toUInt32 <<< 24 ||| b1.toUInt32 <<< 16 ||| b2.toUInt32 <<< 8 ||| b3.toUInt32 =
      UInt32.ofNat (ofBE [b0, b1, b2, b3]) := by
  have h0 := b0.toNat_lt
  have h1 := b1.toNat_lt
  have h2 := b2.toNat_lt
  have h3 := b3.toNat_lt
  have hbe : ofBE [b0, b1, b2, b3] = ((b0.toNat * 256 + b1.toNat) * 256 + b2.toNat) * 256 +
      b3.toNat := by
    simp only [ofBE, ofLE, List.reverse_cons, List.reverse_nil, List.nil_append, List.cons_append]
    omega
  -- the shifted bytes do not overlap, so each `|` is an addition
  have h24 : (b0.toUInt32 <<< 24).toNat = b0.toNat * 2 ^ 24 := shiftU32 b0 24 (by decide) (by decide)
  have h16 : (b1.toUInt32 <<< 16).toNat = b1.toNat * 2 ^ 16 := shiftU32 b1 16 (by decide) (by decide)
  have h8 : (b2.toUInt32 <<< 8).toNat = b2.toNat * 2 ^ 8 := shiftU32 b2 8 (by decide) (by decide)
  have hor1 : b0.toNat * 2 ^ 24 ||| b1.toNat * 2 ^ 16 = (b0.toNat * 256 + b1.toNat) * 2 ^ 16 := by
    rw [or_eq_add b0.toNat (by omega : b1.toNat * 2 ^ 16 < 2 ^ 24)]
    omega
  have hor2 : (b0.toNat * 256 + b1.toNat) * 2 ^ 16 ||| b2.toNat * 2 ^ 8 =
      ((b0.toNat * 256 + b1.toNat) * 256 + b2.toNat) * 2 ^ 8 := by
    rw [or_eq_add _ (by omega : b2.toNat * 2 ^ 8 < 2 ^ 16)]
    omega
  have hor3 := or_eq_add ((b0.toNat * 256 + b1.toNat) * 256 + b2.toNat) (by omega : b3.toNat < 2 ^ 8)
  apply UInt32.toNat_inj.mp
  rw [UInt32.toNat_or, UInt32.toNat_or, UInt32.toNat_or, h24, h16, h8, UInt8.toNat_toUInt32, hor1,
    hor2, hor3, hbe, UInt32.toNat_ofNat']
  omega

theorem load_ok {buf : Bytes} {i : Nat} (h : i < buf.length) : load buf i = .ok buf[i] := by
  unfold load
  rw [List.getElem?_eq_getElem h]

/-- The same value, and readers at the same place of a full buffer. -/
structure SameRead {α : Type} (x : α × Rd) (y : α × Cursor) : Prop where
  value : x.1 = y.1
  cursor : x.2.toCursor = y.2
  full : x.2.buf.length = x.2.len

section
variable {r : Rd} (hr : r.buf.length = r.len)
include hr

theorem rdU16_matches : Matches SameRead (rdU16 r) (readU16 r.toCursor) := by
  unfold rdU16 readU16
  apply Matches.guard
  · rw [hr]
  · intro hb
    rw [load_ok (by omega : r.off < r.buf.length), load_ok (by omega : r.off + 1 < r.buf.length)]
    refine ⟨?_, rfl, hr⟩
    have htake : r.toCursor.rest.take 2 = [r.buf[r.off], r.buf[r.off + 1]] := by
      unfold Cursor.rest
      rw [List.drop_eq_getElem_cons (by omega : r.off < r.buf.length),
        List.drop_eq_getElem_cons (by omega : r.off + 1 < r.buf.length)]
      rfl
    rw [htake]
    exact joinU16 _ _

theorem rdBytes16_matches {cap max : Nat} (hcap : max ≤ cap) :
    Matches SameRead (rdBytes16 r cap max) (readBytes16 r.toCursor max) := by
  unfold rdBytes16 readBytes16
  refine (rdU16_matches hr).bind ?_
  intro ⟨n, r₁⟩ ⟨n', d⟩ h
  obtain ⟨hn, hd, hfull⟩ := h
  simp only at hn hd hfull ⊢
  subst hn
  subst hd
  apply Matches.guard Iff.rfl
  intro hmax
  apply Matches.guard
  · rw [hfull]
  · intro hb
    have hcopy : copyOut r₁.buf r₁.off n.toNat cap = .ok ((r₁.buf.drop r₁.off).take n.toNat) := by
      unfold copyOut
      rw [if_neg (by omega)]
    rw [hcopy]
    exact ⟨rfl, rfl, hfull⟩

end

theorem rdU32_ok {r : Rd} (hr : r.buf.length = r.len) (hb : r.off + 4 ≤ r.len) :
    rdU32 r = .ok (UInt32.ofNat (ofBE (r.toCursor.rest.take 4)), r.advance 4) := by
  have htake : r.toCursor.rest.take 4 =
      [r.buf[r.off], r.buf[r.off + 1], r.buf[r.off + 2], r.buf[r.off + 3]] := by
    unfold Cursor.rest
    rw [List.drop_eq_getElem_cons (by omega : r.off < r.buf.length),
      List.drop_eq_getElem_cons (by omega : r.off + 1 < r.buf.length),
      List.drop_eq_getElem_cons (by omega : r.off + 2 < r.buf.length),
      List.drop_eq_getElem_cons (by omega : r.off + 3 < r.buf.length)]
    rfl
  unfold rdU32
  rw [if_neg (by omega), load_ok (by omega : r.off < r.buf.length),
    load_ok (by omega : r.off + 1 < r.buf.length),
    load_ok (by omega : r.off + 2 < r.buf.length), load_ok (by omega : r.off + 3 < r.buf.length),
    htake, ← joinU32]
  rfl

/-- The preambles: a short buffer may fail for another reason in C, and fails
in both. -/
theorem rdPreamble_matches (body : Bytes) :
    Matches (fun r d => r.toCursor = d ∧ r.buf.length = r.len) (rdPreamble ⟨⟨body, 0⟩, body.length⟩)
      (newDecoder body) := by
  unfold rdPreamble newDecoder
  by_cases h4 : body.length < 4
  · have hshort : rdU32 ⟨⟨body, 0⟩, body.length⟩ = .error (.err .ebadmsg) := by
      unfold rdU32
      exact if_pos (by simp only; omega)
    rw [hshort, if_pos (by omega)]
    exact Matches.err
  · have hmagic := rdU32_ok (r := ⟨⟨body, 0⟩, body.length⟩) rfl (by simp only; omega)
    have h16 := rdU16_matches (r := (⟨⟨body, 0⟩, body.length⟩ : Rd).advance 4) rfl
    rw [hmagic]
    simp only [bind, Except.bind, Cursor.rest, List.drop_zero]
    by_cases h6 : body.length < 6
    · have hshort : rdU16 ((⟨⟨body, 0⟩, body.length⟩ : Rd).advance 4) = .error (.err .ebadmsg) := by
        unfold rdU16
        exact if_pos (by simp only [Rd.advance, Cursor.advance]; omega)
      rw [if_pos h6, hshort]
      split
      · exact Matches.err
      · exact Matches.err
    · rw [if_neg h6]
      apply Matches.guard Iff.rfl
      intro hm
      have hread : readU16 ((⟨⟨body, 0⟩, body.length⟩ : Rd).advance 4).toCursor =
          .ok (UInt16.ofNat (ofBE ((body.drop 4).take 2)), ⟨body, 6⟩) := by
        unfold readU16
        exact if_neg (by simp only [Rd.advance, Cursor.advance]; omega)
      rw [hread] at h16
      cases hv : rdU16 ((⟨⟨body, 0⟩, body.length⟩ : Rd).advance 4) with
      | error e =>
        rw [hv] at h16
        exact h16.elim
      | ok x =>
        obtain ⟨v, r⟩ := x
        rw [hv] at h16
        obtain ⟨hval, hcur, hfull⟩ := h16
        simp only at hval hcur hfull ⊢
        subst hval
        apply Matches.guard Iff.rfl
        intro _
        exact ⟨hcur, hfull⟩

/-! ## The decoders against Go's -/

/-- The string an array of `char` holds. -/
def cString (chars : Bytes) : Bytes := chars.takeWhile (· ≠ 0)

theorem cString_append {xs ys : Bytes} (h : (0 : UInt8) ∉ xs) : cString (xs ++ 0 :: ys) = xs := by
  unfold cString
  rw [List.takeWhile_append_of_pos]
  · simp
  · intro x hx
    simp only [ne_eq, decide_not, Bool.not_eq_eq_eq_not, Bool.not_true, decide_eq_false_iff_not]
    intro h0
    rw [h0] at hx
    exact h hx

/-- The array holds the field and a NUL behind it. -/
theorem terminate_ok {n : Nat} {field : Bytes} (h : field.length < n) :
    ∃ b : Blob n, terminate field = .ok b ∧ ((0 : UInt8) ∉ field → cString b.toList = field) := by
  refine ⟨toBlob n field, if_pos h, ?_⟩
  intro h0
  have hlist : (toBlob n field).toList = field ++ 0 :: List.replicate (n - field.length - 1) 0 := by
    show (field ++ List.replicate n 0).take n = _
    rw [List.take_append, List.take_of_length_le (by omega), List.take_replicate, ← List.replicate_succ]
    congr 2
    omega
  rw [hlist, cString_append h0]

/-- The reply as both sides see it. -/
structure SameChallenge (c : EnrollChallenge) (r : ChallengeReply) : Prop where
  status : c.status = r.status
  credBlob : c.credBlob = r.credentialBlob
  encSecret : c.encSecret = r.encryptedSecret
  sessionId : (0 : UInt8) ∉ r.sessionID → cString c.sessionId.toList = r.sessionID

structure SameResult (c : EnrollResult) (r : ResultReply) : Prop where
  status : c.status = r.status
  aikCert : c.aikCert = r.aikCertDER
  deviceId : (0 : UInt8) ∉ r.deviceID → cString c.deviceId.toList = r.deviceID

/-- What was read is within the limit. -/
theorem readBytes16_le {d d' : Cursor} {max : Nat} {out : Bytes}
    (h : readBytes16 d max = .ok (out, d')) : out.length ≤ max := by
  unfold readBytes16 at h
  obtain ⟨⟨n, d₁⟩, -, h⟩ := except_bind_ok.mp h
  obtain ⟨hle, h⟩ := except_guard_ok.mp h
  obtain ⟨-, h⟩ := except_guard_ok.mp h
  obtain ⟨rfl, -⟩ := Prod.mk.inj (Except.ok.inj h)
  rw [List.length_take]
  omega

/-- A field, with its length at hand. -/
theorem rdBytes16_field {r : Rd} (hr : r.buf.length = r.len) {cap max : Nat} (hcap : max ≤ cap) :
    Matches (fun x y => SameRead x y ∧ x.1.length ≤ max) (rdBytes16 r cap max)
    (readBytes16 r.toCursor max) := by
  have hm := rdBytes16_matches hr hcap
  cases hc : rdBytes16 r cap max with
  | error e =>
    rw [hc] at hm
    cases hg : readBytes16 r.toCursor max with
    | error e' =>
      rw [hg] at hm
      exact hm
    | ok y =>
      rw [hg] at hm
      exact hm.elim
  | ok x =>
    rw [hc] at hm
    cases hg : readBytes16 r.toCursor max with
    | error e' =>
      rw [hg] at hm
      exact hm.elim
    | ok y =>
      rw [hg] at hm
      refine ⟨hm, ?_⟩
      rw [hm.value]
      exact readBytes16_le hg

theorem decodeChallenge_matches (body : Bytes) :
    Matches SameChallenge (enrollDecodeChallenge (some body)) (decodeChallenge body) := by
  unfold enrollDecodeChallenge decodeChallenge
  refine (rdPreamble_matches body).bind ?_
  rintro r _ ⟨rfl, hr⟩
  refine (rdU16_matches hr).bind ?_
  rintro ⟨status, r₁⟩ ⟨_, _⟩ ⟨rfl, rfl, hr₁⟩
  refine (rdBytes16_field hr₁ (by decide)).bind ?_
  rintro ⟨sid, r₂⟩ ⟨_, _⟩ ⟨⟨rfl, rfl, hr₂⟩, hlen⟩
  obtain ⟨b, hb, hstr⟩ := terminate_ok (n := maxSessionIDSize + 1) (Nat.lt_succ_of_le hlen)
  simp only at hr₂ hb ⊢
  rw [hb]
  refine (rdBytes16_matches hr₂ (by decide)).bind ?_
  rintro ⟨cred, r₃⟩ ⟨_, _⟩ ⟨rfl, rfl, hr₃⟩
  refine (rdBytes16_matches hr₃ (by decide)).bind ?_
  rintro ⟨secret, r₄⟩ ⟨_, _⟩ ⟨rfl, rfl, hr₄⟩
  exact ⟨rfl, rfl, rfl, hstr⟩

theorem decodeResult_matches (body : Bytes) :
    Matches SameResult (enrollDecodeResult (some body)) (decodeResult body) := by
  unfold enrollDecodeResult decodeResult
  refine (rdPreamble_matches body).bind ?_
  rintro r _ ⟨rfl, hr⟩
  refine (rdU16_matches hr).bind ?_
  rintro ⟨status, r₁⟩ ⟨_, _⟩ ⟨rfl, rfl, hr₁⟩
  refine (rdBytes16_matches hr₁ (by decide)).bind ?_
  rintro ⟨cert, r₂⟩ ⟨_, _⟩ ⟨rfl, rfl, hr₂⟩
  refine (rdBytes16_field hr₂ (by decide)).bind ?_
  rintro ⟨dev, r₃⟩ ⟨_, _⟩ ⟨⟨rfl, rfl, hr₃⟩, hlen⟩
  obtain ⟨b, hb, hstr⟩ := terminate_ok (n := maxDeviceIDSize + 1) (Nat.lt_succ_of_le hlen)
  simp only at hb ⊢
  rw [hb]
  exact ⟨rfl, rfl, hstr⟩

/-! ## The encoders -/

/-- The writer has put `bs` at the front of its buffer. -/
structure Wrote (size : Nat) (bs : Bytes) (w : Wr) : Prop where
  size_eq : w.max = size
  full : w.buf.length = w.max
  pos : w.pos = bs.length
  bytes : w.buf.take w.pos = bs

section
variable {size : Nat} {bs : Bytes} {w : Wr}

theorem Wrote.copy (h : Wrote size bs w) (data : Bytes) (hfit : w.pos + data.length ≤ w.max) :
    ∃ buf, copyIn w.buf w.pos data = .ok buf ∧
    Wrote size (bs ++ data) { w with buf, pos := w.pos + data.length } := by
  have hfull := h.full
  have htake : (w.buf.take w.pos).length = w.pos := by
    rw [List.length_take]
    omega
  refine ⟨_, if_neg (by omega), h.size_eq, ?_, ?_, ?_⟩
  · simp only [List.length_append, List.length_drop, htake]
    omega
  · rw [List.length_append, ← h.pos]
  · show (w.buf.take w.pos ++ (data ++ w.buf.drop (w.pos + data.length))).take
        (w.pos + data.length) = bs ++ data
    rw [← List.append_assoc, List.take_left' (by rw [List.length_append, htake]), h.bytes]

theorem put_ok (h : Wrote size bs w) (hfit : w.pos < w.max) (b : UInt8) :
    ∃ w', w.put b = .ok w' ∧ Wrote size (bs ++ [b]) w' ∧ w'.pos = w.pos + 1 ∧ w'.max = w.max := by
  obtain ⟨buf, hcopy, hw⟩ := h.copy [b] hfit
  unfold Wr.put
  rw [hcopy]
  exact ⟨_, rfl, hw, rfl, rfl⟩

theorem put_ensures (h : Wrote size bs w) (hfit : w.pos < w.max) (b : UInt8) :
    Ensures (w.put b) fun w' => Wrote size (bs ++ [b]) w' ∧ w'.pos = w.pos + 1 ∧ w'.max = w.max := by
  obtain ⟨w', hput, hw⟩ := put_ok h hfit b
  rw [hput]
  exact hw

theorem splitU16 (v : UInt16) : [(v >>> 8).toUInt8, v.toUInt8] = u16Bytes v := by
  have h1 : (v >>> 8).toUInt8 = UInt8.ofNat (v.toNat / 256) := by
    apply UInt8.toNat_inj.mp
    have h8 : (8 : UInt16).toNat % 16 = 8 := rfl
    rw [UInt16.toNat_toUInt8, UInt16.toNat_shiftRight, h8, UInt8.toNat_ofNat',
      Nat.shiftRight_eq_div_pow]
  have h2 : v.toUInt8 = UInt8.ofNat v.toNat := by
    apply UInt8.toNat_inj.mp
    rw [UInt16.toNat_toUInt8, UInt8.toNat_ofNat']
  rw [h1, h2]
  rfl

theorem wrU16_ensures (h : Wrote size bs w) (v : UInt16) :
    Ensures (wrU16 w v) (Wrote size (bs ++ u16Bytes v)) := by
  unfold wrU16
  split
  · exact Ensures.err
  · rename_i hfit
    refine (put_ensures h (by omega) _).bind ?_
    intro w₁ ⟨h₁, hp₁, hm₁⟩
    have hlast := put_ensures h₁ (by omega) v.toUInt8
    rw [List.append_assoc, List.singleton_append, splitU16] at hlast
    exact hlast.imp fun _ h₂ => h₂.1

/-- The four bytes of the magic. -/
theorem wrMagic_ensures (h : Wrote size [] w) :
    Ensures (wrU32 w magic) (Wrote size (toBE 4 magic.toNat)) := by
  unfold wrU32
  split
  · exact Ensures.err
  · rename_i hfit
    refine (put_ensures h (by omega) _).bind ?_
    intro w₁ ⟨h₁, hp₁, hm₁⟩
    refine (put_ensures h₁ (by omega) _).bind ?_
    intro w₂ ⟨h₂, hp₂, hm₂⟩
    refine (put_ensures h₂ (by omega) _).bind ?_
    intro w₃ ⟨h₃, hp₃, hm₃⟩
    exact (put_ensures h₃ (by omega) magic.toUInt8).imp fun _ h₄ => h₄.1

theorem wrPreamble_ensures (h : Wrote size [] w) : Ensures (wrPreamble w) (Wrote size preamble) := by
  unfold wrPreamble
  refine (wrMagic_ensures h).bind ?_
  intro w₁ h₁
  exact wrU16_ensures h₁ version

theorem wrBytes16_ensures (h : Wrote size bs w) (data : Bytes) :
    Ensures (wrBytes16 w data) (Wrote size (bs ++ bytes16 data)) := by
  unfold wrBytes16
  split
  · exact Ensures.err
  · refine (wrU16_ensures h _).bind ?_
    intro w₁ h₁
    split
    · exact Ensures.err
    · rename_i hfit
      obtain ⟨buf, hcopy, hw⟩ := h₁.copy data (by omega)
      rw [hcopy]
      rw [List.append_assoc] at hw
      exact hw

end

/-- What an encoder leaves behind: `n` bytes at the front of a buffer of the
old size that Go decodes to `r`. -/
def Decodes {α : Type} (decode : Bytes → Except WireError α) (size : Nat) (r : α)
    (res : Nat × Bytes) : Prop :=
  res.2.length = size ∧ res.1 ≤ size ∧ decode (res.2.take res.1) = .ok r

theorem Wrote.decodes {α : Type} {decode : Bytes → Except WireError α} {size : Nat} {bs : Bytes}
    {w : Wr} {r : α}
    (h : Wrote size bs w) (hdec : decode bs = .ok r) : Decodes decode size r (w.pos, w.buf) := by
  have hlen := h.full.trans h.size_eq
  refine ⟨hlen, ?_, ?_⟩
  · have htake := congrArg List.length h.bytes
    rw [List.length_take, ← h.pos] at htake
    show w.pos ≤ size
    omega
  · show decode (w.buf.take w.pos) = .ok r
    rw [h.bytes]
    exact hdec

theorem start_wrote (out : Bytes) : Wrote out.length [] { buf := out, max := out.length, pos := 0 } :=
  ⟨rfl, rfl, rfl, rfl⟩

theorem encodeBegin_ensures (out ekCert aikPublic : Option Bytes) :
    Ensures (enrollEncodeBegin out ekCert aikPublic) fun res => ∃ o e a, out = some o ∧
    ekCert = some e ∧
      aikPublic = some a ∧ Decodes decodeBegin o.length { ekCertDER := e, aikPublic := a } res := by
  unfold enrollEncodeBegin
  split
  · rename_i o e a
    split
    · exact Ensures.err
    · rename_i hlim
      obtain ⟨h1, h2⟩ := not_or.mp hlim
      refine (wrPreamble_ensures (start_wrote o)).bind ?_
      intro w₁ hw₁
      refine (wrBytes16_ensures hw₁ e).bind ?_
      intro w₂ hw₂
      refine (wrBytes16_ensures hw₂ a).bind ?_
      intro w₃ hw₃
      refine ⟨o, e, a, rfl, rfl, rfl, hw₃.decodes ?_⟩
      rw [List.append_assoc]
      exact decodeBegin_ok.mpr ⟨⟨Nat.not_lt.mp h1, Nat.not_lt.mp h2⟩, List.prefix_refl _⟩
  · exact Ensures.err

theorem encodeComplete_ensures (out : Option Bytes) (sessionId : Option CString)
    (secret : Option Bytes) :
    Ensures (enrollEncodeComplete out sessionId secret) fun res => ∃ o sid sec, out = some o ∧
    sessionId = some sid ∧
      secret = some sec ∧
      Decodes decodeComplete o.length { sessionID := sid.val, secret := sec } res := by
  unfold enrollEncodeComplete
  split
  · rename_i o sid sec
    split
    · exact Ensures.err
    · rename_i hlim
      obtain ⟨h1, h2⟩ := not_or.mp hlim
      refine (wrPreamble_ensures (start_wrote o)).bind ?_
      intro w₁ hw₁
      refine (wrBytes16_ensures hw₁ sid.val).bind ?_
      intro w₂ hw₂
      refine (wrBytes16_ensures hw₂ sec).bind ?_
      intro w₃ hw₃
      refine ⟨o, sid, sec, rfl, rfl, rfl, hw₃.decodes ?_⟩
      rw [List.append_assoc]
      exact decodeComplete_ok.mpr ⟨⟨Nat.not_lt.mp h1, Nat.not_lt.mp h2⟩, List.prefix_refl _⟩
  · exact Ensures.err

/-! ## The encoders succeed -/

section
variable {size : Nat} {bs : Bytes} {w : Wr}

theorem wrU16_ok (h : Wrote size bs w) (hfit : bs.length + 2 ≤ size) (v : UInt16) :
    ∃ w', wrU16 w v = .ok w' := by
  have hpos := h.pos
  have hsize := h.size_eq
  obtain ⟨w₁, hput₁, h₁, hp₁, hm₁⟩ := put_ok h (by omega) (v >>> 8).toUInt8
  obtain ⟨w₂, hput₂, -⟩ := put_ok h₁ (by omega) v.toUInt8
  refine ⟨w₂, ?_⟩
  unfold wrU16
  rw [if_neg (by omega), hput₁]
  exact hput₂

theorem wrU32_ok (h : Wrote size bs w) (hfit : bs.length + 4 ≤ size) (v : UInt32) :
    ∃ w', wrU32 w v = .ok w' := by
  have hpos := h.pos
  have hsize := h.size_eq
  obtain ⟨w₁, hput₁, h₁, hp₁, hm₁⟩ := put_ok h (by omega) (v >>> 24).toUInt8
  obtain ⟨w₂, hput₂, h₂, hp₂, hm₂⟩ := put_ok h₁ (by omega) (v >>> 16).toUInt8
  obtain ⟨w₃, hput₃, h₃, hp₃, hm₃⟩ := put_ok h₂ (by omega) (v >>> 8).toUInt8
  obtain ⟨w₄, hput₄, -⟩ := put_ok h₃ (by omega) v.toUInt8
  refine ⟨w₄, ?_⟩
  unfold wrU32
  rw [if_neg (by omega), hput₁]
  simp only [bind, Except.bind, hput₂, hput₃]
  exact hput₄

/-- The result of a writer that succeeds. -/
theorem Ensures.of_ok {x : Except Fail Wr} {P : Wr → Prop} (h : Ensures x P) {w' : Wr}
    (hok : x = .ok w') : P w' := by
  rw [hok] at h
  exact h

theorem wrPreamble_ok (h : Wrote size [] w) (hfit : 6 ≤ size) :
    ∃ w', wrPreamble w = .ok w' ∧ Wrote size preamble w' := by
  obtain ⟨w₁, hmagic⟩ := wrU32_ok h (by simp; omega) magic
  have hens := wrPreamble_ensures h
  cases hw : wrPreamble w with
  | ok w' =>
    rw [hw] at hens
    exact ⟨w', rfl, hens⟩
  | error e =>
    exfalso
    have h₁ : Wrote size (toBE 4 magic.toNat) w₁ := (wrMagic_ensures h).of_ok hmagic
    obtain ⟨w₂, hver⟩ := wrU16_ok h₁ (by simp; omega) version
    unfold wrPreamble at hw
    rw [hmagic] at hw
    simp only [bind, Except.bind, hver] at hw
    cases hw

theorem wrBytes16_ok (h : Wrote size bs w) (data : Bytes) (hlen : data.length ≤ 0xFFFF)
    (hfit : bs.length + (2 + data.length) ≤ size) :
    ∃ w', wrBytes16 w data = .ok w' ∧ Wrote size (bs ++ bytes16 data) w' := by
  obtain ⟨w₁, hlen₁⟩ := wrU16_ok h (by omega) (UInt16.ofNat data.length)
  have h₁ := (wrU16_ensures h (UInt16.ofNat data.length)).of_ok hlen₁
  have hpos₁ := h₁.pos
  have hsize₁ := h₁.size_eq
  rw [List.length_append, u16Bytes_length] at hpos₁
  obtain ⟨buf, hcopy, hw⟩ := h₁.copy data (by omega)
  rw [List.append_assoc] at hw
  refine ⟨_, ?_, hw⟩
  unfold wrBytes16
  rw [if_neg (by omega), hlen₁]
  simp only [bind, Except.bind, if_neg (by omega : ¬ w₁.pos + data.length > w₁.max), hcopy]

end

theorem bytes16_length (data : Bytes) : (bytes16 data).length = 2 + data.length := by
  unfold bytes16
  rw [List.length_append, u16Bytes_length]

/-- Within the limits and with room for it, `Begin` is written. -/
theorem encodeBegin_ok {out : Bytes} {r : BeginRequest} (h : r.Within)
    (hroom : 10 + r.ekCertDER.length + r.aikPublic.length ≤ out.length) :
    ∃ res, enrollEncodeBegin (some out) (some r.ekCertDER) (some r.aikPublic) = .ok res := by
  have h1 : r.ekCertDER.length ≤ 2048 := h.1
  have h2 : r.aikPublic.length ≤ 1024 := h.2
  obtain ⟨w₁, hp, hw₁⟩ := wrPreamble_ok (start_wrote out) (by omega)
  obtain ⟨w₂, he, hw₂⟩ := wrBytes16_ok hw₁ r.ekCertDER (by omega) (by rw [preamble_length]; omega)
  obtain ⟨w₃, ha, -⟩ := wrBytes16_ok hw₂ r.aikPublic (by omega)
    (by rw [List.length_append, preamble_length, bytes16_length]; omega)
  refine ⟨(w₃.pos, w₃.buf), ?_⟩
  unfold enrollEncodeBegin
  simp only
  rw [if_neg (not_or.mpr ⟨Nat.not_lt.mpr h.1, Nat.not_lt.mpr h.2⟩), hp]
  simp only [bind, Except.bind, he, ha]

/-- Within the limits and with room for it, `Complete` is written. -/
theorem encodeComplete_ok {out secret : Bytes} {sessionId : CString}
    (h1 : sessionId.val.length ≤ maxSessionIDSize)
    (h2 : secret.length ≤ maxSecretSize)
    (hroom : 10 + sessionId.val.length + secret.length ≤ out.length) :
    ∃ res, enrollEncodeComplete (some out) (some sessionId) (some secret) = .ok res := by
  have h1' : sessionId.val.length ≤ 64 := h1
  have h2' : secret.length ≤ 64 := h2
  obtain ⟨w₁, hp, hw₁⟩ := wrPreamble_ok (start_wrote out) (by omega)
  obtain ⟨w₂, he, hw₂⟩ := wrBytes16_ok hw₁ sessionId.val (by omega) (by rw [preamble_length]; omega)
  obtain ⟨w₃, ha, -⟩ := wrBytes16_ok hw₂ secret (by omega)
    (by rw [List.length_append, preamble_length, bytes16_length]; omega)
  refine ⟨(w₃.pos, w₃.buf), ?_⟩
  unfold enrollEncodeComplete
  simp only
  rw [if_neg (not_or.mpr ⟨Nat.not_lt.mpr h1, Nat.not_lt.mpr h2⟩), hp]
  simp only [bind, Except.bind, he, ha]

/-! ## Go and C together -/

/-- **Agreement.** In Go every message within the limits is read back, and
what is accepted starts with the encoding of the result. What the C encoders
write, Go decodes to the same fields, and they write every message within the
limits that fits the buffer. On every byte string the C decoders
accept exactly when the Go decoders do, with the same fields, identifiers
without NUL. No encoder or decoder in C leaves its buffers. -/
theorem enroll_wire_agreement :
    (RoundTrips encodeBegin decodeBegin BeginRequest.Within ∧
      RoundTrips encodeChallenge decodeChallenge ChallengeReply.Within ∧
      RoundTrips encodeComplete decodeComplete CompleteRequest.Within ∧
      RoundTrips encodeResult decodeResult ResultReply.Within) ∧
    (∀ out ekCert aikPublic, Ensures (enrollEncodeBegin out ekCert aikPublic) fun res => ∃ o e a,
      out = some o ∧
      ekCert = some e ∧ aikPublic = some a ∧
      Decodes decodeBegin o.length { ekCertDER := e, aikPublic := a } res) ∧
    (∀ out sessionId secret, Ensures (enrollEncodeComplete out sessionId secret)
      fun res => ∃ o sid sec, out = some o ∧ sessionId = some sid ∧ secret = some sec ∧
        Decodes decodeComplete o.length { sessionID := sid.val, secret := sec } res) ∧
    (∀ (out : Bytes) (r : BeginRequest), r.Within → 10 + r.ekCertDER.length +
      r.aikPublic.length ≤ out.length →
      ∃ res, enrollEncodeBegin (some out) (some r.ekCertDER) (some r.aikPublic) = .ok res) ∧
    (∀ (out : Bytes) (sid : CString) (secret : Bytes), sid.val.length ≤ maxSessionIDSize →
      secret.length ≤ maxSecretSize → 10 + sid.val.length + secret.length ≤ out.length →
      ∃ res, enrollEncodeComplete (some out) (some sid) (some secret) = .ok res) ∧
    (∀ body, Matches SameChallenge (enrollDecodeChallenge (some body)) (decodeChallenge body)) ∧
    (∀ body, Matches SameResult (enrollDecodeResult (some body)) (decodeResult body)) ∧
    enrollDecodeChallenge none ≠ .error .fault ∧ enrollDecodeResult none ≠ .error .fault := by
  refine ⟨⟨begin_roundTrips, challenge_roundTrips, complete_roundTrips, result_roundTrips⟩,
    encodeBegin_ensures,
    encodeComplete_ensures, fun out r => encodeBegin_ok, fun out sid secret => encodeComplete_ok,
    decodeChallenge_matches, decodeResult_matches, ?_, ?_⟩
  · intro h
    cases h
  · intro h
    cases h

end Lota.L5.Wire

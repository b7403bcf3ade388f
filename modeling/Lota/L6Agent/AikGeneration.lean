import Lota.Core.Machine
import Mathlib.Algebra.Group.Nat.Defs
import Mathlib.Logic.Function.Basic

/-!
# The AIK generation and the enrollment (`agent/tpm.c`, `agent/enroll_client.c`)

Three things have to agree: the AIK in the TPM, the metadata file with its
generation, and the enrollment record, which keeps the generation its
certificate was issued for. A rotation raises the generation. A key made by
`tpm_provision_aik` or `tpm_reprovision_aik` does not: it keeps the generation
the process has loaded, and 1 when it has loaded none.

Any number of processes share the files and the TPM, each with metadata of
its own in memory. What the TPM, the CA and the auth file answer during a call
is an input of the call.

* `provision_inv`, `reprovision_inv`, `rotate_inv`, `enroll_inv`: what the
  calls keep, and when.
* `certified_key_live`: in every run whose new keys fit, equal generations
  mean that the stored certificate is for the AIK in the TPM, and a process
  that has the metadata of the disk reports when it is not.
* `reprovision_keeps_generation`: a run in which they are equal and it is not.
-/
namespace Lota.L6.AikGeneration
open Lota.Core

inductive Errno where
  | einval | eacces | ekeyrevoked | eio
  /-- An error of the TPM. -/
  | tpm
  /-- `LOTA_ERR_TPM_POLICY_FAIL` -/
  | policyFail
  deriving DecidableEq, Repr

/-- mirrors src/agent/tpm.h:217-225; the agent is the only writer, so the
magic and the version are its constants. -/
structure AikMetadata where
  generation : UInt64
  provisionedAt : Int
  lastRotatedAt : Int
  deriving DecidableEq

/-- The metadata a process has in memory. -/
structure Ctx where
  initialized : Bool
  aikMetaLoaded : Bool
  aikMeta : AikMetadata
  deriving DecidableEq

/-- The AIK in the TPM and the files: the metadata, the `aik_generation` of
the enrollment record, and the key the stored certificate is for. -/
structure Host (Key : Type) where
  aik : Option Key
  metaFile : Option AikMetadata
  enrollState : Option UInt64
  aikCert : Option Key
  deriving DecidableEq

/-- What one process sees. -/
structure View (Key : Type) where
  ctx : Ctx
  host : Host Key

/-- What the world answers during one call. -/
structure Env (Key : Type) where
  now : Int
  /-- `tpm_init` -/
  initOk : Bool
  /-- `tpm_verify_device_identity` -/
  identityOk : Bool
  /-- `aik_exists` could read the handles. -/
  existsOk : Bool
  /-- `tpm_aik_load_auth` -/
  authLoad : Except Errno Unit
  /-- `seal_aik_auth_strict` -/
  strict : Bool
  generateAuthOk : Bool
  evictOk : Bool
  /-- `create_aik_primary` -/
  created : Option Key
  persistOk : Bool
  saveAuthOk : Bool
  /-- The CA has issued a certificate for the AIK of the request and it is
  stored. -/
  caOk : Bool
  /-- `enroll_state_save` -/
  enrollSaveOk : Bool

variable {Key : Type}

/-! ## The calls -/

/-- mirrors src/agent/tpm.c:3578-3641 (`tpm_aik_reprovision_with_auth`) -/
def reprovisionWithAuth (env : Env Key) (hadExistingAik : Bool) (h : Host Key) :
    Host Key × Except Errno Unit :=
  if env.generateAuthOk = false then (h, .error .eio)
  else if (hadExistingAik && h.aik.isSome) = true ∧ env.evictOk = false then (h, .error .tpm)
  else
    -- From here on the old key is gone.
    match env.created with
    | none => ({ h with aik := none }, .error .tpm)
    | some key =>
      if env.persistOk = false then ({ h with aik := none }, .error .tpm)
      else if env.saveAuthOk = false then ({ h with aik := some key }, .error .eio)
      else ({ h with aik := some key }, .ok ())

/-- `tpm_aik_save_metadata` of `m`, which is then the metadata in memory. -/
def View.save (v : View Key) (m : AikMetadata) : View Key where
  ctx := { v.ctx with aikMeta := m, aikMetaLoaded := true }
  host := { v.host with metaFile := some m }

/-- mirrors src/agent/tpm.c:1252-1277 -/
def saveNewKeyMetadata (now : Int) (v : View Key) : View Key × Except Errno Unit :=
  if v.ctx.initialized = false then (v, .error .einval)
  else if v.ctx.aikMetaLoaded = false then
    (v.save { generation := 1, provisionedAt := now, lastRotatedAt := 0 }, .ok ())
  else if v.ctx.aikMeta.generation = 0 then
    (v.save { v.ctx.aikMeta with generation := 1, provisionedAt := now }, .ok ())
  else (v.save { v.ctx.aikMeta with provisionedAt := now }, .ok ())

/-- The new key and, with its auth stored, the metadata. -/
def newKey (env : Env Key) (hadExistingAik : Bool) (v : View Key) : View Key × Except Errno Unit :=
  match reprovisionWithAuth env hadExistingAik v.host with
  | (host, .error e) => ({ v with host }, .error e)
  | (host, .ok ()) => saveNewKeyMetadata env.now { v with host }

/-- mirrors src/agent/tpm.c:3543-3546 -/
def strictBlocksReprovision (strict : Bool) (loadRc : Except Errno Unit) : Bool :=
  match loadRc with
  | .error .policyFail => strict
  | _ => false

/-- mirrors src/agent/tpm.c:1287-1333 (`tpm_provision_aik`) -/
def provisionAik (env : Env Key) (v : View Key) : View Key × Except Errno Unit :=
  if v.ctx.initialized = false then (v, .error .einval)
  else if env.identityOk = false then (v, .error .eacces)
  else if env.existsOk = false then (v, .error .tpm)
  else if v.host.aik.isSome then
    match env.authLoad with
    | .ok () => (v, .ok ())
    | .error e =>
      if strictBlocksReprovision env.strict (.error e) then (v, .error e) else newKey env true v
  else newKey env false v

/-- mirrors src/agent/tpm.c:1335-1354 (`tpm_reprovision_aik`) -/
def reprovisionAik (env : Env Key) (v : View Key) : View Key × Except Errno Unit :=
  if v.ctx.initialized = false then (v, .error .einval)
  else if env.existsOk = false then (v, .error .tpm)
  else newKey env v.host.aik.isSome v

/-- mirrors src/agent/tpm.c:3643-3711 (`tpm_aik_load_metadata`) -/
def loadMetadata (env : Env Key) (v : View Key) : View Key × Except Errno Unit :=
  if v.ctx.initialized = false then (v, .error .einval)
  else match v.host.metaFile with
    | some m => ({ v with ctx := { v.ctx with aikMeta := m, aikMetaLoaded := true } }, .ok ())
    | none =>
      if env.existsOk = false then (v, .error .tpm)
      else if v.host.aik.isSome then (v, .error .ekeyrevoked)
      else (v.save { generation := 1, provisionedAt := env.now, lastRotatedAt := 0 }, .ok ())

/-- The end of a rotation: the next generation, modulo 2^64. -/
def bumpGeneration (now : Int) (v : View Key) : View Key :=
  v.save { generation := v.ctx.aikMeta.generation + 1, provisionedAt := now, lastRotatedAt := now }

/-- mirrors src/agent/tpm.c:3808-3865 (`tpm_rotate_aik`) -/
def rotateAik (env : Env Key) (v : View Key) : View Key × Except Errno Unit :=
  if v.ctx.initialized = false ∨ v.ctx.aikMetaLoaded = false then (v, .error .einval)
  else if env.existsOk = false then (v, .error .tpm)
  else if v.host.aik.isSome then
    match reprovisionWithAuth env true v.host with
    | (host, .error e) => ({ v with host }, .error e)
    | (host, .ok ()) => (bumpGeneration env.now { v with host }, .ok ())
  else
    match provisionAik env v with
    | (v, .error e) => (v, .error e)
    | (v, .ok ()) => (bumpGeneration env.now v, .ok ())

def freshCtx (initialized : Bool) : Ctx :=
  { initialized, aikMetaLoaded := false,
    aikMeta := { generation := 0, provisionedAt := 0, lastRotatedAt := 0 } }

/-- mirrors src/agent/enroll_client.c:109-232 (`enroll_to_ca`) -/
def enrollToCa (env : Env Key) (v : View Key) : View Key × Except Errno Unit :=
  match v.host.aik with
  | none => (v, .error .tpm)
  | some key =>
    if env.caOk = false then (v, .error .eacces)
    else ({ v with host := { v.host with aikCert := some key } }, .ok ())

/-- mirrors src/agent/enroll_client.c:243-271 -/
def persistEnrollState (env : Env Key) (v : View Key) : View Key :=
  let (v, r) := loadMetadata env v
  let aikGeneration := match r with
    | .ok () => v.ctx.aikMeta.generation
    | .error _ => 0
  if env.enrollSaveOk then { v with host := { v.host with enrollState := some aikGeneration } } else v

/-- mirrors src/agent/enroll_client.c:278-319 -/
def runEnrollment (env : Env Key) (v : View Key) : View Key × Except Errno Unit :=
  let v := { v with ctx := freshCtx env.initOk }
  if env.initOk = false then (v, .error .tpm)
  else match provisionAik env v with
    | (v, .error e) => ({ v with ctx := freshCtx false }, .error e)
    | (v, .ok ()) =>
      match enrollToCa env v with
      | (v, .error e) => ({ v with ctx := freshCtx false }, .error e)
      | (v, .ok ()) => ({ persistEnrollState env v with ctx := freshCtx false }, .ok ())

/-- The `reenroll_required` of `publish_rotation_state`; nothing is published
without metadata. mirrors src/agent/attest.c:881-910 -/
def reenrollRequired (v : View Key) : Option Bool :=
  if v.ctx.aikMetaLoaded = false then none
  else some (match v.host.enrollState with
    | none => false
    | some aikGeneration => decide (aikGeneration ≠ v.ctx.aikMeta.generation))

/-! ## Runs -/

/-- A call in process `p`. -/
inductive Op (Key : Type) where
  | init (p : Nat) (env : Env Key)
  | load (p : Nat) (env : Env Key)
  | provision (p : Nat) (env : Env Key)
  | reprovision (p : Nat) (env : Env Key)
  | rotate (p : Nat) (env : Env Key)
  | enroll (p : Nat) (env : Env Key)

structure Sys (Key : Type) where
  host : Host Key
  ctx : Nat → Ctx

def Sys.view (s : Sys Key) (p : Nat) : View Key := { ctx := s.ctx p, host := s.host }

def Sys.put (s : Sys Key) (p : Nat) (v : View Key) : Sys Key :=
  { host := v.host, ctx := Function.update s.ctx p v.ctx }

def lift (f : View Key → View Key × Except Errno Unit) (s : Sys Key) (p : Nat) :
    Sys Key × Except Errno Unit :=
  (s.put p (f (s.view p)).1, (f (s.view p)).2)

def step (s : Sys Key) : Op Key → Sys Key × Except Errno Unit
  | .init p env =>
    (s.put p { s.view p with ctx := freshCtx env.initOk }, if env.initOk then .ok () else .error .tpm)
  | .load p env => lift (loadMetadata env) s p
  | .provision p env => lift (provisionAik env) s p
  | .reprovision p env => lift (reprovisionAik env) s p
  | .rotate p env => lift (rotateAik env) s p
  | .enroll p env => lift (runEnrollment env) s p

def machine (Key : Type) : Machine (Sys Key) (Op Key) (Except Errno Unit) := ⟨step⟩

/-- No files; the TPM may hold a key. -/
def start (aik : Option Key) : Sys Key where
  host := { aik, metaFile := none, enrollState := none, aikCert := none }
  ctx := fun _ => freshCtx false

/-- Equal generations mean that the certificate is for the AIK in the TPM. -/
def Bound (h : Host Key) : Prop :=
  ∀ aikGeneration m key, h.enrollState = some aikGeneration → h.metaFile = some m →
    aikGeneration = m.generation → h.aik = some key → h.aikCert = some key

/-! ## When a new key fits -/

/-- The generation on the disk. -/
def Host.generation (h : Host Key) : Nat := (h.metaFile.map (·.generation.toNat)).getD 0

/-- The generation that comes with a new key which is no rotation. -/
def newKeyGeneration (c : Ctx) : UInt64 :=
  if c.aikMetaLoaded = false then 1 else if c.aikMeta.generation = 0 then 1 else c.aikMeta.generation

/-- The key the TPM holds afterwards, if a new one comes. -/
def Env.makesKey (env : Env Key) (hadKey : Bool) : Option Key :=
  if env.generateAuthOk && (!hadKey || env.evictOk) && env.persistOk then env.created else none

/-- A new key whose auth could not be stored: the metadata stays. -/
def unsavedFits [DecidableEq Key] (h : Host Key) (key : Key) : Bool :=
  h.metaFile.isNone || h.enrollState.all fun e => decide (e.toNat < h.generation) ||
    h.aikCert == some key

/-- A key of `tpm_provision_aik` or `tpm_reprovision_aik`: its generation is
above that of the enrollment, or it is the same and so is the key. -/
def newKeyFits [DecidableEq Key] (env : Env Key) (c : Ctx) (h : Host Key) : Bool :=
  match env.makesKey h.aik.isSome with
  | none => true
  | some key =>
    if env.saveAuthOk then
      h.enrollState.all fun e => decide (e < newKeyGeneration c) ||
        (e == newKeyGeneration c && h.aikCert == some key)
    else unsavedFits h key

/-- A rotation: the process is not behind the disk, and the generation does
not wrap. -/
def rotationFits [DecidableEq Key] (env : Env Key) (c : Ctx) (h : Host Key) : Bool :=
  match env.makesKey h.aik.isSome with
  | none => true
  | some key =>
    if env.saveAuthOk then
      h.enrollState.all fun _ =>
        decide (h.generation ≤ c.aikMeta.generation.toNat ∧ c.aikMeta.generation.toNat + 1 < 2 ^ 64)
    else unsavedFits h key

/-- `tpm_provision_aik` makes a new key: there is none, or its auth is lost. -/
def provisionReplaces (env : Env Key) (c : Ctx) (h : Host Key) : Bool :=
  c.initialized && env.identityOk && env.existsOk &&
    (h.aik.isNone || match env.authLoad with
      | .ok () => false
      | .error e => !strictBlocksReprovision env.strict (.error e))

def reprovisionReplaces (env : Env Key) (c : Ctx) : Bool := c.initialized && env.existsOk

/-- A rotation without a key in the TPM goes through `tpm_provision_aik`. -/
def rotationReplaces (env : Env Key) (c : Ctx) (h : Host Key) : Bool :=
  c.initialized && c.aikMetaLoaded && env.existsOk && (h.aik.isSome || env.identityOk)

/-- The condition on a call, from the state before it and what the world
answers: a call that makes a new key makes one that fits. An enrollment that
goes through to its record needs none. -/
def Fits [DecidableEq Key] (s : Sys Key) : Op Key → Prop
  | .init _ _ => True
  | .load _ _ => True
  | .provision p env => provisionReplaces env (s.ctx p) s.host = true →
    newKeyFits env (s.ctx p) s.host = true
  | .reprovision p env => reprovisionReplaces env (s.ctx p) = true →
    newKeyFits env (s.ctx p) s.host = true
  | .rotate p env => rotationReplaces env (s.ctx p) s.host = true →
    rotationFits env (s.ctx p) s.host = true
  | .enroll _ env => provisionReplaces env (freshCtx env.initOk) s.host = true →
      (env.caOk && env.enrollSaveOk && env.saveAuthOk) = true ∨
      newKeyFits env (freshCtx env.initOk) s.host = true

/-! ## What the calls keep -/

/-- The enrollment is not ahead of the disk, and equal generations mean that
the certificate is for the AIK. -/
structure Inv (h : Host Key) : Prop where
  le : ∀ e, h.enrollState = some e → e.toNat ≤ h.generation
  bound : Bound h

section
variable {env : Env Key} {v : View Key} {h : Host Key} {c : Ctx}

/-- Without a key there is nothing to be certified. -/
theorem Inv.dropKey (hi : Inv h) : Inv { h with aik := none } := by
  refine ⟨hi.le, ?_⟩
  intro e m key _ _ _ hkey
  cases hkey

/-- **New keys.** The old key stays, or none is left, or the new one is
there. -/
theorem reprovisionWithAuth_spec (env : Env Key) (had : Bool) (h : Host Key)
    (hhad : had = h.aik.isSome) : (∃ e, reprovisionWithAuth env had h = (h, .error e)) ∨
      (∃ e, reprovisionWithAuth env had h = ({ h with aik := none }, .error e)) ∨
        ∃ key, env.makesKey h.aik.isSome = some key ∧
          reprovisionWithAuth env had h =
            ({ h with aik := some key }, if env.saveAuthOk then .ok () else .error .eio) := by
  unfold reprovisionWithAuth Env.makesKey
  rw [hhad]
  cases hg : env.generateAuthOk with
  | false => exact .inl ⟨_, rfl⟩
  | true =>
    by_cases hev : (h.aik.isSome && h.aik.isSome) = true ∧ env.evictOk = false
    · simp only [hev]
      exact .inl ⟨_, rfl⟩
    · have hok : (!h.aik.isSome || env.evictOk) = true := by
        cases ha : h.aik.isSome <;> cases he : env.evictOk <;> simp_all
      simp only [hev, if_false, hok]
      cases hc : env.created with
      | none => exact .inr (.inl ⟨_, rfl⟩)
      | some key =>
        cases hp : env.persistOk with
        | false => exact .inr (.inl ⟨_, rfl⟩)
        | true =>
          refine .inr (.inr ⟨key, rfl, ?_⟩)
          cases hs : env.saveAuthOk with
          | false => rfl
          | true => rfl

theorem unsaved_inv [DecidableEq Key] (hi : Inv h) {key : Key} (hf : unsavedFits h key = true) :
    Inv { h with aik := some key } := by
  refine ⟨hi.le, ?_⟩
  intro e m k he hm heq hk
  unfold unsavedFits at hf
  simp only at he hm hk
  rw [he, hm] at hf
  have hgen : h.generation = m.generation.toNat := by
    unfold Host.generation
    rw [hm]
    rfl
  simp only [Option.isNone_some, Bool.false_or, Option.all_some, Bool.or_eq_true, decide_eq_true_eq,
    beq_iff_eq] at hf
  rcases hf with hlt | hcert
  · rw [hgen, heq] at hlt
    omega
  · rw [← Option.some.inj hk]
    exact hcert

theorem saveNewKeyMetadata_spec (hv : v.ctx.initialized = true) (now : Int) :
    ∃ m, m.generation = newKeyGeneration v.ctx ∧ saveNewKeyMetadata now v = (v.save m, .ok ()) := by
  unfold saveNewKeyMetadata newKeyGeneration
  simp only [hv, Bool.true_eq_false, if_false]
  by_cases hl : v.ctx.aikMetaLoaded = false
  · simp only [hl, if_true]
    exact ⟨_, rfl, rfl⟩
  · rw [if_neg hl, if_neg hl]
    by_cases hz : v.ctx.aikMeta.generation = 0
    · rw [if_pos hz, if_pos hz]
      exact ⟨_, rfl, rfl⟩
    · rw [if_neg hz, if_neg hz]
      exact ⟨{ v.ctx.aikMeta with provisionedAt := now }, rfl, rfl⟩

/-- A key with a generation above the enrollment, or the certified key with
the generation of the enrollment. -/
theorem keyed_inv {m : AikMetadata} {key : Key}
    (hf : ∀ e, h.enrollState = some e → e < m.generation ∨ e = m.generation ∧ h.aikCert = some key) :
    Inv { h with aik := some key, metaFile := some m } := by
  refine ⟨?_, ?_⟩
  · intro e he
    show e.toNat ≤ m.generation.toNat
    rcases hf e he with hlt | ⟨heq, -⟩
    · have := UInt64.lt_iff_toNat_lt.mp hlt
      omega
    · exact Nat.le_of_eq (by rw [heq])
  · intro e m' k he hm heq hk
    rw [← Option.some.inj hm] at heq
    rw [← Option.some.inj hk]
    rcases hf e he with hlt | ⟨-, hcert⟩
    · rw [heq] at hlt
      exact absurd hlt (UInt64.lt_irrefl _)
    · exact hcert

/-- **New keys with metadata.** As `reprovisionWithAuth_spec`; with the auth
stored the metadata follows. -/
theorem newKey_spec (env : Env Key) (had : Bool) (hhad : had = v.host.aik.isSome)
    (hv : v.ctx.initialized = true) : (∃ e, newKey env had v = (v, .error e)) ∨
      (∃ e, newKey env had v = ({ v with host := { v.host with aik := none } }, .error e)) ∨
        ∃ key, env.makesKey v.host.aik.isSome = some key ∧
          (env.saveAuthOk = false ∧
            newKey env had v = ({ v with host := { v.host with aik := some key } }, .error .eio) ∨
            env.saveAuthOk = true ∧ ∃ m, m.generation = newKeyGeneration v.ctx ∧
              newKey env had v = (View.save { v with host := { v.host with aik := some key } } m,
                .ok ())) := by
  unfold newKey
  rcases reprovisionWithAuth_spec env had v.host hhad with ⟨e, hr⟩ | ⟨e, hr⟩ | ⟨key, hk, hr⟩
  · rw [hr]
    exact .inl ⟨e, rfl⟩
  · rw [hr]
    exact .inr (.inl ⟨e, rfl⟩)
  · refine .inr (.inr ⟨key, hk, ?_⟩)
    rw [hr]
    cases hs : env.saveAuthOk with
    | false => exact .inl ⟨rfl, rfl⟩
    | true =>
      obtain ⟨m, hm, hsave⟩ :=
        saveNewKeyMetadata_spec (v := { v with host := { v.host with aik := some key } }) hv env.now
      exact .inr ⟨rfl, m, hm, hsave⟩

theorem newKey_inv [DecidableEq Key] {had : Bool} (hhad : had = v.host.aik.isSome)
    (hv : v.ctx.initialized = true)
    (hi : Inv v.host) (hf : newKeyFits env v.ctx v.host = true) : Inv (newKey env had v).1.host := by
  unfold newKeyFits at hf
  rcases newKey_spec env had hhad hv with ⟨e, hr⟩ | ⟨e, hr⟩ | ⟨key, hk, ⟨hs, hr⟩ | ⟨hs, m, hm, hr⟩⟩
  · rw [hr]
    exact hi
  · rw [hr]
    exact hi.dropKey
  · rw [hr]
    rw [hk, hs] at hf
    exact unsaved_inv hi hf
  · rw [hr]
    apply keyed_inv
    intro e he
    simp only at he
    rw [hk, hs, he] at hf
    rw [hm]
    simpa using hf

/-- **Provisioning.** It changes nothing, and then it succeeds only with a key
in the TPM, or it makes a new key. -/
theorem provision_spec (env : Env Key) (v : View Key) :
    (∃ r, provisionAik env v = (v, r) ∧ (r = .ok () → v.host.aik.isSome = true)) ∨
      v.ctx.initialized = true ∧ provisionReplaces env v.ctx v.host = true ∧
        provisionAik env v = newKey env v.host.aik.isSome v := by
  unfold provisionAik provisionReplaces
  cases hinit : v.ctx.initialized with
  | false => exact .inl ⟨_, rfl, fun h => by cases h⟩
  | true =>
    cases hid : env.identityOk with
    | false => exact .inl ⟨_, rfl, fun h => by cases h⟩
    | true =>
      cases hex : env.existsOk with
      | false => exact .inl ⟨_, rfl, fun h => by cases h⟩
      | true =>
        simp only [Bool.true_eq_false, if_false, Bool.true_and]
        cases ha : v.host.aik with
        | none => exact .inr ⟨trivial, rfl, rfl⟩
        | some key =>
          simp only [Option.isSome_some, if_true]
          cases hl : env.authLoad with
          | ok u => exact .inl ⟨_, rfl, fun _ => trivial⟩
          | error e =>
            simp only
            cases hb : strictBlocksReprovision env.strict (.error e) with
            | true =>
              refine .inl ⟨_, rfl, fun h => ?_⟩
              cases h
            | false => exact .inr ⟨trivial, rfl, rfl⟩

theorem provision_inv [DecidableEq Key] (hi : Inv v.host)
    (hf : provisionReplaces env v.ctx v.host = true → newKeyFits env v.ctx v.host = true) :
    Inv (provisionAik env v).1.host := by
  rcases provision_spec env v with ⟨r, hr, -⟩ | ⟨hinit, hrep, hr⟩
  · rw [hr]
    exact hi
  · rw [hr]
    exact newKey_inv rfl hinit hi (hf hrep)

/-- After a provisioning that succeeds the TPM has a key. -/
theorem provision_ok {v' : View Key} (h : provisionAik env v = (v', .ok ())) :
    v'.host.aik.isSome = true := by
  rcases provision_spec env v with ⟨r, hr, hok⟩ | ⟨hinit, -, hr⟩
  · rw [hr] at h
    obtain ⟨rfl, hr⟩ := Prod.mk.inj h
    exact hok hr
  · rw [hr] at h
    rcases newKey_spec env _ rfl hinit with ⟨e, hr⟩ | ⟨e, hr⟩ | ⟨key, -, ⟨-, hr⟩ | ⟨-, m, -, hr⟩⟩
    · rw [hr] at h
      cases h
    · rw [hr] at h
      cases h
    · rw [hr] at h
      cases h
    · rw [hr] at h
      rw [← (Prod.mk.inj h).1]
      rfl

/-- Where the auth can be stored, a provisioning that fails keeps the old key
or drops it. -/
theorem provision_error_inv (hi : Inv v.host) (hs : env.saveAuthOk = true) {v' : View Key} {e : Errno}
    (h : provisionAik env v = (v', .error e)) : Inv v'.host := by
  rcases provision_spec env v with ⟨r, hr, -⟩ | ⟨hinit, -, hr⟩
  · rw [hr] at h
    rw [← (Prod.mk.inj h).1]
    exact hi
  · rw [hr] at h
    rcases newKey_spec env _ rfl hinit with ⟨e, hr⟩ | ⟨e, hr⟩ | ⟨key, -, ⟨hs', -⟩ | ⟨-, m, -, hr⟩⟩
    · rw [hr] at h
      rw [← (Prod.mk.inj h).1]
      exact hi
    · rw [hr] at h
      rw [← (Prod.mk.inj h).1]
      exact hi.dropKey
    · rw [hs] at hs'
      cases hs'
    · rw [hr] at h
      cases h

theorem reprovision_inv [DecidableEq Key] (hi : Inv v.host)
    (hf : reprovisionReplaces env v.ctx = true → newKeyFits env v.ctx v.host = true) :
    Inv (reprovisionAik env v).1.host := by
  unfold reprovisionAik
  unfold reprovisionReplaces at hf
  cases hinit : v.ctx.initialized with
  | false => exact hi
  | true =>
    cases hex : env.existsOk with
    | false => exact hi
    | true =>
      simp only [Bool.true_eq_false, if_false]
      exact newKey_inv rfl hinit hi (hf (by rw [hinit, hex]; rfl))

/-- The metadata of a first start comes before any key. -/
theorem load_inv (hi : Inv v.host) : Inv (loadMetadata env v).1.host := by
  unfold loadMetadata
  cases hinit : v.ctx.initialized with
  | false => exact hi
  | true =>
    simp only [Bool.true_eq_false, if_false]
    cases hm : v.host.metaFile with
    | some m => exact hi
    | none =>
      simp only
      cases hex : env.existsOk with
      | false => exact hi
      | true =>
        simp only [Bool.true_eq_false, if_false]
        cases ha : v.host.aik with
        | some key => exact hi
        | none =>
          refine ⟨?_, ?_⟩
          · intro e he
            have hle := hi.le e he
            have hzero : v.host.generation = 0 := by
              unfold Host.generation
              rw [hm]
              rfl
            show e.toNat ≤ 1
            omega
          · intro e m key _ _ _ hkey
            change v.host.aik = some key at hkey
            rw [ha] at hkey
            cases hkey

/-- A loaded generation that is not behind the disk and does not wrap, one
more: it is above the enrollment. -/
theorem bump_inv (hi : Inv h) {g : UInt64} {key : Key} {m : AikMetadata} (hm : m.generation = g + 1)
    (hg : ∀ e, h.enrollState = some e → h.generation ≤ g.toNat ∧ g.toNat + 1 < 2 ^ 64) :
    Inv { h with aik := some key, metaFile := some m } := by
  apply keyed_inv
  intro e he
  obtain ⟨hdisk, hwrap⟩ := hg e he
  have hle := hi.le e he
  have hone : (1 : UInt64).toNat = 1 := rfl
  refine .inl (UInt64.lt_iff_toNat_lt.mpr ?_)
  rw [hm, UInt64.toNat_add, hone]
  omega

/-- A generation that was loaded, is not behind the disk and does not wrap:
the same holds of the generation a new key gets. -/
theorem newKeyGeneration_fits {c : Ctx} {disk : Nat} (hload : c.aikMetaLoaded = true)
    (hc : disk ≤ c.aikMeta.generation.toNat ∧ c.aikMeta.generation.toNat + 1 < 2 ^ 64) :
    disk ≤ (newKeyGeneration c).toNat ∧ (newKeyGeneration c).toNat + 1 < 2 ^ 64 := by
  unfold newKeyGeneration
  simp only [hload, Bool.true_eq_false, if_false]
  split
  · rename_i hz
    rw [hz] at hc
    have hone : (1 : UInt64).toNat = 1 := rfl
    have hzero : (0 : UInt64).toNat = 0 := rfl
    omega
  · exact hc

theorem rotate_inv [DecidableEq Key] (hi : Inv v.host)
    (hf : rotationReplaces env v.ctx v.host = true → rotationFits env v.ctx v.host = true) :
    Inv (rotateAik env v).1.host := by
  unfold rotateAik
  unfold rotationReplaces at hf
  by_cases hbad : v.ctx.initialized = false ∨ v.ctx.aikMetaLoaded = false
  · rw [if_pos hbad]
    exact hi
  · rw [if_neg hbad]
    have hinit : v.ctx.initialized = true := Bool.of_not_eq_false (fun h => hbad (.inl h))
    have hload : v.ctx.aikMetaLoaded = true := Bool.of_not_eq_false (fun h => hbad (.inr h))
    cases hex : env.existsOk with
    | false => exact hi
    | true =>
      simp only [Bool.true_eq_false, if_false]
      simp only [hinit, hload, hex, Bool.true_and] at hf
      unfold rotationFits at hf
      cases ha : v.host.aik with
      | some old =>
        simp only [Option.isSome_some, if_true]
        have hf := hf (by rw [ha]; rfl)
        rcases reprovisionWithAuth_spec env true v.host (by rw [ha]; rfl) with ⟨e, hr⟩ | ⟨e,
          hr⟩ | ⟨key, hk, hr⟩
        · rw [hr]
          exact hi
        · rw [hr]
          exact hi.dropKey
        · rw [hr]
          rw [hk] at hf
          cases hs : env.saveAuthOk with
          | false =>
            simp only [hs, Bool.false_eq_true, if_false] at hf ⊢
            exact unsaved_inv hi hf
          | true =>
            simp only [hs, if_true] at hf ⊢
            refine bump_inv (g := v.ctx.aikMeta.generation) hi rfl ?_
            intro e he
            rw [he] at hf
            simpa using hf
      | none =>
        simp only [Option.isSome_none, Bool.false_eq_true, if_false]
        rcases provision_spec env v with ⟨r, hr, hok⟩ | ⟨-, hrep, hr⟩
        · rw [hr]
          cases r with
          | error e => exact hi
          | ok u =>
            have hsome := hok rfl
            rw [ha] at hsome
            cases hsome
        · have hid : env.identityOk = true := by
            unfold provisionReplaces at hrep
            simp only [Bool.and_eq_true] at hrep
            exact hrep.1.1.2
          have hf := hf (by rw [hid, Bool.or_true])
          rw [hr]
          rcases newKey_spec env _ rfl hinit with ⟨e, hr⟩ | ⟨e, hr⟩ | ⟨key, hk,
            ⟨hs, hr⟩ | ⟨hs, m, hm, hr⟩⟩
          · rw [hr]
            exact hi
          · rw [hr]
            exact hi.dropKey
          · rw [hr]
            rw [hk, hs] at hf
            exact unsaved_inv hi hf
          · rw [hr]
            refine bump_inv (g := m.generation) hi rfl ?_
            intro e he
            rw [hk, hs, he] at hf
            have hctx : v.host.generation ≤ v.ctx.aikMeta.generation.toNat ∧
                v.ctx.aikMeta.generation.toNat + 1 < 2 ^ 64 := by simpa using hf
            rw [hm]
            exact newKeyGeneration_fits hload hctx

/-- An enrollment that goes through changes the certificate only, and it is
for the AIK. -/
theorem enrollToCa_ok {v' : View Key} (h : enrollToCa env v = (v', .ok ())) :
    v' = { v with host := { v.host with aikCert := v.host.aik } } := by
  unfold enrollToCa at h
  cases ha : v.host.aik with
  | none => rw [ha] at h; cases h
  | some key =>
    simp only [ha] at h
    cases hc : env.caOk with
    | false => simp only [hc, if_true] at h; cases h
    | true =>
      simp only [hc, Bool.true_eq_false, if_false] at h
      rw [← (Prod.mk.inj h).1]
      simp only [ha]

theorem enrollToCa_error {v' : View Key} {e : Errno} (h : enrollToCa env v = (v', .error e)) :
    v' = v ∧ (v.host.aik.isSome = true → env.caOk = false) := by
  unfold enrollToCa at h
  cases ha : v.host.aik with
  | none =>
    rw [ha] at h
    exact ⟨(Prod.mk.inj h).1.symm, fun h => by cases h⟩
  | some key =>
    simp only [ha] at h
    cases hc : env.caOk with
    | false =>
      simp only [hc, if_true] at h
      exact ⟨(Prod.mk.inj h).1.symm, fun _ => rfl⟩
    | true =>
      simp only [hc, Bool.true_eq_false, if_false] at h
      cases h

/-- Metadata in memory is the metadata of the disk; a load changes no key and
no enrollment. -/
theorem load_spec (env : Env Key) (v : View Key) :
    (∃ e, loadMetadata env v = (v, .error e)) ∨
      ∃ m, loadMetadata env v = (View.save v m, .ok ()) := by
  unfold loadMetadata
  cases hinit : v.ctx.initialized with
  | false => exact .inl ⟨_, rfl⟩
  | true =>
    simp only [Bool.true_eq_false, if_false]
    cases hm : v.host.metaFile with
    | some m =>
      refine .inr ⟨m, ?_⟩
      unfold View.save
      simp only [← hm]
    | none =>
      cases hex : env.existsOk with
      | false => exact .inl ⟨_, rfl⟩
      | true =>
        simp only [Bool.true_eq_false, if_false]
        cases ha : v.host.aik with
        | some key => exact .inl ⟨_, rfl⟩
        | none => exact .inr ⟨_, rfl⟩

/-- The record of a certificate for the AIK: it is right whatever was there
before, and without it nothing changes. -/
theorem persist_inv (hcert : v.host.aikCert = v.host.aik) (hi : env.enrollSaveOk = false → Inv v.host) :
    Inv (persistEnrollState env v).host := by
  unfold persistEnrollState
  cases hs : env.enrollSaveOk with
  | false =>
    simp only [Bool.false_eq_true, if_false]
    exact load_inv (hi hs)
  | true =>
    simp only [if_true]
    rcases load_spec env v with ⟨e, hl⟩ | ⟨m, hl⟩
    · rw [hl]
      refine ⟨?_, ?_⟩
      · intro e he
        rw [← Option.some.inj he]
        exact Nat.zero_le _
      · intro e m key _ _ _ hkey
        exact hcert.trans hkey
    · rw [hl]
      refine ⟨?_, ?_⟩
      · intro e he
        rw [← Option.some.inj he]
        exact Nat.le_refl _
      · intro e m key _ _ _ hkey
        exact hcert.trans hkey

theorem enroll_inv [DecidableEq Key] (hi : Inv v.host)
    (hf : provisionReplaces env (freshCtx env.initOk) v.host = true →
      (env.caOk && env.enrollSaveOk && env.saveAuthOk) = true ∨
      newKeyFits env (freshCtx env.initOk) v.host = true) :
    Inv (runEnrollment env v).1.host := by
  unfold runEnrollment
  simp only
  split
  · exact hi
  · -- Either everything goes through to the record, or provisioning keeps the invariant.
    have hcases : (env.caOk = true ∧ env.enrollSaveOk = true ∧ env.saveAuthOk = true) ∨
        Inv (provisionAik env { v with ctx := freshCtx env.initOk }).1.host := by
      by_cases hrep : provisionReplaces env (freshCtx env.initOk) v.host = true
      · rcases hf hrep with hall | hfit
        · simp only [Bool.and_eq_true] at hall
          exact .inl ⟨hall.1.1, hall.1.2, hall.2⟩
        · exact .inr (provision_inv (v := { v with ctx := freshCtx env.initOk }) hi fun _ => hfit)
      · exact .inr (provision_inv (v := { v with ctx := freshCtx env.initOk }) hi
          fun h => absurd h hrep)
    cases hp : provisionAik env { v with ctx := freshCtx env.initOk } with
    | mk v₁ r₁ =>
      rw [hp] at hcases
      cases r₁ with
      | error e =>
        rcases hcases with ⟨-, -, hauth⟩ | hinv
        · have hinv : Inv v₁.host :=
            provision_error_inv (v := { v with ctx := freshCtx env.initOk }) hi hauth hp
          exact hinv
        · exact hinv
      | ok u =>
        simp only
        cases hca : enrollToCa env v₁ with
        | mk v₂ r₂ =>
          cases r₂ with
          | error e =>
            obtain ⟨hv, hno⟩ := enrollToCa_error hca
            rcases hcases with ⟨hyes, -, -⟩ | hinv
            · rw [hno (provision_ok hp)] at hyes
              cases hyes
            · rw [hv]
              exact hinv
          | ok u₂ =>
            have hv := enrollToCa_ok hca
            apply persist_inv
            · rw [hv]
            · intro hsave
              rcases hcases with ⟨-, hyes, -⟩ | hinv
              · rw [hsave] at hyes
                cases hyes
              · rw [hv]
                refine ⟨hinv.le, ?_⟩
                intro e m key _ _ _ hkey
                exact hkey

end

/-! ## Every run -/

section
variable [DecidableEq Key]

/-- **Step.** A call that fits keeps the invariant. -/
theorem step_inv (s : Sys Key) (op : Op Key) (hi : Inv s.host) (hf : Fits s op) :
    Inv (step s op).1.host := by
  cases op with
  | init p env => exact hi
  | load p env => exact load_inv (v := s.view p) hi
  | provision p env => exact provision_inv (v := s.view p) hi hf
  | reprovision p env => exact reprovision_inv (v := s.view p) hi hf
  | rotate p env => exact rotate_inv (v := s.view p) hi hf
  | enroll p env => exact enroll_inv (v := s.view p) hi hf

theorem run_inv (aik : Option Key) (ops : List (Op Key))
    (hf : (machine Key).AllSteps Fits (start aik) ops) :
    Inv ((machine Key).run (start aik) ops).host := by
  refine Machine.run_inv (M := machine Key) (P := Fits) (J := fun s => Inv s.host) step_inv ?_ hf
  refine ⟨?_, ?_⟩
  · intro e he
    cases he
  · intro e m key he
    cases he

/-- **The certificate is for the live AIK.** In every run in which every new
key fits, in every state: if the generations of the enrollment and of the
metadata are equal, the stored certificate is for the AIK in the TPM. So a
process whose metadata is that of the disk reports that an enrollment is
required whenever the AIK is not the certified one. -/
theorem certified_key_live (aik : Option Key) (ops rest : List (Op Key))
    (hf : (machine Key).AllSteps Fits (start aik) (ops ++ rest)) :
    Bound ((machine Key).run (start aik) ops).host ∧
      ∀ p key m, ((machine Key).run (start aik) ops).host.metaFile = some m →
        (((machine Key).run (start aik) ops).ctx p).aikMetaLoaded = true →
        (((machine Key).run (start aik) ops).ctx p).aikMeta.generation = m.generation →
        ((machine Key).run (start aik) ops).host.enrollState ≠ none →
        ((machine Key).run (start aik) ops).host.aik = some key →
        ((machine Key).run (start aik) ops).host.aikCert ≠ some key →
        reenrollRequired (((machine Key).run (start aik) ops).view p) = some true := by
  have hinv := run_inv aik ops (Machine.allSteps_append.mp hf).1
  refine ⟨hinv.bound, ?_⟩
  generalize (machine Key).run (start aik) ops = s at hinv
  intro p key m hm hload hgen henr hkey hcert
  unfold reenrollRequired
  rw [show (s.view p).ctx = s.ctx p from rfl, show (s.view p).host = s.host from rfl, hload]
  cases he : s.host.enrollState with
  | none => exact absurd he henr
  | some e =>
    have hne : e ≠ (s.ctx p).aikMeta.generation := by
      intro heq
      exact hcert (hinv.bound e m key he hm (heq.trans hgen) hkey)
    simp [hne]

end

/-- A world in which every call succeeds and the TPM makes `key`. -/
def goodEnv (key : Nat) : Env Nat where
  now := 0
  initOk := true
  identityOk := true
  existsOk := true
  authLoad := .ok ()
  strict := false
  generateAuthOk := true
  evictOk := true
  created := some key
  persistOk := true
  saveAuthOk := true
  caOk := true
  enrollSaveOk := true

/-- The first key, its enrollment, a rotation: the run fits, and the rotation
is reported. -/
def rotationRun : List (Op Nat) :=
  [.enroll 0 (goodEnv 1), .init 1 (goodEnv 1), .load 1 (goodEnv 1), .provision 1 (goodEnv 1),
    .rotate 1 (goodEnv 2)]

theorem certified_key_live_rotation :
    reenrollRequired (((machine Nat).run (start none) rotationRun).view 1) = some true := by
  have hf : (machine Nat).AllSteps Fits (start none) (rotationRun ++ []) := by
    refine ⟨?_, trivial, trivial, ?_, ?_, trivial⟩
    · intro _
      exact .inl rfl
    · intro h
      cases h
    · intro _
      rfl
  exact (certified_key_live none rotationRun [] hf).2 1 2 _ rfl rfl rfl (by decide) rfl (by decide)

/-- An enrolled AIK, then `--reprovision-aik` in a process of its own: it has
loaded no metadata, so the new key comes with generation 1 again, that of the
enrollment. -/
theorem reprovision_keeps_generation :
    ¬ Bound ((machine Nat).run (start none)
      [.enroll 0 (goodEnv 1), .init 1 (goodEnv 1), .reprovision 1 (goodEnv 2)]).host := by
  intro hbound
  have hcert := hbound 1 { generation := 1, provisionedAt := 0, lastRotatedAt := 0 } 2 rfl rfl rfl rfl
  have hne : ((machine Nat).run (start none)
      [.enroll 0 (goodEnv 1), .init 1 (goodEnv 1), .reprovision 1 (goodEnv 2)]).host.aikCert ≠
      some 2 := by
    decide
  exact hne hcert

end Lota.L6.AikGeneration

import Lota.Core.Machine
import Lota.L6Agent.SealedEnvelope

/-!
# The AIK auth value on disk (`agent/tpm.c`)

The auth value of the AIK is kept in a plain file, in a file sealed to the
boot state, or in both, as two settings say. The settings may change between
calls. The boot state stays and neither the disk nor the TPM fails; the TPM
is a `Sealer`, which gives back what it sealed. `tpmSealer` is the one that
`tpm_seal_secret` and `tpm_unseal_secret` make of a correct TPM.

A save with the settings off rewrites the plain file and leaves the sealed
one as it is; a strict save removes the plain one.

* `save_spec`, `load_spec`: what a call does to the two files.
* `last_write_wins_iff`: in every run from an empty disk, every load that
  succeeds returns the value of the last successful save exactly when each
  load with sealing on finds no sealed save before it, or the last one stored
  the value of the last save.
* `stale_sealed_auth`: a run that gives back an old value.
-/
namespace Lota.L6.AikAuth
open Lota.Core Lota.L6.SealFormat Lota.L6.SealedEnvelope

inductive Errno where
  | einval | enametoolong | enoent | eio | enotsup | ekeyrevoked | eproto
  /-- An error of the TPM. -/
  | tpm
  deriving DecidableEq, Repr

abbrev Auth := Blob 32

/-- `tpm_seal_secret` and `tpm_unseal_secret` in one boot state and without
an error of the TPM. A sealing depends on what the TPM draws. -/
structure Sealer where
  sealSecret : Nat → Auth → Bytes
  unsealSecret : Bytes → Except Errno Bytes
  sealed_ne : ∀ draw auth, sealSecret draw auth ≠ []
  unseal_sealed : ∀ draw auth, unsealSecret (sealSecret draw auth) = .ok auth.toList

/-- A correct TPM that seals every auth value, with the mask and the buffers of
`tpm_aik_save_auth_sealed` and `tpm_aik_load_auth_sealed`. -/
def tpmSealer {S : Type} {T : Tpm S} (hT : T.Correct) {st : S}
    (hseals : ∀ draw (auth : Auth), ∃ b, tpmSealSecret T st draw auth.toList sealDefaultPcrMask
      sealMaxBlob = .ok b ∧ 1 ≤ b.length ∧ b.length ≤ sealMaxBlob) : Sealer where
  sealSecret draw auth :=
    (tpmSealSecret T st draw auth.toList sealDefaultPcrMask sealMaxBlob).toOption.getD []
  unsealSecret blob := (tpmUnsealSecret T st blob sealMaxSecret).mapError fun _ => .tpm
  sealed_ne := by
    intro draw auth hnil
    obtain ⟨b, hb, hpos, -⟩ := hseals draw auth
    rw [hb] at hnil
    rw [show b = [] from hnil] at hpos
    cases hpos
  unseal_sealed := by
    intro draw auth
    obtain ⟨b, hb, -⟩ := hseals draw auth
    have hcap : auth.toList.length ≤ sealMaxSecret := by
      rw [List.Vector.toList_length]
      decide
    rw [hb]
    show (tpmUnsealSecret T st b sealMaxSecret).mapError _ = _
    rw [tpmUnsealSecret_seal hT hb hcap]
    rfl

def aikAuthMagic : UInt32 := 0x41545541
def aikAuthVersion : UInt32 := 1
def aikAuthSize : UInt16 := 32
def pathMax : Nat := 4096

/-- mirrors src/agent/tpm.h:199-205; the reserved bytes are zero. -/
structure AikAuthRecord where
  magic : UInt32
  version : UInt32
  size : UInt16
  auth : Auth
  deriving DecidableEq

/-- The two files next to the metadata: `aik_auth.dat` and `aik_auth.sealed`. -/
structure Disk where
  plain : Option AikAuthRecord
  sealed : Option Bytes

/-- The settings, and the path of the metadata. -/
structure Settings where
  sealAikAuth : Bool
  sealAikAuthStrict : Bool
  deriving DecidableEq

def Settings.sealing (c : Settings) : Bool := c.sealAikAuth || c.sealAikAuthStrict

def defaultMetaPath : List Char := "/var/lib/lota/aik_meta.dat".toList

/-- The length of the directory part: up to the last slash, or the slash
itself. -/
def dirLen (metaPath : List Char) : Option Nat :=
  let tail := metaPath.reverse.takeWhile (· ≠ '/')
  if tail.length = metaPath.length then none
  else
    let slash := metaPath.length - tail.length - 1
    some (if slash = 0 then 1 else slash)

/-- The file `name` in the directory of the metadata.
mirrors src/agent/tpm.c:3132-3165 and 3319-3345 -/
def auxPath (name : String) (metaPath : List Char) : Except Errno (List Char) :=
  let metaPath := if metaPath = [] then defaultMetaPath else metaPath
  match dirLen metaPath with
  | none => .error .einval
  | some n =>
    if n + 1 + name.length + 1 > pathMax then .error .enametoolong
    else .ok (metaPath.take n ++ (if n > 1 then ('/' :: name.toList) else name.toList))

/-- mirrors src/agent/tpm.c:3132 (`tpm_aik_auth_path_for_ctx`) -/
def authPath (metaPath : List Char) : Except Errno (List Char) := auxPath "aik_auth.dat" metaPath

/-- mirrors src/agent/tpm.c:3319 (`tpm_aik_auth_sealed_path_for_ctx`) -/
def sealedPath (metaPath : List Char) : Except Errno (List Char) := auxPath "aik_auth.sealed" metaPath

/-- The name of the temporary file: the path and eleven characters.
mirrors src/agent/tpm.c:3208-3210 and 3381-3385 -/
def tmpFits (path : List Char) : Except Errno Unit :=
  if path.length + 11 ≥ pathMax then .error .enametoolong else .ok ()

section
variable (T : Sealer) (metaPath : List Char)

def recordOf (auth : Auth) : AikAuthRecord :=
  { magic := aikAuthMagic, version := aikAuthVersion, size := aikAuthSize, auth }

/-- mirrors src/agent/tpm.c:3187-3260 -/
def saveAuthPlaintext (d : Disk) (auth : Auth) : Disk × Except Errno Unit :=
  match authPath metaPath with
  | .error e => (d, .error e)
  | .ok path =>
    match tmpFits path with
    | .error e => (d, .error e)
    | .ok () => ({ d with plain := some (recordOf auth) }, .ok ())

/-- mirrors src/agent/tpm.c:3262-3317 -/
def loadAuthPlaintext (d : Disk) : Except Errno Auth :=
  match authPath metaPath with
  | .error e => .error e
  | .ok _ =>
    match d.plain with
    | none => .error .enoent
    | some rec =>
      if rec.magic ≠ aikAuthMagic then .error .einval
      else if rec.version ≠ aikAuthVersion then .error .enotsup
      else if rec.size ≠ aikAuthSize then .error .einval
      else if rec.auth = Blob.zero 32 then .error .ekeyrevoked
      else .ok rec.auth

/-- mirrors src/agent/tpm.c:3351-3424 -/
def saveAuthSealed (d : Disk) (auth : Auth) (draw : Nat) : Disk × Except Errno Unit :=
  match sealedPath metaPath with
  | .error e => (d, .error e)
  | .ok path =>
    match tmpFits path with
    | .error e => (d, .error e)
    | .ok () => ({ d with sealed := some (T.sealSecret draw auth) }, .ok ())

/-- mirrors src/agent/tpm.c:3433-3475 -/
def loadAuthSealed (d : Disk) : Except Errno Auth :=
  match sealedPath metaPath with
  | .error e => .error e
  | .ok _ =>
    match d.sealed with
    | none => .error .enoent
    | some blob =>
      if blob.length = 0 then .error .eio
      else match T.unsealSecret blob with
      | .error e => .error e
      | .ok secret =>
        if secret.length ≠ aikAuthSize.toNat then .error .eproto else .ok (toBlob 32 secret)

/-- The part of the save behind the sealed copy. -/
def savePlainPart (c : Settings) (d : Disk) (auth : Auth) : Disk × Except Errno Unit :=
  if c.sealAikAuthStrict then
    match authPath metaPath with
    | .error _ => (d, .ok ())
    | .ok _ => ({ d with plain := none }, .ok ())
  else saveAuthPlaintext metaPath d auth

/-- mirrors src/agent/tpm.c:3482-3506 (`tpm_aik_save_auth`) -/
def saveAuth (c : Settings) (d : Disk) (auth : Auth) (draw : Nat) : Disk × Except Errno Unit :=
  if c.sealing then
    match saveAuthSealed T metaPath d auth draw with
    | (d, .error e) => (d, .error e)
    | (d, .ok ()) => savePlainPart metaPath c d auth
  else savePlainPart metaPath c d auth

/-- mirrors src/agent/tpm.c:3515-3530 (`tpm_aik_load_auth`) -/
def loadAuth (c : Settings) (d : Disk) : Except Errno Auth :=
  if c.sealing then
    match loadAuthSealed T metaPath d with
    | .ok auth => .ok auth
    | .error e => if c.sealAikAuthStrict then .error e else loadAuthPlaintext metaPath d
  else loadAuthPlaintext metaPath d

/-! ## Runs -/

inductive Op where
  | save (c : Settings) (auth : Auth) (draw : Nat)
  | load (c : Settings)

inductive Out where
  | saved (r : Except Errno Unit)
  | loaded (r : Except Errno Auth)

def step (d : Disk) : Op → Disk × Out
  | .save c auth draw =>
    ((saveAuth T metaPath c d auth draw).1, .saved (saveAuth T metaPath c d auth draw).2)
  | .load c => (d, .loaded (loadAuth T metaPath c d))

def machine : Machine Disk Op Out := ⟨step T metaPath⟩

end

def emptyDisk : Disk := { plain := none, sealed := none }

abbrev History := List (Op × Out)

/-- One entry of the history: a successful save that `p` selects by its
settings becomes the last one. -/
def lastSaveStep (p : Settings → Bool) (last : Option Auth) : Op × Out → Option Auth
  | (.save c auth _, .saved (.ok ())) => if p c then some auth else last
  | _ => last

def lastSave (p : Settings → Bool) (h : History) : Option Auth := h.foldl (lastSaveStep p) none

theorem lastSave_append (p : Settings → Bool) (h : History) (e : Op × Out) :
    lastSave p (h ++ [e]) = lastSaveStep p (lastSave p h) e := by
  unfold lastSave
  rw [List.foldl_append]
  rfl

/-- The value of the most recent successful save. -/
def lastSaved (h : History) : Option Auth := lastSave (fun _ => true) h

/-- The value of the most recent successful save with sealing on. -/
def lastSealed (h : History) : Option Auth := lastSave Settings.sealing h

/-- Every load that succeeds returns the value of the most recent successful
save. -/
def LastWriteWins (h : History) : Prop :=
  ∀ pre post c auth, h = pre ++ (.load c, .loaded (.ok auth)) :: post → lastSaved pre = some auth

/-- A load with sealing on comes before every sealed save, or the last sealed
save stored what the last save did. -/
def SealedUpToDate (h : History) : Prop :=
  ∀ pre post c out, h = pre ++ (.load c, out) :: post → c.sealing = true →
    lastSealed pre = none ∨ lastSealed pre = lastSaved pre

/-! ## What the calls do -/

section
variable {T : Sealer} {metaPath : List Char} {c : Settings} {d : Disk} {auth : Auth}

/-- Where the sealed file has a path, the plain one has, too: its name is
shorter. -/
theorem authPath_of_sealedPath {path : List Char} (h : sealedPath metaPath = .ok path) :
    ∃ path', authPath metaPath = .ok path' ∧ path'.length ≤ path.length := by
  unfold sealedPath auxPath at h
  unfold authPath auxPath
  simp only at h ⊢
  cases hd : dirLen (if metaPath = [] then defaultMetaPath else metaPath) with
  | none => rw [hd] at h; cases h
  | some n =>
    rw [hd] at h
    obtain ⟨hfit, hpath⟩ := except_guard_ok.mp h
    have h1 : "aik_auth.sealed".length = 15 := rfl
    have h2 : "aik_auth.dat".length = 12 := rfl
    simp only
    rw [if_neg (by omega)]
    refine ⟨_, rfl, ?_⟩
    rw [← Except.ok.inj hpath]
    have hlong : "aik_auth.dat".toList.length ≤ "aik_auth.sealed".toList.length := by decide
    by_cases hn : n > 1
    · simp only [hn, if_true, List.length_append, List.length_cons]
      omega
    · simp only [hn, if_false, List.length_append]
      omega

theorem tmpFits_mono {path path' : List Char} (h : tmpFits path = .ok ())
    (hle : path'.length ≤ path.length) : tmpFits path' = .ok () := by
  unfold tmpFits at h ⊢
  obtain ⟨hfit, -⟩ := except_guard_ok.mp h
  rw [if_neg (by omega)]

/-- The files after a successful save. -/
def Disk.after (T : Sealer) (c : Settings) (d : Disk) (auth : Auth) (draw : Nat) : Disk where
  plain := if c.sealAikAuthStrict then none else some (recordOf auth)
  sealed := if c.sealing then some (T.sealSecret draw auth) else d.sealed

/-- **Save.** It fails and changes nothing, or it writes the files the
settings name. -/
theorem save_spec (T : Sealer) (metaPath : List Char) (c : Settings) (d : Disk) (auth : Auth)
    (draw : Nat) : (∃ e, saveAuth T metaPath c d auth draw = (d, .error e)) ∨
      saveAuth T metaPath c d auth draw = (d.after T c auth draw, .ok ()) ∧
        (c.sealing = true → ∃ path, sealedPath metaPath = .ok path) := by
  unfold saveAuth Disk.after
  cases hs : c.sealing with
  | true =>
    simp only [if_true]
    unfold saveAuthSealed
    cases hp : sealedPath metaPath with
    | error e => exact .inl ⟨e, rfl⟩
    | ok path =>
      simp only
      cases ht : tmpFits path with
      | error e => exact .inl ⟨e, rfl⟩
      | ok u =>
        -- The plain name fits where the sealed one did, so the second half cannot fail.
        obtain ⟨path', hp', hle⟩ := authPath_of_sealedPath hp
        refine .inr ⟨?_, fun _ => ⟨path, rfl⟩⟩
        unfold savePlainPart saveAuthPlaintext
        simp only [hp', tmpFits_mono ht hle]
        split
        · rfl
        · rfl
  | false =>
    have hstrict : c.sealAikAuthStrict = false := by
      unfold Settings.sealing at hs
      exact (Bool.or_eq_false_iff.mp hs).2
    unfold savePlainPart saveAuthPlaintext
    simp only [hstrict, Bool.false_eq_true, if_false]
    cases hp : authPath metaPath with
    | error e => exact .inl ⟨e, rfl⟩
    | ok path =>
      simp only
      cases ht : tmpFits path with
      | error e => exact .inl ⟨e, rfl⟩
      | ok u => exact .inr ⟨rfl, fun h => by cases h⟩

/-- A sealed file gives back its value. -/
theorem loadAuthSealed_ok {path : List Char} {draw : Nat} (hp : sealedPath metaPath = .ok path)
    (hd : d.sealed = some (T.sealSecret draw auth)) : loadAuthSealed T metaPath d = .ok auth := by
  unfold loadAuthSealed
  have hne : ¬ (T.sealSecret draw auth).length = 0 := by
    intro h
    exact T.sealed_ne _ _ (List.length_eq_zero_iff.mp h)
  have hlen : ¬ auth.toList.length ≠ aikAuthSize.toNat := by
    rw [List.Vector.toList_length]
    decide
  simp only [hp, hd, T.unseal_sealed]
  rw [if_neg hne, if_neg hlen, Lota.L4.Token.toBlob_toList]

theorem loadAuthSealed_none (T : Sealer) (metaPath : List Char) (hd : d.sealed = none) :
    ∃ e, loadAuthSealed T metaPath d = .error e := by
  unfold loadAuthSealed
  cases hp : sealedPath metaPath with
  | error e => exact ⟨e, rfl⟩
  | ok path =>
    simp only [hd]
    exact ⟨_, rfl⟩

/-- A plain file gives back its value or nothing. -/
theorem loadAuthPlaintext_ok {rec : AikAuthRecord} (h : loadAuthPlaintext metaPath d = .ok auth)
    (hd : d.plain = some rec) : rec.auth = auth := by
  unfold loadAuthPlaintext at h
  cases hp : authPath metaPath with
  | error e => rw [hp] at h; cases h
  | ok path =>
    simp only [hp, hd] at h
    obtain ⟨-, h⟩ := except_guard_ok.mp h
    obtain ⟨-, h⟩ := except_guard_ok.mp h
    obtain ⟨-, h⟩ := except_guard_ok.mp h
    obtain ⟨-, h⟩ := except_guard_ok.mp h
    exact Except.ok.inj h

theorem loadAuthPlaintext_none (hd : d.plain = none) : loadAuthPlaintext metaPath d ≠ .ok auth := by
  intro h
  unfold loadAuthPlaintext at h
  cases hp : authPath metaPath with
  | error e => rw [hp] at h; cases h
  | ok path => simp only [hp, hd] at h; cases h

/-! ## The invariant -/

/-- The sealed file holds the last sealed save, the plain one the last save
or nothing. -/
structure Inv (T : Sealer) (metaPath : List Char) (h : History) (d : Disk) : Prop where
  unsealed : lastSealed h = none → d.sealed = none
  sealed : ∀ auth, lastSealed h = some auth → ∃ draw, d.sealed = some (T.sealSecret draw auth)
  plain : ∀ rec, d.plain = some rec → lastSaved h = some rec.auth
  path : lastSealed h ≠ none → ∃ path, sealedPath metaPath = .ok path

theorem start_inv : Inv T metaPath [] emptyDisk := by
  refine ⟨fun _ => rfl, fun auth h => ?_, fun rec h => ?_, fun h => absurd rfl h⟩
  · cases h
  · cases h

/-- An entry that is no successful save. -/
theorem Inv.quiet {h : History} {e : Op × Out} (hi : Inv T metaPath h d)
    (hs : ∀ p last, lastSaveStep p last e = last) : Inv T metaPath (h ++ [e]) d := by
  have happ : ∀ p, lastSave p (h ++ [e]) = lastSave p h := fun p => by rw [lastSave_append, hs]
  have h1 : lastSealed (h ++ [e]) = lastSealed h := happ _
  have h2 : lastSaved (h ++ [e]) = lastSaved h := happ _
  refine ⟨?_, ?_, ?_, ?_⟩
  · rw [h1]
    exact hi.unsealed
  · rw [h1]
    exact hi.sealed
  · rw [h2]
    exact hi.plain
  · rw [h1]
    exact hi.path

theorem step_inv {h : History} (hi : Inv T metaPath h d) (op : Op) :
    Inv T metaPath (h ++ [(op, (step T metaPath d op).2)]) (step T metaPath d op).1 := by
  cases op with
  | load c => exact hi.quiet fun p last => rfl
  | save c auth draw =>
    rcases save_spec T metaPath c d auth draw with ⟨e, hs⟩ | ⟨hs, hpath⟩
    · have hstep : step T metaPath d (.save c auth draw) = (d, .saved (.error e)) := by
        simp only [step, hs]
      rw [hstep]
      exact hi.quiet fun p last => rfl
    · have hstep : step T metaPath d (.save c auth draw) =
          (d.after T c auth draw, .saved (.ok ())) := by
        simp only [step, hs]
      rw [hstep]
      have hsealed : lastSealed (h ++ [(.save c auth draw, .saved (.ok ()))]) =
          if c.sealing then some auth else lastSealed h := lastSave_append _ _ _
      have hsaved : lastSaved (h ++ [(.save c auth draw, .saved (.ok ()))]) = some auth := by
        unfold lastSaved
        rw [lastSave_append]
        rfl
      refine ⟨?_, ?_, ?_, ?_⟩
      · rw [hsealed]
        unfold Disk.after
        simp only
        split
        · intro hnone
          cases hnone
        · exact hi.unsealed
      · rw [hsealed]
        unfold Disk.after
        simp only
        split
        · intro a ha
          cases ha
          exact ⟨draw, rfl⟩
        · exact hi.sealed
      · intro rec hrec
        rw [hsaved]
        unfold Disk.after at hrec
        simp only at hrec
        split at hrec
        · cases hrec
        · rw [← Option.some.inj hrec]
          rfl
      · rw [hsealed]
        intro hne
        split at hne
        · rename_i hc
          exact hpath hc
        · exact hi.path hne

/-- What a load that succeeds returns. -/
theorem load_spec {h : History} (hi : Inv T metaPath h d) :
    (∀ a, loadAuth T metaPath c d = .ok a → c.sealing = true ∧ lastSealed h = some a ∨
        (c.sealing = true → lastSealed h = none) ∧ lastSaved h = some a) ∧
      (c.sealing = true → ∀ a, lastSealed h = some a → loadAuth T metaPath c d = .ok a) := by
  have hplain : ∀ a, loadAuthPlaintext metaPath d = .ok a → lastSaved h = some a := by
    intro a ha
    cases hd : d.plain with
    | none => exact absurd ha (loadAuthPlaintext_none hd)
    | some rec =>
      rw [hi.plain rec hd, loadAuthPlaintext_ok ha hd]
  unfold loadAuth
  cases hs : c.sealing with
  | false =>
    refine ⟨?_, fun h => by cases h⟩
    intro a ha
    exact .inr ⟨fun h => (by cases h), hplain a ha⟩
  | true =>
    simp only [if_true]
    cases hl : lastSealed h with
    | none =>
      obtain ⟨e, he⟩ := loadAuthSealed_none T metaPath (hi.unsealed hl)
      rw [he]
      refine ⟨?_, fun _ a h => by cases h⟩
      intro a ha
      simp only at ha
      split at ha
      · cases ha
      · exact .inr ⟨fun _ => rfl, hplain a ha⟩
    | some b =>
      obtain ⟨draw, hd⟩ := hi.sealed b hl
      obtain ⟨path, hp⟩ := hi.path (by rw [hl]; exact Option.some_ne_none b)
      rw [loadAuthSealed_ok hp hd]
      refine ⟨?_, ?_⟩
      · intro a ha
        rw [Except.ok.inj ha]
        exact .inl ⟨trivial, rfl⟩
      · intro _ a ha
        rw [Option.some.inj ha]

end

/-! ## Last write wins -/

section
variable (T : Sealer) (metaPath : List Char)

/-- The files and the history after a run from an empty disk. -/
theorem run_inv (ops : List Op) :
    Inv T metaPath ((machine T metaPath).hist emptyDisk ops)
    ((machine T metaPath).run emptyDisk ops) := by
  have hrun :=
    Machine.hist_inv (M := machine T metaPath) (J := Inv T metaPath)
      (fun h d op hi => step_inv hi op) ops
    start_inv
  rwa [List.nil_append] at hrun

/-- A load in a run is a load from the files of the run up to it. -/
theorem hist_load {ops : List Op} {pre post : History} {c : Settings} {out : Out}
    (h : (machine T metaPath).hist emptyDisk ops = pre ++ (.load c, out) :: post) :
    ∃ d, Inv T metaPath pre d ∧ out = .loaded (loadAuth T metaPath c d) := by
  obtain ⟨ops₁, ops₂, -, hpre, hout⟩ := Machine.hist_split h
  refine ⟨(machine T metaPath).run emptyDisk ops₁, ?_, hout⟩
  rw [hpre]
  exact run_inv T metaPath ops₁

/-- **Last write wins.** In every run from an empty disk, every load that
succeeds returns the value of the most recent successful save exactly when no
load with sealing on comes after a sealed save of another value than that of
the last save. -/
theorem last_write_wins_iff (ops : List Op) :
    LastWriteWins ((machine T metaPath).hist emptyDisk ops) ↔
      SealedUpToDate ((machine T metaPath).hist emptyDisk ops) := by
  constructor
  · intro hwins pre post c out heq hc
    obtain ⟨d, hi, hout⟩ := hist_load T metaPath heq
    cases hl : lastSealed pre with
    | none => exact .inl rfl
    | some b =>
      have hload := (load_spec hi).2 hc b hl
      rw [hout, hload] at heq
      exact .inr (hwins pre post c b heq).symm
  · intro hup pre post c a heq
    obtain ⟨d, hi, hout⟩ := hist_load T metaPath heq
    rcases (load_spec hi).1 a (Out.loaded.inj hout).symm with ⟨hc, hl⟩ | ⟨-, hl⟩
    · rcases hup pre post c _ heq hc with hnone | hsame
      · rw [hl] at hnone
        cases hnone
      · rw [← hsame]
        exact hl
    · exact hl

end

def sealOn : Settings := { sealAikAuth := true, sealAikAuthStrict := false }
def sealOff : Settings := { sealAikAuth := false, sealAikAuthStrict := false }

def auth1 : Auth := List.Vector.replicate 32 1
def auth2 : Auth := List.Vector.replicate 32 2

/-- A sealed save of one value, a plain save of another, a load with sealing
on: the sealed file is still there and its value comes back. -/
theorem stale_run (T : Sealer) :
    (machine T []).hist emptyDisk [.save sealOn auth1 0, .save sealOff auth2 1, .load sealOn] =
    [(.save sealOn auth1 0, .saved (.ok ())), (.save sealOff auth2 1, .saved (.ok ()))] ++
      (.load sealOn, .loaded (.ok auth1)) :: [] := by
  have hload : loadAuth T [] sealOn ⟨some (recordOf auth2), some (T.sealSecret 0 auth1)⟩ =
      .ok auth1 := by
    have hp : sealedPath [] = .ok "/var/lib/lota/aik_auth.sealed".toList := rfl
    unfold loadAuth
    rw [if_pos (by decide), loadAuthSealed_ok hp rfl]
  show [_, _,
      (Op.load sealOn,
        Out.loaded (loadAuth T [] sealOn ⟨some (recordOf auth2), some (T.sealSecret 0 auth1)⟩))] = _
  rw [hload]
  rfl

/-- A TPM whose objects are a one-byte public half and the secret itself. -/
def clearTpm : Tpm Unit where
  initialized _ := true
  acquirePrimary _ := .ok ()
  policyDigest _ _ := .ok [1]
  create _ _ _ secret := .ok ([7], secret)
  readPcr _ _ := .ok (Blob.zero 32)
  publicSize _ := some 1
  privateSize priv := some priv.length
  loadUnseal _ _ _ priv := .ok priv

theorem clearTpm_correct : clearTpm.Correct where
  publicSize := by
    intro _ _ _ _ _ _ h _
    cases h
    rfl
  privateSize := by
    intro _ _ _ _ _ _ h
    cases h
    rfl
  unseals := by
    intro _ _ _ _ _ _ _ _ h
    cases h
    rfl
  only := by
    intro _ _ _ _ _ _ _ _ _ h h'
    cases h
    cases h'
    rfl

theorem clearTpm_seals (draw : Nat) (auth : Auth) :
    ∃ b, tpmSealSecret clearTpm () draw auth.toList sealDefaultPcrMask sealMaxBlob = .ok b ∧
    1 ≤ b.length ∧
      b.length ≤ sealMaxBlob := by
  have hlen : auth.toList.length = 32 := List.Vector.toList_length _
  refine tpmSealSecret_seals rfl (by omega) (by rw [hlen]; decide) (by decide) rfl ?_ ?_
  · exact ⟨[1], [7], auth.toList, rfl, rfl, by decide, by decide, by omega, by rw [hlen]; decide⟩
  · exact ⟨_, rfl⟩

/-- The old value comes back from the sealed file. -/
theorem stale_sealed_auth :
    ¬ LastWriteWins ((machine (tpmSealer clearTpm_correct clearTpm_seals) []).hist emptyDisk
      [.save sealOn auth1 0, .save sealOff auth2 1, .load sealOn]) := by
  intro hwins
  have hlast := hwins _ _ _ _ (stale_run _)
  have hne : (some auth2 : Option Auth) ≠ some auth1 := by decide
  exact hne hlast

end Lota.L6.AikAuth

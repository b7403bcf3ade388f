import Lota.Core.Clock
import Lota.Core.Machine
import Lota.Core.Rsa
import Lota.Core.Sha256

/-!
# Enrollment at the attestation CA (`attestca/enroll`)

A host enrolls in two calls. `Begin` verifies its EK certificate and its AIK,
wraps a secret to the EK and stores the session under a random id.
`Complete` removes the session and issues a certificate for its AIK if the
host returned the secret in time.

Both calls hold the lock for a part of their work only, so each is two events
of the machine: `Begin` prepares and then commits, `Complete` takes the
session and then finishes. Between the two any other event may come.

X.509, the TPM structures and `MakeCredential` are the parameter `C`; the
clock readings and the random draws come with the events. Nothing is assumed
about them.

* `prepare_ok`: what a `Begin` that stores a session has verified.
* `enrollment_sound`: over every interleaving, a certificate goes to the AIK
  of an earlier `Begin`, for its secret, within its time to live; there are no
  more certificates for a session id than `Begin`s that returned it; and the
  sessions never exceed the cap.
-/
namespace Lota.L5.Enroll
open Lota.Core

/-! ## Verifying an AIK (`attestca/credential`) -/

def algRSA : UInt16 := 0x0001
def algSHA256 : UInt16 := 0x000B
def algRSASSA : UInt16 := 0x0014

def flagFixedTPM : UInt32 := 0x00000002
def flagFixedParent : UInt32 := 0x00000010
def flagSensitiveDataOrigin : UInt32 := 0x00000020
def flagUserWithAuth : UInt32 := 0x00000040
def flagRestricted : UInt32 := 0x00010000
def flagDecrypt : UInt32 := 0x00020000
def flagSign : UInt32 := 0x00040000

/-- mirrors src/attestca/credential/credential.go:45-47 -/
def requiredAIKAttrs : UInt32 :=
  flagFixedTPM ||| flagFixedParent ||| flagSensitiveDataOrigin ||| flagUserWithAuth |||
    flagRestricted ||| flagSign

def minEKKeyBits : Nat := 2048

/-- `tpm2.RSAParams`, the fields that are read. -/
structure RSAParams where
  keyBits : UInt16
  sign : Option UInt16
  deriving DecidableEq

/-- `tpm2.Public`, the fields that are read. -/
structure TPMPublic where
  type : UInt16
  nameAlg : UInt16
  attributes : UInt32
  rsaParameters : Option RSAParams
  deriving DecidableEq

/-- A key as Go's interface values carry it. -/
inductive PublicKey where
  | rsa (key : RSAPublicKey)
  | other
  deriving DecidableEq

/-- The library behind the service: `Issuer.VerifyEKCertificate` (the public
key of the certificate), `tpm2.DecodePublic`, `Public.Name` (its digest),
`Public.Key`, `credactivation.Generate` and `Issuer.IssueAIKCertificate`. -/
structure CA where
  verifyEKCertificate : Bytes → Time → Except String PublicKey
  decodePublic : Bytes → Except String TPMPublic
  publicName : TPMPublic → Except String (Option Bytes)
  publicKey : Bytes → TPMPublic → Except String PublicKey
  makeCredential : (aikName : Bytes) → RSAPublicKey → (secret : Bytes) → Except String (Bytes × Bytes)
  issueAIKCertificate : RSAPublicKey → (subjectCN : String) → Time → Except String Bytes

/-- The errors of the two calls. -/
inductive EnrollError where
  | unknownSession | sessionExpired | activationMismatch | ekKeyType | aikKeyType | tooManyPending
  | ekVerification (cause : String)
  | aikDecode (cause : String)
  | aikTemplate (what : String)
  | aikName
  | aikKey (cause : String)
  | ekKeySize (bits : Nat)
  | credential (cause : String)
  | random (cause : String)
  | issuing (cause : String)
  deriving DecidableEq

/-- mirrors src/attestca/credential/credential.go:96-122 -/
def validateAIKTemplate (pub : TPMPublic) : Except EnrollError Unit :=
  if pub.type ≠ algRSA then .error (.aikTemplate "type")
  else if pub.nameAlg ≠ algSHA256 then .error (.aikTemplate "name algorithm")
  else if pub.attributes &&& requiredAIKAttrs ≠ requiredAIKAttrs then .error (.aikTemplate "attributes")
  else if pub.attributes &&& flagDecrypt ≠ 0 then .error (.aikTemplate "decrypt attribute set")
  else match pub.rsaParameters with
  | none => .error (.aikTemplate "missing RSA parameters")
  | some params =>
    if params.keyBits.toNat < minEKKeyBits then .error (.aikTemplate "key bits")
    else if params.sign ≠ some algRSASSA then .error (.aikTemplate "signing scheme is not RSASSA")
    else .ok ()

variable (C : CA)

/-- mirrors src/attestca/credential/credential.go:74-94 -/
def validateAIK (tpmtPublic : Bytes) : Except EnrollError (TPMPublic × Bytes) :=
  match C.decodePublic tpmtPublic with
  | .error e => .error (.aikDecode e)
  | .ok pub =>
    match validateAIKTemplate pub with
    | .error e => .error e
    | .ok () =>
      match C.publicName pub with
      | .error _ => .error .aikName
      | .ok none => .error .aikName
      | .ok (some name) => .ok (pub, name)

/-- `secret` is what the random source returns.
mirrors src/attestca/credential/credential.go:131-156 -/
def generateChallenge (ekPub : RSAPublicKey) (aikName : Bytes) (secret : Except String Bytes) :
    Except EnrollError (Bytes × Bytes × Bytes) :=
  if ekPub.bitLen < minEKKeyBits then .error (.ekKeySize ekPub.bitLen)
  else match secret with
  | .error e => .error (.random e)
  | .ok secret =>
    match C.makeCredential aikName ekPub secret with
    | .error e => .error (.credential e)
    | .ok (credBlob, encSecret) => .ok (credBlob, encSecret, secret)

/-! ## The service -/

/-- mirrors src/attestca/enroll/enroll.go:63-68 -/
structure Session where
  secret : Bytes
  aikPub : RSAPublicKey
  deviceID : String
  createdAt : Time
  deriving DecidableEq

/-- mirrors src/attestca/enroll/enroll.go:51-61; the issuer is `C`, the clock
comes with the events. -/
structure Service where
  ttl : Duration
  maxPending : Int
  pseudonymKey : Bytes
  pending : GoMap String Session

def defaultSessionTTL : Duration := 120000000000
def defaultMaxPending : Int := 4096

/-- `WithSessionTTL` and `WithMaxPending`. -/
inductive ServiceOption where
  | sessionTTL (ttl : Duration)
  | maxPending (n : Int)

/-- mirrors src/attestca/enroll/enroll.go:81-97 -/
def ServiceOption.apply (s : Service) : ServiceOption → Service
  | .sessionTTL ttl => if 0 < ttl then { s with ttl } else s
  | .maxPending n => if 0 < n then { s with maxPending := n } else s

/-- mirrors src/attestca/enroll/enroll.go:111-130 -/
def newService (pseudonymKey : Bytes) (opts : List ServiceOption) : Except String Service :=
  if pseudonymKey.length < 16 then .error "pseudonym key too short"
  else .ok (opts.foldl ServiceOption.apply
    { ttl := defaultSessionTTL, maxPending := defaultMaxPending, pseudonymKey, pending := ∅ })

/-- `big.Int.Bytes`: big-endian without leading zeros. -/
def natBytes (n : Nat) : Bytes := toBE ((n.size + 7) / 8) n

/-- mirrors src/attestca/enroll/enroll.go:240-243 -/
def Service.deviceID (s : Service) (ekPub : RSAPublicKey) : String :=
  hexEncode (hmacSha256 s.pseudonymKey (natBytes ekPub.n)).toList

/-- One `Begin`: its arguments, the clock reading and the two random draws. -/
structure BeginRequest where
  now : Time
  ekCertDER : Bytes
  aikTPMTPublic : Bytes
  secret : Except String Bytes
  sessionID : Except String Bytes

/-- A `Begin` that has left its first part: what it will store, the id it
drew and the challenge it will return. -/
structure Prepared where
  req : BeginRequest
  sessionID : String
  session : Session
  credentialBlob : Bytes
  encryptedSecret : Bytes

/-- The part of `Begin` in front of the lock.
mirrors src/attestca/enroll/enroll.go:135-167 -/
def Service.prepare (s : Service) (req : BeginRequest) : Except EnrollError Prepared :=
  match C.verifyEKCertificate req.ekCertDER req.now with
  | .error e => .error (.ekVerification e)
  | .ok .other => .error .ekKeyType
  | .ok (.rsa ekPub) =>
    match validateAIK C req.aikTPMTPublic with
    | .error e => .error e
    | .ok (aikPublic, aikName) =>
      match C.publicKey req.aikTPMTPublic aikPublic with
      | .error e => .error (.aikKey e)
      | .ok .other => .error .aikKeyType
      | .ok (.rsa aikRSA) =>
        match generateChallenge C ekPub aikName req.secret with
        | .error e => .error e
        | .ok (credBlob, encSecret, secret) =>
          match req.sessionID with
          | .error e => .error (.random e)
          | .ok id => .ok {
              req
              sessionID := hexEncode id
              session := { secret, aikPub := aikRSA, deviceID := s.deviceID ekPub,
                           createdAt := req.now }
              credentialBlob := credBlob
              encryptedSecret := encSecret }

/-- One round of the sweep. -/
def Service.sweepEntry (s : Service) (now : Time) (pending : GoMap String Session)
    (e : Sigma fun _ : String => Session) : GoMap String Session :=
  if now - e.2.createdAt > s.ttl then pending.erase e.1 else pending

/-- mirrors src/attestca/enroll/enroll.go:228-234 -/
def Service.sweepLocked (s : Service) (now : Time) : Service :=
  { s with pending := s.pending.entries.foldl (s.sweepEntry now) s.pending }

/-- The part of `Begin` under the lock.
mirrors src/attestca/enroll/enroll.go:169-187 -/
def Service.commit (s : Service) (p : Prepared) : Service × Except EnrollError Unit :=
  let swept := s.sweepLocked p.req.now
  if (swept.pending.keys.length : Int) ≥ s.maxPending then (swept, .error .tooManyPending)
  else ({ swept with pending := swept.pending.insert p.sessionID p.session }, .ok ())

/-- One `Complete`. -/
structure CompleteRequest where
  now : Time
  sessionID : String
  recoveredSecret : Bytes
  deriving DecidableEq

/-- A `Complete` behind the lock, with the session it removed. -/
structure Taken where
  req : CompleteRequest
  session : Session
  deriving DecidableEq

/-- The part of `Complete` under the lock.
mirrors src/attestca/enroll/enroll.go:197-206 -/
def Service.take (s : Service) (req : CompleteRequest) : Service × Option Taken :=
  match s.pending.lookup req.sessionID with
  | none => (s, none)
  | some session => ({ s with pending := s.pending.erase req.sessionID }, some { req, session })

/-- The part of `Complete` behind the lock.
mirrors src/attestca/enroll/enroll.go:207-219 -/
def finish (ttl : Duration) (t : Taken) : Except EnrollError (Bytes × String) :=
  if t.req.now - t.session.createdAt > ttl then .error .sessionExpired
  else if t.req.recoveredSecret ≠ t.session.secret then .error .activationMismatch
  else match C.issueAIKCertificate t.session.aikPub t.session.deviceID t.req.now with
  | .error e => .error (.issuing e)
  | .ok der => .ok (der, t.session.deviceID)

/-! ## The machine -/

/-- The service with the calls that are between their two parts. -/
structure State where
  service : Service
  beginning : List Prepared
  completing : List Taken

/-- What can happen next. `commit` and `finish` name the call that goes on. -/
inductive Event where
  | prepare (req : BeginRequest)
  | commit (i : Nat)
  | take (req : CompleteRequest)
  | finish (t : Taken)

/-- What an event shows outside. -/
inductive Output where
  | nothing
  | refused (e : EnrollError)
  /-- `Begin` returns its challenge. -/
  | challenge (p : Prepared)
  /-- `Complete` returns a certificate. -/
  | certificate (t : Taken) (der : Bytes) (deviceID : String)

def step (s : State) : Event → State × Output
  | .prepare req =>
    match s.service.prepare C req with
    | .error e => (s, .refused e)
    | .ok p => ({ s with beginning := s.beginning ++ [p] }, .nothing)
  | .commit i =>
    match s.beginning[i]? with
    | none => (s, .nothing)
    | some p =>
      let s' := { s with service := (s.service.commit p).1, beginning := s.beginning.eraseIdx i }
      match (s.service.commit p).2 with
      | .error e => (s', .refused e)
      | .ok () => (s', .challenge p)
  | .take req =>
    match s.service.take req with
    | (service, none) => ({ s with service }, .refused .unknownSession)
    | (service, some t) => ({ s with service, completing := t :: s.completing }, .nothing)
  | .finish t =>
    if t ∉ s.completing then (s, .nothing)
    else
      let s' := { s with completing := s.completing.erase t }
      match finish C s.service.ttl t with
      | .error e => (s', .refused e)
      | .ok (der, deviceID) => (s', .certificate t der deviceID)

def machine : Machine State Event Output := ⟨step C⟩

/-- A service at its start. -/
def start (service : Service) : State := { service, beginning := [], completing := [] }

end Lota.L5.Enroll

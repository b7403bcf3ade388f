import Lota.L6Agent.MemoryHooks

/-!
# The LSM programs and what they record (`bpf/lota_lsm.bpf.c`)

Every program of the object file, with all it reads. A program decides on one
request, may put a record into the ring buffer `events`, and counts in
`stats`. The programs run one after the other here, and an array map is never
without an entry below its size.

`Policy` holds the maps that only user space writes; no program but
`lota_task_free` changes a map that decides. `Audit` is the rest: the budget
for records of allowed requests, the counters, the ring, and what the consumer
has taken out of it.

* `Journal` is the part of `Audit` that records pass through, with one
  operation for an attempt to record something.
* `call_records`: every program makes at most one attempt, which tells of a
  refusal exactly when it refuses, and a refusal does not wait for the budget.
-/
namespace Lota.L6.Lsm
open Lota.Core Lota.L6.Protect Lota.L6.MemoryHooks

/-! ## Records -/

/-- mirrors include/lota.h:48-61 -/
inductive EventType where
  | exec | execBlocked | moduleLoad | moduleBlocked | mmapExec | mmapBlocked | ptrace
  | ptraceBlocked | killBlocked
  | setuid | anonExec | anonExecBlocked
  deriving DecidableEq

/-- The types a program gives to a request it refuses. -/
def EventType.blocked : EventType → Bool
  | .execBlocked | .moduleBlocked | .mmapBlocked | .ptraceBlocked | .killBlocked
  | .anonExecBlocked => true
  | _ => false

/-- `target` is the union of `target_pid` and `target_uid`; the texts are what
stands before their first NUL. mirrors include/lota.h:127-142 -/
structure ExecEvent where
  timestampNs : UInt64
  eventType : EventType
  pid : UInt32
  tgid : UInt32
  uid : UInt32
  gid : UInt32 := 0
  target : UInt32 := 0
  flags : UInt32 := 0
  hash : Bytes := List.replicate 32 0
  comm : Bytes
  filename : Bytes := []
  deriving DecidableEq

def maxPathLen : Nat := 256
def maxCommLen : Nat := 16
def hashSize : Nat := 32
def eventFlagProtected : UInt32 := 1

/-- `bpf_probe_read_kernel_str` into `n` bytes. -/
def readKernelStr (n : Nat) (text : Bytes) : Bytes := (text.takeWhile (· ≠ 0)).take (n - 1)

/-! ## Counters, budget and ring -/

/-- mirrors src/bpf/lota_lsm.bpf.c:159-173 -/
inductive Stat where
  | totalExecs | eventsSent | errors | ringbufDrops | modulesBlocked | mmapExecs | mmapBlocked
  | ptraceAttempts
  | ptraceBlocked | setuidEvents | anonExec | anonExecBlocked | execBlocked | bpfSyscallBlocked
  | allowEventsSuppressed
  deriving DecidableEq

/-- mirrors src/bpf/lota_lsm.bpf.c:177-181 -/
structure EventBudget where
  windowStartNs : UInt64
  emitted : UInt32
  deriving DecidableEq

/-- `delivered` is what the consumer has taken from the ring, the oldest
first. -/
structure Audit where
  eventBudget : EventBudget
  stats : Stat → UInt64
  ring : List ExecEvent
  delivered : List ExecEvent

def allowEventBudgetPerSec : UInt32 := 256
def windowNs : UInt64 := 1000000000
def ringbufSize : Nat := 256 * 1024

/-- `sizeof(struct lota_exec_event)`, packed. -/
def eventSize : Nat := 8 + 7 * 4 + 32 + 16 + 256

/-- A record in the ring: its header of 8 bytes before it, rounded up to 8. -/
def recordSize : Nat := (eventSize + 8 + 7) / 8 * 8

/-- `bpf_ringbuf_reserve` succeeds: producer and consumer stay less than the
size of the ring apart. -/
def hasRoom (ring : List ExecEvent) : Bool := (ring.length + 1) * recordSize < ringbufSize

/-- mirrors src/bpf/lota_lsm.bpf.c:294-299 -/
def incStat (idx : Stat) (a : Audit) : Audit :=
  { a with stats := Function.update a.stats idx (a.stats idx + 1) }

/-- `bpf_ringbuf_reserve`, the record, `bpf_ringbuf_submit` and the counters
of both outcomes; all programs that record have these lines. -/
def submit (event : ExecEvent) (a : Audit) : Audit :=
  if hasRoom a.ring then incStat .eventsSent { a with ring := a.ring ++ [event] }
    else incStat .ringbufDrops a

/-- mirrors src/bpf/lota_lsm.bpf.c:370-401; `now` is what `bpf_ktime_get_ns`
returns. -/
def shouldEmitEvent (mode : UInt32) (blocked : Bool) (now : UInt64) (a : Audit) : Audit × Bool :=
  if blocked = true then (a, true)
  else if mode ≠ modeEnforce then (a, true)
  else if now < a.eventBudget.windowStartNs ∨ windowNs ≤ now - a.eventBudget.windowStartNs then
    ({ a with eventBudget := ⟨now, 1⟩ }, true)
  else if allowEventBudgetPerSec ≤ a.eventBudget.emitted then (incStat .allowEventsSuppressed a, false)
  else ({ a with eventBudget := { a.eventBudget with emitted := a.eventBudget.emitted + 1 } }, true)

/-- `should_emit_event`, and the record if it says so. -/
def report (mode : UInt32) (blocked : Bool) (now : UInt64) (event : ExecEvent) (a : Audit) : Audit :=
  let (a, emitEvent) := shouldEmitEvent mode blocked now a
  if emitEvent = true then submit event a else a

/-- The end of a program: a refusal is counted. -/
def finish (blocked : Bool) (stat : Stat) (a : Audit) : Audit × Verdict :=
  if blocked = true then (incStat stat a, .eperm) else (a, .allow)

/-! ## What the programs read -/

/-- mirrors include/lota.h:171-174 -/
structure IntegrityData where
  sigEnforceAddr : UInt64
  lockdownAddr : UInt64
  deriving DecidableEq

/-- The maps that decide and that no program writes. `taskAuth` is the task
storage, by `task_struct`. -/
structure Policy where
  config : UInt32 → Option UInt32
  integrityCfg : IntegrityData
  lists : Allowlists
  trustedLibMnt : UInt64 × UInt64 → Option UInt32
  taskAuth : Nat → Option UInt32

/-- A task: which `task_struct` it is, which its group leader is, and what is
read of both. -/
structure TaskRef where
  addr : Nat
  groupLeader : Option Nat
  task : Task
  comm : Bytes

/-- What the helpers return for the task that makes the request. `userNsLevel`
is missing when the task has no credentials or no user namespace; `now` and
`stamp` are the two clock readings, for the budget and for the record. -/
structure Caller where
  current : Option TaskRef
  pid : UInt32
  tgid : UInt32
  uid : UInt32
  gid : UInt32
  comm : Bytes
  userNsLevel : Option UInt32
  now : UInt64
  stamp : UInt64

structure Inode where
  /-- `s_dev` of its super block. -/
  dev : Option UInt64
  ino : UInt64
  mode : UInt32
  rdev : UInt32

/-- An open file; `name` is `d_name.name` when it can be read. -/
structure KFile where
  inode : Option Inode
  flags : UInt32
  verityDigest : Option Bytes
  name : Option Bytes

/-- The maps as the programs on executable memory read them. -/
def hookEnv (p : Policy) (protectedPids : ProtectedPids) (c : Caller) : HookEnv :=
  { config := p.config, protectedPids, current := c.current.map TaskRef.task }

def KFile.file (f : KFile) : File :=
  { dev := ((f.inode.bind Inode.dev).getD 0), ino := (f.inode.map Inode.ino).getD 0,
    verityDigest := f.verityDigest }

def modeMaintenance : UInt32 := 2
def cfgBlockPtrace : UInt32 := 2
def cfgStrictExec : UInt32 := 4
def cfgStrictModules : UInt32 := 5
def cfgLockBpf : UInt32 := 6

def taskAuthAdmin : UInt32 := 1
def taskAuthAgent : UInt32 := 2

/-- mirrors src/bpf/lota_lsm.bpf.c:304-309 -/
def mode (p : Policy) : UInt32 := (p.config cfgMode).getD modeEnforce

/-- mirrors src/bpf/lota_lsm.bpf.c:358-362 -/
def config (p : Policy) (key : UInt32) : Bool := (p.config key).getD 0 ≠ 0

/-- mirrors src/bpf/lota_lsm.bpf.c:315-353; `kmem` is `bpf_probe_read_kernel`
of an `int`. -/
def integrityBaselineOk (kmem : UInt64 → Option Int32) (cfg : IntegrityData) : Bool :=
  if cfg.sigEnforceAddr = 0 then false
  else match kmem cfg.sigEnforceAddr with
    | none => false
    | some sigEnforce =>
      if sigEnforce ≠ 1 then false
      else if cfg.lockdownAddr = 0 then false
      else match kmem cfg.lockdownAddr with
        | none => false
        | some lockdown => decide (0 < lockdown)

/-- mirrors src/bpf/lota_lsm.bpf.c:446-468 -/
def authSubjectTask (task : TaskRef) : Nat := task.groupLeader.getD task.addr

/-- mirrors src/bpf/lota_lsm.bpf.c:470-485 -/
def hasTaskAuthFlag (p : Policy) (task : Option TaskRef) (flag : UInt32) : Bool :=
  match task with
  | none => false
  | some task => (p.taskAuth (authSubjectTask task)).any (· &&& flag ≠ 0)

/-- mirrors src/bpf/lota_lsm.bpf.c:487-496 -/
def isBpfAdminTask (p : Policy) (c : Caller) : Bool := hasTaskAuthFlag p c.current taskAuthAdmin

/-- mirrors src/bpf/lota_lsm.bpf.c:523-529 -/
def isLotaAgentTask (p : Policy) (task : Option TaskRef) : Bool := hasTaskAuthFlag p task taskAuthAgent

/-- mirrors src/bpf/lota_lsm.bpf.c:531-569 -/
def isLotaManagedMap (name : Bytes) : Bool :=
  [ascii "lota_config", ascii "protected_pids", ascii "trusted_libs", ascii "trusted_lib_mnt",
    ascii "trusted_inodes", ascii "events", ascii "stats", ascii "event_budget", ascii "integrity_cfg",
    ascii "allow_verity", ascii "lota_task_auth"].any fun n => decide (name = n)

/-- mirrors src/bpf/lota_lsm.bpf.c:577-598 -/
def inNonInitUserns (c : Caller) : Bool := c.userNsLevel.any (0 < ·)

/-- The lookup of an inode's identity in a map of identities. -/
def inodeEntry (map : UInt64 × UInt64 → Option UInt32) (inode : Option Inode) : Bool :=
  match inode with
  | none => false
  | some inode =>
    match inode.dev with
    | none => false
    | some dev => if dev = 0 ∨ inode.ino = 0 then false else isSet (map (dev, inode.ino))

/-- mirrors src/bpf/lota_lsm.bpf.c:666-686 -/
def isTrustedInode (p : Policy) (inode : Option Inode) : Bool := inodeEntry p.lists.trustedLibs inode

/-- mirrors src/bpf/lota_lsm.bpf.c:688-708 -/
def isTrustedMountpointInode (p : Policy) (inode : Option Inode) : Bool :=
  inodeEntry p.trustedLibMnt inode

def oAccmode : UInt32 := 0o3
def oWronly : UInt32 := 0o1
def oRdwr : UInt32 := 0o2
def oTrunc : UInt32 := 0o1000

/-- mirrors src/bpf/lota_lsm.bpf.c:710-721 -/
def isWriteOpenFlags (flags : UInt32) : Bool :=
  flags &&& oAccmode = oWronly ∨ flags &&& oAccmode = oRdwr ∨ flags &&& oTrunc ≠ 0

def sIfmt : UInt32 := 0o170000
def sIfchr : UInt32 := 0o020000

/-- mirrors src/bpf/lota_lsm.bpf.c:723-726 -/
def lotaDevMajor (dev : UInt32) : UInt32 := (dev >>> 8) &&& 0xFFF

/-- mirrors src/bpf/lota_lsm.bpf.c:728-732 -/
def lotaDevMinor (dev : UInt32) : UInt32 :=
  let high : UInt32 := (dev >>> 12) &&& 0xFFFFF00
  (dev &&& (0xFF : UInt32)) ||| high

/-- mirrors src/bpf/lota_lsm.bpf.c:734-760 -/
def isKernelMemDevice (file : Option KFile) : Bool :=
  match file.bind KFile.inode with
  | none => false
  | some inode =>
    if inode.mode &&& sIfmt ≠ sIfchr then false
    else if lotaDevMajor inode.rdev ≠ 1 then false
    else lotaDevMinor inode.rdev ∈ [(1 : UInt32), 2, 4]

/-! ## The programs -/

/-- `bprm->buf`, `interpreter`, `interp_flags`, `fdpath` and `filename`. -/
structure Binprm where
  file : Option KFile
  buf : Bytes
  interpreter : Bool
  interpFlags : UInt32
  fdpath : Bool
  filename : Option Bytes

/-- mirrors src/bpf/lota_lsm.bpf.c:762-773 -/
def isShebangBinprm (bprm : Binprm) : Bool := (ascii "#!").isPrefixOf bprm.buf

def binprmFlagsPathInaccessible : UInt32 := 4

/-- mirrors src/bpf/lota_lsm.bpf.c:775-789 -/
def isInaccessibleExecPath (bprm : Binprm) : Bool :=
  bprm.interpFlags &&& binprmFlagsPathInaccessible ≠ 0 ∨ bprm.fdpath = true

/-- `enum kernel_read_file_id`, the values of which `enum kernel_load_data_id`
shares. -/
inductive LoadId where
  | unknown | firmware | module | kexecImage | kexecInitramfs | policy | x509Certificate
  deriving DecidableEq

/-- The fields all records have. -/
def baseEvent (c : Caller) (eventType : EventType) : ExecEvent :=
  { timestampNs := c.stamp, eventType, pid := c.pid, tgid := c.tgid, uid := c.uid,
    comm := readKernelStr maxCommLen c.comm }

section
variable (p : Policy) (protectedPids : ProtectedPids) (c : Caller)

def msBind : UInt64 := 4096

/-- mirrors src/bpf/lota_lsm.bpf.c:794-834; `inode` is that of the path's
dentry. -/
def lotaSbMount (inode : Option Inode) (flags : UInt64) (ret : Verdict) (a : Audit) : Audit × Verdict :=
  if ret ≠ .allow then (a, .eperm)
  else if flags &&& msBind = 0 then (a, .allow)
  else if mode p ≠ modeEnforce then (a, .allow)
  else if config p cfgStrictMmap = false then (a, .allow)
  else if isTrustedInode p inode = false ∧ isTrustedMountpointInode p inode = false then (a, .allow)
  else (a, .eperm)

/-- mirrors src/bpf/lota_lsm.bpf.c:839-869 -/
def lotaFileOpen (file : Option KFile) (ret : Verdict) (a : Audit) : Audit × Verdict :=
  if ret ≠ .allow then (a, .eperm)
  else if mode p ≠ modeEnforce then (a, .allow)
  else if isKernelMemDevice file = true then (a, .eperm)
  else if config p cfgStrictMmap = false then (a, .allow)
  else match file with
    | none => (a, .allow)
    | some file =>
      if isTrustedLib p.lists (some file.file) = false then (a, .allow)
      else if isWriteOpenFlags file.flags = false then (a, .allow)
      else (a, .eperm)

/-- The digest of the image, if it has the only length that counts. -/
def execDigest (bprm : Binprm) : Option Bytes :=
  (bprm.file.bind KFile.verityDigest).filter (·.length = verityDigestSha512Size)

/-- The entry is read as one byte, the lowest. -/
def byteSet (allowed : Option UInt32) : Bool := allowed.any (· &&& 0xFF ≠ 0)

/-- The verdict of `lota_bprm_check_security`.
mirrors src/bpf/lota_lsm.bpf.c:937-950 -/
def execBlocked (bprm : Binprm) : Bool :=
  if mode p = modeEnforce ∧ config p cfgStrictExec = true then
    if isShebangBinprm bprm = true ∨ bprm.interpreter = true ∨ isInaccessibleExecPath bprm = true
      then true
    else match execDigest bprm with
      | none => true
      | some digest => !byteSet (p.lists.allowVerity digest)
  else false

/-- mirrors src/bpf/lota_lsm.bpf.c:879-1010 -/
def lotaBprmCheckSecurity (bprm : Binprm) (a : Audit) : Audit × Verdict :=
  let a := incStat .totalExecs a
  let blocked := execBlocked p bprm
  let event := { baseEvent c (if blocked then .execBlocked else .exec) with
    gid := c.gid
    filename := readKernelStr maxPathLen (bprm.filename.getD [])
    hash := (execDigest bprm).elim (List.replicate hashSize 0) (List.take hashSize) }
  finish blocked .execBlocked (report (mode p) blocked c.now event a)

/-- The verdict of `lota_kernel_read_file` on an id that it does not pass
over. mirrors src/bpf/lota_lsm.bpf.c:1049-1088 -/
def readBlocked (kmem : UInt64 → Option Int32) (file : KFile) (id : LoadId) : Bool :=
  mode p = modeEnforce ∧
    (id = .kexecImage ∨ id = .kexecInitramfs ∨ inNonInitUserns c = true ∨
      ((id = .module ∨ id = .firmware) ∧ integrityBaselineOk kmem p.integrityCfg = false) ∨
      (id = .firmware ∧ isVerityAllowed p.lists (some file.file) = false) ∨
      (id = .module ∧ config p cfgStrictModules = true ∧
        isVerityAllowed p.lists (some file.file) = false))

/-- mirrors src/bpf/lota_lsm.bpf.c:1117-1131 -/
def readFilename (id : LoadId) : Bytes :=
  match id with
  | .module => ascii "kernel_module"
  | .firmware => ascii "firmware"
  | .kexecImage => ascii "kexec_image"
  | _ => ascii "kernel_assets"

/-- mirrors src/bpf/lota_lsm.bpf.c:1023-1144 -/
def lotaKernelReadFile (kmem : UInt64 → Option Int32) (file : KFile) (id : LoadId) (a : Audit) :
    Audit × Verdict :=
  if id ∉ [LoadId.module, .firmware, .kexecImage, .kexecInitramfs, .policy] then (a, .allow)
  else if mode p = modeEnforce ∧ id = .policy then (a, .allow)
  else
    let blocked := readBlocked p c kmem file id
    let event := { baseEvent c (if blocked then .moduleBlocked else .moduleLoad) with
      uid := 0
      filename := file.name.elim (readFilename id) (readKernelStr maxPathLen) }
    finish blocked .modulesBlocked (report (mode p) blocked c.now event a)

/-- mirrors src/bpf/lota_lsm.bpf.c:1172-1206 -/
def loadBlocked (kmem : UInt64 → Option Int32) (id : LoadId) : Bool :=
  mode p = modeEnforce ∧
    (id = .kexecImage ∨ id = .kexecInitramfs ∨ inNonInitUserns c = true ∨
      ((id = .module ∨ id = .firmware) ∧ integrityBaselineOk kmem p.integrityCfg = false) ∨
      id = .firmware ∨
      (id = .module ∧ config p cfgStrictModules = true) ∨
      ((id = .kexecImage ∨ id = .kexecInitramfs) ∧ config p cfgStrictModules = true))

/-- mirrors src/bpf/lota_lsm.bpf.c:1223-1236 -/
def loadFilename (id : LoadId) : Bytes :=
  match id with
  | .module => ascii "kernel_module_mem"
  | .firmware => ascii "firmware_mem"
  | .kexecImage => ascii "kexec_image_mem"
  | .policy => ascii "policy_mem"
  | _ => ascii "kernel_data_mem"

/-- mirrors src/bpf/lota_lsm.bpf.c:1158-1252 -/
def lotaKernelLoadData (kmem : UInt64 → Option Int32) (id : LoadId) (a : Audit) : Audit × Verdict :=
  if id ∉ [LoadId.firmware, .module, .kexecImage, .kexecInitramfs, .policy, .x509Certificate]
    then (a, .allow)
  else
    let blocked := loadBlocked p c kmem id
    let event :=
      { baseEvent c (if blocked then .moduleBlocked else .moduleLoad) with
        uid := 0, filename := loadFilename id }
    finish blocked .modulesBlocked (report (mode p) blocked c.now event a)

/-- mirrors src/bpf/lota_lsm.bpf.c:1274-1417. `event` is not initialised on the
path of an anonymous mapping whose record is suppressed; it is null here, the
one value with which the lines after it are defined. -/
def lotaMmapFile (file : Option KFile) (reqprot prot : Prot) (ret : Verdict) (a : Audit) :
    Audit × Verdict :=
  let env := hookEnv p protectedPids c
  let blocked :=
    decide (MemoryHooks.lotaMmapFile p.lists env (file.map KFile.file) reqprot prot ret = .eperm)
  if ret ≠ .allow then (a, .eperm)
  else if prot.exec = false then (a, .allow)
  else match file with
    | none =>
      let event :=
        { baseEvent c (if blocked then .anonExecBlocked else .anonExec) with
          filename := ascii "(anon-exec)" }
      finish blocked .anonExecBlocked (report (mode p) blocked c.now event (incStat .anonExec a))
    | some file =>
      let event := { baseEvent c (if blocked then .mmapBlocked else .mmapExec) with
        flags := if isProtectedCurrentTask env = true then eventFlagProtected else 0
        filename := file.name.elim (ascii "(path_resolution_disabled)") (readKernelStr maxPathLen) }
      finish blocked .mmapBlocked (report (mode p) blocked c.now event (incStat .mmapExecs a))

/-- The file and the flags of a mapping. -/
structure Vma where
  vmFile : Option KFile
  vmFlags : UInt64

def vmWrite : UInt64 := 0x2
def vmMayWrite : UInt64 := 0x20

/-- A mapping as the program on `mprotect` reads it. -/
def Vma.page (vma : Vma) : Page :=
  { birth := 0, vmFile := vma.vmFile.map KFile.file, mayWrite := decide (vma.vmFlags &&& vmMayWrite ≠ 0)
    prot := { read := false, write := decide (vma.vmFlags &&& vmWrite ≠ 0), exec := false } }

/-- mirrors src/bpf/lota_lsm.bpf.c:1433-1574 -/
def lotaFileMprotect (vma : Vma) (prot : Prot) (a : Audit) : Audit × Verdict :=
  let env := hookEnv p protectedPids c
  let blocked := decide (MemoryHooks.lotaFileMprotect p.lists env vma.page prot = .eperm)
  if prot.exec = false then (a, .allow)
  else match vma.vmFile with
    | none =>
      let event := { baseEvent c (if blocked then .anonExecBlocked else .anonExec) with
        filename := ascii "(anon-mprotect-exec)" }
      finish blocked .anonExecBlocked (report (mode p) blocked c.now event (incStat .anonExec a))
    | some file =>
      let event := { baseEvent c (if blocked then .mmapBlocked else .mmapExec) with
        flags := if isProtectedCurrentTask env = true then eventFlagProtected else 0
        filename := file.name.elim (ascii "(mprotect-path_resolution_disabled)")
          (readKernelStr maxPathLen) }
      finish blocked .mmapBlocked (report (mode p) blocked c.now event (incStat .mmapExecs a))

/-- The verdict of `lota_ptrace_access_check`.
mirrors src/bpf/lota_lsm.bpf.c:1609-1622 -/
def ptraceBlocked (child : TaskRef) : Bool :=
  isLotaAgentTask p (some child) = true ∨
    (mode p ≠ modeMaintenance ∧ isProtectedTask protectedPids (some child.task) = true) ∨
    (mode p = modeEnforce ∧ config p cfgBlockPtrace = true)

/-- mirrors src/bpf/lota_lsm.bpf.c:1589-1660 -/
def lotaPtraceAccessCheck (child : TaskRef) (ret : Verdict) (a : Audit) : Audit × Verdict :=
  if ret ≠ .allow then (a, .eperm)
  else
    let blocked := ptraceBlocked p protectedPids child
    let event := { baseEvent c (if blocked then .ptraceBlocked else .ptrace) with
      target := child.task.pid
      filename := readKernelStr maxCommLen child.comm }
    finish blocked .ptraceBlocked (report (mode p) blocked c.now event (incStat .ptraceAttempts a))

def sighup : Int32 := 1
def siKernel : Int32 := 0x80

/-- The signal passes `lota_task_kill`; `info` is its `si_code`.
mirrors src/bpf/lota_lsm.bpf.c:1704-1750 -/
def killAllowed (target : TaskRef) (info : Option Int32) (sig : Int32) : Bool :=
  let targetIsAgent := isLotaAgentTask p (some target)
  let targetIsProtected := decide (targetIsAgent = false ∧ mode p ≠ modeMaintenance ∧
    isProtectedTask protectedPids (some target.task) = true)
  if targetIsAgent = false ∧ targetIsProtected = false then true
  else if c.tgid = target.task.tgid then true
  else if c.current.isNone = true then true
  else if isLotaAgentTask p c.current = true ∨ isBpfAdminTask p c = true then true
  else if sig = 0 then true
  else if targetIsAgent = true ∧ sig = sighup then true
  else match info with
    | none => true
    | some siCode => siCode = siKernel

/-- mirrors src/bpf/lota_lsm.bpf.c:1691-1773 -/
def lotaTaskKill (target : Option TaskRef) (info : Option Int32) (sig : Int32) (a : Audit) :
    Audit × Verdict :=
  match target with
  | none => (a, .allow)
  | some target =>
    if killAllowed p protectedPids c target info sig = true then (a, .allow)
    else
      let event :=
        { baseEvent c .killBlocked with target := target.task.tgid, filename := ascii "(kill)" }
      (submit event a, .eperm)

/-- mirrors src/bpf/lota_lsm.bpf.c:1816-1856 -/
def lotaTaskFixSetuid (oldUid newUid : UInt32) (ret : Verdict) (a : Audit) : Audit × Verdict :=
  if ret ≠ .allow then (a, .eperm)
  else if oldUid = newUid then (a, .allow)
  else
    let event := { baseEvent c .setuid with uid := oldUid, target := newUid }
    (submit event (incStat .setuidEvents a), .allow)

def fmodeWrite : UInt32 := 2

/-- mirrors src/bpf/lota_lsm.bpf.c:1868-1891; `map` is the name of the map. -/
def lotaBpfMap (map : Option Bytes) (fmode : UInt32) (ret : Verdict) (a : Audit) : Audit × Verdict :=
  if ret ≠ .allow then (a, .eperm)
  else match map with
    | none => (a, .allow)
    | some name =>
      if config p cfgLockBpf = false then (a, .allow)
      else if isBpfAdminTask p c = true then (a, .allow)
      else if fmode &&& fmodeWrite = 0 then (a, .allow)
      else if isLotaManagedMap name = false then (a, .allow)
      else (incStat .bpfSyscallBlocked a, .eperm)

end

/-! ## One request -/

/-- The programs with their arguments; `ret` is the verdict of those before. -/
inductive Call where
  | sbMount (inode : Option Inode) (flags : UInt64) (ret : Verdict)
  | fileOpen (file : Option KFile) (ret : Verdict)
  | bprmCheckSecurity (bprm : Binprm)
  | kernelReadFile (kmem : UInt64 → Option Int32) (file : KFile) (id : LoadId)
  | kernelLoadData (kmem : UInt64 → Option Int32) (id : LoadId)
  | mmapFile (file : Option KFile) (reqprot prot : Prot) (ret : Verdict)
  | fileMprotect (vma : Vma) (prot : Prot)
  | ptraceAccessCheck (child : TaskRef) (ret : Verdict)
  | taskKill (target : Option TaskRef) (info : Option Int32) (sig : Int32)
  | taskFixSetuid (oldUid newUid : UInt32) (ret : Verdict)
  | bpfMap (map : Option Bytes) (fmode : UInt32) (ret : Verdict)

def call (p : Policy) (protectedPids : ProtectedPids) (c : Caller) (a : Audit) : Call → Audit × Verdict
  | .sbMount inode flags ret => lotaSbMount p inode flags ret a
  | .fileOpen file ret => lotaFileOpen p file ret a
  | .bprmCheckSecurity bprm => lotaBprmCheckSecurity p c bprm a
  | .kernelReadFile kmem file id => lotaKernelReadFile p c kmem file id a
  | .kernelLoadData kmem id => lotaKernelLoadData p c kmem id a
  | .mmapFile file reqprot prot ret => lotaMmapFile p protectedPids c file reqprot prot ret a
  | .fileMprotect vma prot => lotaFileMprotect p protectedPids c vma prot a
  | .ptraceAccessCheck child ret => lotaPtraceAccessCheck p protectedPids c child ret a
  | .taskKill target info sig => lotaTaskKill p protectedPids c target info sig a
  | .taskFixSetuid oldUid newUid ret => lotaTaskFixSetuid c oldUid newUid ret a
  | .bpfMap map fmode ret => lotaBpfMap p c map fmode ret a

/-! ## What a record passes through -/

/-- Budget, ring and the two counters of the ring. -/
structure Journal where
  eventBudget : EventBudget
  ring : List ExecEvent
  delivered : List ExecEvent
  sent : UInt64
  drops : UInt64

/-- A record that a program wants to make; `budgeted` if it may be
suppressed. -/
structure Attempt where
  event : ExecEvent
  budgeted : Bool

def Journal.submit (event : ExecEvent) (j : Journal) : Journal :=
  if hasRoom j.ring then { j with ring := j.ring ++ [event], sent := j.sent + 1 }
    else { j with drops := j.drops + 1 }

/-- The budget at `now`, if it lets one more record pass. -/
def EventBudget.take (now : UInt64) (b : EventBudget) : Option EventBudget :=
  if now < b.windowStartNs ∨ windowNs ≤ now - b.windowStartNs then some ⟨now, 1⟩
  else if allowEventBudgetPerSec ≤ b.emitted then none
  else some { b with emitted := b.emitted + 1 }

def Journal.attempt (now : UInt64) (t : Attempt) (j : Journal) : Journal :=
  if t.budgeted = true then
    match j.eventBudget.take now with
    | none => j
    | some b => { j with eventBudget := b }.submit t.event
  else j.submit t.event

/-- At most one attempt. -/
def Journal.attempts (now : UInt64) (t : Option Attempt) (j : Journal) : Journal :=
  t.elim j (j.attempt now)

def Audit.journal (a : Audit) : Journal :=
  { eventBudget := a.eventBudget, ring := a.ring, delivered := a.delivered, sent := a.stats .eventsSent
    drops := a.stats .ringbufDrops }

section
variable {a : Audit} {event : ExecEvent} {stat : Stat} {md : UInt32} {blocked : Bool} {now : UInt64}

theorem journal_incStat (hsent : stat ≠ .eventsSent) (hdrops : stat ≠ .ringbufDrops) :
    (incStat stat a).journal = a.journal := by
  simp only [Audit.journal, incStat, Function.update_of_ne hsent.symm,
    Function.update_of_ne hdrops.symm]

theorem journal_submit : (submit event a).journal = a.journal.submit event := by
  have hring : a.journal.ring = a.ring := rfl
  unfold submit Journal.submit
  rw [hring]
  by_cases h : hasRoom a.ring = true
  · rw [if_pos h, if_pos h]
    simp [Audit.journal, incStat]
  · rw [if_neg h, if_neg h]
    simp [Audit.journal, incStat]

/-- What is allowed under enforcement is subject to the budget. -/
theorem shouldEmitEvent_take :
    shouldEmitEvent modeEnforce false now a =
      match a.eventBudget.take now with
      | none => (incStat .allowEventsSuppressed a, false)
      | some b => ({ a with eventBudget := b }, true) := by
  unfold shouldEmitEvent EventBudget.take
  rw [if_neg Bool.false_ne_true, if_neg (not_not.mpr rfl)]
  by_cases hover : now < a.eventBudget.windowStartNs ∨ windowNs ≤ now - a.eventBudget.windowStartNs
  · rw [if_pos hover, if_pos hover]
  · rw [if_neg hover, if_neg hover]
    by_cases hspent : allowEventBudgetPerSec ≤ a.eventBudget.emitted
    · rw [if_pos hspent, if_pos hspent]
    · rw [if_neg hspent, if_neg hspent]

/-- A refusal and, outside of enforcement, everything is recorded. -/
theorem journal_report :
    (report md blocked now event a).journal =
      a.journal.attempt now ⟨event, decide (blocked = false ∧ md = modeEnforce)⟩ := by
  have hbudget : a.journal.eventBudget = a.eventBudget := rfl
  by_cases hall : blocked = false ∧ md = modeEnforce
  · obtain ⟨rfl, rfl⟩ := hall
    unfold report Journal.attempt
    rw [shouldEmitEvent_take, hbudget]
    cases a.eventBudget.take now with
    | none =>
      have hstat : Stat.allowEventsSuppressed ≠ .eventsSent ∧
          Stat.allowEventsSuppressed ≠ .ringbufDrops := by decide
      simpa using journal_incStat (a := a) hstat.1 hstat.2
    | some b =>
      simp only [decide_true, if_true, and_self]
      exact journal_submit (a := { a with eventBudget := b })
  · have hemit : shouldEmitEvent md blocked now a = (a, true) := by
      unfold shouldEmitEvent
      cases blocked with
      | true => rfl
      | false =>
        rw [if_neg Bool.false_ne_true, if_pos fun hmd => hall ⟨rfl, hmd⟩]
    unfold report Journal.attempt
    simp only [hemit, hall, decide_false, Bool.false_eq_true, if_true, if_false]
    exact journal_submit

theorem journal_finish (hsent : stat ≠ .eventsSent) (hdrops : stat ≠ .ringbufDrops) :
    (finish blocked stat a).1.journal = a.journal := by
  unfold finish
  split
  · exact journal_incStat hsent hdrops
  · rfl

theorem finish_verdict : (finish blocked stat a).2 = if blocked = true then .eperm else .allow := by
  unfold finish
  split <;> rfl

end

/-! ## What one request records -/

/-- A refusal as the trail shows it. -/
structure Denial where
  eventType : EventType
  pid : UInt32
  tgid : UInt32
  timestampNs : UInt64
  deriving DecidableEq

def ExecEvent.denial (e : ExecEvent) : Option Denial :=
  if e.eventType.blocked = true then some ⟨e.eventType, e.pid, e.tgid, e.timestampNs⟩ else none

/-- The type under which a program records its refusals. `lota_sb_mount`,
`lota_file_open` and `lota_bpf_map` refuse without a record, and
`lota_task_fix_setuid` refuses nothing. -/
def Call.refusal : Call → Option EventType
  | .bprmCheckSecurity _ => some .execBlocked
  | .kernelReadFile .. | .kernelLoadData .. => some .moduleBlocked
  | .mmapFile file .. => some (if file.isSome then .mmapBlocked else .anonExecBlocked)
  | .fileMprotect vma _ => some (if vma.vmFile.isSome then .mmapBlocked else .anonExecBlocked)
  | .ptraceAccessCheck .. => some .ptraceBlocked
  | .taskKill .. => some .killBlocked
  | .sbMount .. | .fileOpen .. | .bpfMap .. | .taskFixSetuid .. => none

/-- The verdict of the programs before. -/
def Call.ret : Call → Verdict
  | .sbMount _ _ ret | .fileOpen _ ret | .mmapFile _ _ _ ret | .ptraceAccessCheck _ ret
  | .taskFixSetuid _ _ ret
  | .bpfMap _ _ ret => ret
  | _ => .allow

/-- A request that was not refused before this program and is refused by it. -/
def denial (c : Caller) (k : Call) (v : Verdict) : Option Denial :=
  if k.ret = .allow ∧ v = .eperm then k.refusal.map fun eventType =>
    ⟨eventType, c.pid, c.tgid, c.stamp⟩ else none

/-- A record that does not wait for the budget: a refusal, or a change of the
user id. -/
def urgent (c : Caller) (k : Call) (v : Verdict) : Bool :=
  (denial c k v).isSome || match k with
    | .taskFixSetuid oldUid newUid ret => decide (ret = .allow ∧ oldUid ≠ newUid)
    | _ => false

/-- What a request leaves behind: at most one attempt, which tells of a
refusal exactly when there was one, and which under enforcement is subject to
the budget unless it is urgent. -/
structure Records (p : Policy) (c : Caller) (k : Call) (a : Audit) (r : Audit × Verdict) : Prop where
  attempt : ∃ t : Option Attempt, r.1.journal = a.journal.attempts c.now t ∧
    denial c k r.2 = t.bind (·.event.denial) ∧
    ∀ x, t = some x → x.budgeted = decide (mode p = modeEnforce ∧ urgent c k r.2 = false)

section
variable {p : Policy} {protectedPids : ProtectedPids} {c : Caller} {k : Call}
  {a a₀ : Audit} {v : Verdict}

/-- Nothing is recorded. -/
theorem Records.quiet {r : Audit × Verdict} (hj : r.1.journal = a.journal)
    (hd : denial c k r.2 = none) : Records p c k a r :=
  ⟨none, hj, hd, fun _ hx => nomatch hx⟩

/-- Only a change of the user id is urgent and not a refusal. -/
theorem urgent_of_refusal {refused : EventType} (h : k.refusal = some refused) :
    urgent c k v = (denial c k v).isSome := by
  unfold urgent
  cases k with
  | taskFixSetuid oldUid newUid ret => cases h
  | _ => rw [Bool.or_false]

/-- The common end of the programs that decide and record. -/
theorem Records.decided {blocked : Bool} (refused passed : EventType) {event : ExecEvent} {stat : Stat}
    (hj : a₀.journal = a.journal) (hret : k.ret = .allow) (hrefusal : k.refusal = some refused)
    (hrefused : refused.blocked = true) (hpassed : passed.blocked = false)
    (htype : event.eventType = if blocked then refused else passed)
    (hpid : event.pid = c.pid) (htgid : event.tgid = c.tgid) (hstamp : event.timestampNs = c.stamp)
    (hsent : stat ≠ .eventsSent) (hdrops : stat ≠ .ringbufDrops) :
    Records p c k a (finish blocked stat (report (mode p) blocked c.now event a₀)) := by
  refine ⟨some ⟨event, decide (blocked = false ∧ mode p = modeEnforce)⟩, ?_, ?_, ?_⟩
  · rw [journal_finish hsent hdrops, journal_report, hj]
    rfl
  · rw [finish_verdict, denial, hret, hrefusal, Option.bind_some, ExecEvent.denial, htype, hpid,
      htgid, hstamp]
    cases blocked with
    | false => simp [hpassed]
    | true => simp [hrefused]
  · intro x hx
    cases hx
    rw [finish_verdict, urgent_of_refusal hrefusal, denial, hret, hrefusal]
    cases blocked with
    | false => simp
    | true => simp

/-! The programs one by one. -/

theorem records_bprm (bprm : Binprm) :
    Records p c (.bprmCheckSecurity bprm) a (lotaBprmCheckSecurity p c bprm a) := by
  have hstat : Stat.totalExecs ≠ .eventsSent ∧ Stat.totalExecs ≠ .ringbufDrops := by decide
  refine Records.decided .execBlocked .exec (journal_incStat hstat.1 hstat.2) rfl rfl rfl rfl ?_
    rfl rfl rfl (by decide) (by decide)
  rfl

theorem records_readFile (kmem : UInt64 → Option Int32) (file : KFile) (id : LoadId) :
    Records p c (.kernelReadFile kmem file id) a (lotaKernelReadFile p c kmem file id a) := by
  unfold lotaKernelReadFile
  split
  · exact .quiet rfl rfl
  · split
    · exact .quiet rfl rfl
    · refine Records.decided .moduleBlocked .moduleLoad rfl rfl rfl rfl rfl ?_ rfl rfl rfl
        (by decide) (by decide)
      rfl

theorem records_loadData (kmem : UInt64 → Option Int32) (id : LoadId) :
    Records p c (.kernelLoadData kmem id) a (lotaKernelLoadData p c kmem id a) := by
  unfold lotaKernelLoadData
  split
  · exact .quiet rfl rfl
  · refine Records.decided .moduleBlocked .moduleLoad rfl rfl rfl rfl rfl ?_ rfl rfl rfl
      (by decide) (by decide)
    rfl

/-- A verdict of the programs before is passed on without a record. -/
theorem denial_of_ret (h : k.ret ≠ .allow) : denial c k v = none := if_neg fun hk => h hk.1

theorem records_mmap (file : Option KFile) (reqprot prot : Prot) (ret : Verdict) :
    Records p c (.mmapFile file reqprot prot ret) a
    (lotaMmapFile p protectedPids c file reqprot prot ret a) := by
  have hanon : Stat.anonExec ≠ .eventsSent ∧ Stat.anonExec ≠ .ringbufDrops := by decide
  have hexec : Stat.mmapExecs ≠ .eventsSent ∧ Stat.mmapExecs ≠ .ringbufDrops := by decide
  unfold lotaMmapFile
  simp only
  split
  · rename_i hret
    exact .quiet rfl (denial_of_ret hret)
  · rename_i hret
    have hret := not_not.mp hret
    split
    · exact .quiet rfl (if_neg fun h => nomatch h.2)
    · cases file with
      | none =>
        refine Records.decided .anonExecBlocked .anonExec (journal_incStat hanon.1 hanon.2) hret
          rfl rfl rfl ?_ rfl rfl rfl (by decide) (by decide)
        rfl
      | some file =>
        refine Records.decided .mmapBlocked .mmapExec (journal_incStat hexec.1 hexec.2) hret
          rfl rfl rfl ?_ rfl rfl rfl (by decide) (by decide)
        rfl

theorem records_mprotect (vma : Vma) (prot : Prot) :
    Records p c (.fileMprotect vma prot) a (lotaFileMprotect p protectedPids c vma prot a) := by
  have hanon : Stat.anonExec ≠ .eventsSent ∧ Stat.anonExec ≠ .ringbufDrops := by decide
  have hexec : Stat.mmapExecs ≠ .eventsSent ∧ Stat.mmapExecs ≠ .ringbufDrops := by decide
  obtain ⟨vmFile, vmFlags⟩ := vma
  unfold lotaFileMprotect
  simp only
  split
  · exact .quiet rfl (if_neg fun h => nomatch h.2)
  · cases vmFile with
    | none =>
      refine Records.decided .anonExecBlocked .anonExec (journal_incStat hanon.1 hanon.2) rfl
        rfl rfl rfl ?_ rfl rfl rfl (by decide) (by decide)
      rfl
    | some file =>
      refine Records.decided .mmapBlocked .mmapExec (journal_incStat hexec.1 hexec.2) rfl
        rfl rfl rfl ?_ rfl rfl rfl (by decide) (by decide)
      rfl

theorem records_ptrace (child : TaskRef) (ret : Verdict) :
    Records p c (.ptraceAccessCheck child ret) a
    (lotaPtraceAccessCheck p protectedPids c child ret a) := by
  have hstat : Stat.ptraceAttempts ≠ .eventsSent ∧ Stat.ptraceAttempts ≠ .ringbufDrops := by decide
  unfold lotaPtraceAccessCheck
  split
  · rename_i hret
    exact .quiet rfl (denial_of_ret hret)
  · rename_i hret
    refine Records.decided .ptraceBlocked .ptrace (journal_incStat hstat.1 hstat.2)
      (not_not.mp hret) rfl rfl rfl ?_ rfl rfl rfl (by decide) (by decide)
    rfl

/-- A blocked signal is recorded whatever the budget. -/
theorem records_kill (target : Option TaskRef) (info : Option Int32) (sig : Int32) :
    Records p c (.taskKill target info sig) a (lotaTaskKill p protectedPids c target info sig a) := by
  unfold lotaTaskKill
  cases target with
  | none => exact .quiet rfl rfl
  | some target =>
    simp only
    split
    · exact .quiet rfl rfl
    · refine ⟨some ⟨{ baseEvent c .killBlocked with target := target.task.tgid,
                                                    filename := ascii "(kill)" }, false⟩,
        journal_submit, rfl, ?_⟩
      intro x hx
      cases hx
      exact (decide_eq_false fun h => nomatch h.2).symm

/-- So is a change of the user id, though it is not a refusal. -/
theorem records_setuid (oldUid newUid : UInt32) (ret : Verdict) :
    Records p c (.taskFixSetuid oldUid newUid ret) a (lotaTaskFixSetuid c oldUid newUid ret a) := by
  have hstat : Stat.setuidEvents ≠ .eventsSent ∧ Stat.setuidEvents ≠ .ringbufDrops := by decide
  unfold lotaTaskFixSetuid
  split
  · rename_i hret
    exact .quiet rfl (denial_of_ret hret)
  · rename_i hret
    have hret := not_not.mp hret
    split
    · exact .quiet rfl (if_neg fun h => nomatch h.2)
    · rename_i hne
      refine ⟨some ⟨{ baseEvent c .setuid with uid := oldUid, target := newUid }, false⟩, ?_, ?_, ?_⟩
      · rw [journal_submit, journal_incStat hstat.1 hstat.2]
        rfl
      · exact if_neg fun h => nomatch h.2
      · intro x hx
        cases hx
        simp [urgent, hret, hne]

/-- **Step.** Every program, on every request. -/
theorem call_records (k : Call) : Records p c k a (call p protectedPids c a k) := by
  cases k with
  | sbMount inode flags ret =>
    refine .quiet ?_ (ite_self _)
    show (lotaSbMount p inode flags ret a).1.journal = a.journal
    unfold lotaSbMount
    repeat' split
    all_goals rfl
  | fileOpen file ret =>
    refine .quiet ?_ (ite_self _)
    show (lotaFileOpen p file ret a).1.journal = a.journal
    unfold lotaFileOpen
    repeat' split
    all_goals rfl
  | bprmCheckSecurity bprm => exact records_bprm bprm
  | kernelReadFile kmem file id => exact records_readFile kmem file id
  | kernelLoadData kmem id => exact records_loadData kmem id
  | mmapFile file reqprot prot ret => exact records_mmap file reqprot prot ret
  | fileMprotect vma prot => exact records_mprotect vma prot
  | ptraceAccessCheck child ret => exact records_ptrace child ret
  | taskKill target info sig => exact records_kill target info sig
  | taskFixSetuid oldUid newUid ret => exact records_setuid oldUid newUid ret
  | bpfMap map fmode ret =>
    refine .quiet ?_ (ite_self _)
    show (lotaBpfMap p c map fmode ret a).1.journal = a.journal
    unfold lotaBpfMap
    repeat' split
    all_goals rfl

end

end Lota.L6.Lsm

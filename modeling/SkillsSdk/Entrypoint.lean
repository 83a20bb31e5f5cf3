/-
SkillsSdk/Entrypoint.lean

The repair of an existing entry point of a host: write the new bytes beside the
target, keep a copy of the old ones, exchange the two names, and look again at
everything before the old bytes are put away.

The repair is a program over file operations.  Every operation may fail, and
between two of them somebody else may put another file under the target name, as
often as they like.  `alone` is the same machine without anybody else.

Not modelled: what `_source` and `_verify_parents` read (they may return or raise
anything), and the times of a file, which may be any.
-/
import SkillsSdk.Lib.Interference
import SkillsSdk.Models.Maintenance

namespace SkillsSdk

open Interference Interference.Prog

/-! ### Files -/

/-- The bytes and the `st_mode` of an inode. -/
structure InodeContent where
  data : List UInt8
  mode : Nat
  deriving DecidableEq

/-- What `os.stat` gives. -/
structure FileStat where
  device : Nat
  inode : Nat
  mode : Nat
  size : Nat
  mtime : Nat
  ctime : Nat

/-- `stat.S_ISREG`. -/
def isRegularMode (mode : Nat) : Bool := mode &&& 0o170000 == 0o100000

/-- `stat.S_IMODE`. -/
def permissionBits (mode : Nat) : Nat := mode &&& 0o7777

/-- A captured mode, without the bits that a replacement does not inherit. -/
def sanitizedMode (mode : Nat) : Nat := permissionBits mode &&& 0o777

/-- `CapturedFile`. -/
structure CapturedFile where
  data : List UInt8
  digest : Sha256
  device : Nat
  inode : Nat
  mode : Nat
  deriving DecidableEq

def CapturedFile.content (c : CapturedFile) : InodeContent := ⟨c.data, c.mode⟩

inductive EntrypointDirectory where
  | target
  | backup
  deriving DecidableEq

def EntrypointName.directory : EntrypointName → EntrypointDirectory
  | .target | .stage => .target
  | .backup | .recovery => .backup

/-- An `OSError`, the one of a missing file, a `ValueError`, or anything else. -/
inductive EntrypointRaised where
  | osError
  | fileNotFoundError
  | valueError
  | other
  deriving DecidableEq

namespace EntrypointRaised

/-- `except OSError`. -/
def isOsError : EntrypointRaised → Bool
  | osError | fileNotFoundError => true
  | _ => false

/-- `except (OSError, ValueError)`. -/
def isListed : EntrypointRaised → Bool
  | other => false
  | _ => true

end EntrypointRaised

/-! ### Operations -/

/-- The operations of a repair; a descriptor is the inode that it keeps open. -/
inductive FileOp where
  | directoryDevice (d : EntrypointDirectory)
  | openRead (name : EntrypointName)
  | fstat (fd : Nat)
  | read (fd limit : Nat)
  | close (fd : Nat)
  | create (name : EntrypointName) (mode : Nat)
  | write (fd : Nat) (data : List UInt8)
  | fchmod (fd mode : Nat)
  | fsync (fd : Nat)
  | fsyncDirectory (d : EntrypointDirectory)
  | lstat (name : EntrypointName)
  | unlink (name : EntrypointName)
  /-- The two names of the target directory change places. -/
  | exchange
  /-- The file under the stage name gets the recovery name as well. -/
  | link
  /-- `_source`. -/
  | source
  /-- `_verify_parents`. -/
  | verifyParents

/-- What an operation returns. -/
abbrev FileOp.Result : FileOp → Type
  | directoryDevice _ | openRead _ | create _ _ => Nat
  | fstat _ | lstat _ => FileStat
  | read _ _ => List UInt8
  | source => CapturedFile
  | _ => Unit

abbrev FileProg := Prog FileOp FileOp.Result EntrypointRaised

namespace Os

def directoryDevice (d : EntrypointDirectory) : FileProg Nat := perform (FileOp.directoryDevice d)

def openRead (name : EntrypointName) : FileProg Nat := perform (FileOp.openRead name)

def fstat (fd : Nat) : FileProg FileStat := perform (FileOp.fstat fd)

def read (fd limit : Nat) : FileProg (List UInt8) := perform (FileOp.read fd limit)

def close (fd : Nat) : FileProg Unit := perform (FileOp.close fd)

def create (name : EntrypointName) (mode : Nat) : FileProg Nat := perform (FileOp.create name mode)

def write (fd : Nat) (data : List UInt8) : FileProg Unit := perform (FileOp.write fd data)

def fchmod (fd mode : Nat) : FileProg Unit := perform (FileOp.fchmod fd mode)

def fsync (fd : Nat) : FileProg Unit := perform (FileOp.fsync fd)

def fsyncDirectory (d : EntrypointDirectory) : FileProg Unit := perform (FileOp.fsyncDirectory d)

def lstat (name : EntrypointName) : FileProg FileStat := perform (FileOp.lstat name)

def unlink (name : EntrypointName) : FileProg Unit := perform (FileOp.unlink name)

def exchange : FileProg Unit := perform FileOp.exchange

def link : FileProg Unit := perform FileOp.link

end Os

/-- `_source`. -/
def selectedSource : FileProg CapturedFile := perform FileOp.source

/-- `_verify_parents`. -/
def verifyParents : FileProg Unit := perform FileOp.verifyParents

variable (sha256 : List UInt8 → Sha256)

/-! ### Capturing and removing -/

/-- `8 * 1024 * 1024`. -/
def entrypointLimit : Nat := 8 * 1024 * 1024

/-- What `_capture` does with an open descriptor. -/
def captureOpen (fd : Nat) : FileProg CapturedFile := do
  let before ← Os.fstat fd
  if isRegularMode before.mode = false ∨ entrypointLimit < before.size then throw .valueError
  else do
    let data ← Os.read fd (entrypointLimit + 1)
    let after ← Os.fstat fd
    if (before.size, before.mtime, before.ctime) ≠ (after.size, after.mtime, after.ctime) ∨
        data.length ≠ before.size then
      throw .valueError
    else
      return ⟨data, sha256 data, before.device, before.inode, before.mode⟩

/-- `_capture`. -/
def capture (name : EntrypointName) : FileProg CapturedFile := do
  let fd ← Os.openRead name
  (captureOpen sha256 fd).lastly fun _ => Os.close fd

/-- `os.stat`, and nothing for a missing file. -/
def lstat? (name : EntrypointName) : FileProg (Option FileStat) :=
  (Os.lstat name).andThen fun
    | .ok observed => ret (some observed)
    | .error e => if e = .fileNotFoundError then ret none else throw e

/-- `_remove_owned`. -/
def removeOwned (name : EntrypointName) (fd : Nat) : FileProg Unit := do
  match ← lstat? name with
  | none => return ()
  | some observed =>
    let owned ← Os.fstat fd
    if (observed.device, observed.inode) ≠ (owned.device, owned.inode) then throw .valueError
    else Os.unlink name

/-- `_remove_captured`. -/
def removeCaptured (name : EntrypointName) (captured : CapturedFile) : FileProg Unit := do
  let observed ← Os.lstat name
  if (observed.device, observed.inode) ≠ (captured.device, captured.inode) then throw .valueError
  else Os.unlink name

/-! ### Writing -/

/-- The bytes and the mode of a created file. -/
def writeOpened (fd : Nat) (data : List UInt8) (mode : Nat) : FileProg Nat := do
  Os.write fd data
  Os.fchmod fd mode
  Os.fsync fd
  return fd

/-- The handler of a write that fails: the file is removed again. -/
def discardOpened (name : EntrypointName) (fd : Nat) (e : EntrypointRaised) : FileProg Nat :=
  if e.isListed then do
    (removeOwned name fd).lastly fun _ => Os.close fd
    throw e
  else throw e

/-- `_write_stage`. -/
def writeStage (name : EntrypointName) (source current : CapturedFile) : FileProg Nat := do
  let mode := sanitizedMode current.mode
  let fd ← Os.create name mode
  (writeOpened fd source.data mode).handle (discardOpened name fd)

/-- `_write_snapshot`. -/
def writeSnapshot (captured : CapturedFile) : FileProg Unit := do
  let fd ← writeStage .backup captured captured
  Os.close fd
  Os.fsyncDirectory .backup

/-- `_same_snapshot`. -/
def sameSnapshot (left right : CapturedFile) : Bool :=
  left.data == right.data && left.digest == right.digest &&
    permissionBits left.mode == sanitizedMode right.mode

/-- `_same_published`. -/
def samePublished (published source current : CapturedFile) : Bool :=
  published.data == source.data && published.digest == source.digest &&
    permissionBits published.mode == sanitizedMode current.mode

/-! ### Blockers -/

namespace EntrypointBlocker

def backupSyncFailed : EntrypointMaintenanceBlocker :=
  ⟨literal "backup_sync_failed" (check_ofList (by decide +kernel)),
    literal "snapshot was retained but directory durability could not be confirmed"
      (check_ofList (by decide +kernel))⟩

def prepublicationVerificationFailed : EntrypointMaintenanceBlocker :=
  ⟨literal "prepublication_verification_failed" (check_ofList (by decide +kernel)),
    literal "source, runtime, or parent changed before publication; snapshot retained"
      (check_ofList (by decide +kernel))⟩

def publicationUnavailable : EntrypointMaintenanceBlocker :=
  ⟨literal "publication_unavailable" (check_ofList (by decide +kernel)),
    literal "atomic publication was unavailable; snapshot retained" (check_ofList (by decide +kernel))⟩

def competingBytes : EntrypointMaintenanceBlocker :=
  ⟨literal "concurrent_runtime_replacement" (check_ofList (by decide +kernel)),
    literal "runtime changed at publication; competing bytes retained" (check_ofList (by decide +kernel))⟩

def durabilityUnknown : EntrypointMaintenanceBlocker :=
  ⟨literal "publication_verification_failed" (check_ofList (by decide +kernel)),
    literal "publication occurred but durable verification did not complete"
      (check_ofList (by decide +kernel))⟩

def recoveryReplaced : EntrypointMaintenanceBlocker :=
  ⟨literal "concurrent_runtime_replacement" (check_ofList (by decide +kernel)),
    literal "runtime changed during recovery preservation" (check_ofList (by decide +kernel))⟩

def recoveryFailed : EntrypointMaintenanceBlocker :=
  ⟨literal "publication_verification_failed" (check_ofList (by decide +kernel)),
    literal "publication occurred but displaced bytes could not be preserved externally"
      (check_ofList (by decide +kernel))⟩

end EntrypointBlocker

open EntrypointBlocker

/-! ### Publishing -/

/-- `EntrypointRequest`, as far as publishing reads it. -/
structure EntrypointRequest where
  expectedCurrent : Sha256
  supportingDocument : Bool

/-- The outcome of a step, and whether the stage name stays. -/
abbrev PublishProg := FileProg (EntrypointMaintenanceResult × Bool)

/-- The displaced bytes get a name in the directory of the backups and lose the
one in the directory of the target. -/
def moveDisplaced (displaced : CapturedFile) : FileProg Bool := do
  let recovery ← capture sha256 .recovery
  if displaced ≠ recovery then return false
  else do
    removeCaptured .stage displaced
    return true

/-- The report after the link. -/
def reportMoved : Except EntrypointRaised Bool → PublishProg
  | .ok true => ret (.repaired .backup .recovery, true)
  | .ok false => ret (.indeterminate recoveryReplaced .backup .stage, true)
  | .error e => if e.isListed then ret (.indeterminate recoveryFailed .backup .recovery, true) else throw e

def preserveDisplaced (displaced : CapturedFile) : PublishProg :=
  Os.link.andThen fun
    | .ok _ => (moveDisplaced sha256 displaced).andThen reportMoved
    | .error e => if e.isListed then ret (.indeterminate recoveryFailed .backup .stage, true) else throw e

/-- What is looked at after the exchange; nothing when other bytes were displaced. -/
def inspectPublished (source current : CapturedFile) : FileProg (Option CapturedFile) := do
  Os.fsyncDirectory .target
  verifyParents
  let displaced ← capture sha256 .stage
  if displaced ≠ current then return none
  else do
    let published ← capture sha256 .target
    if samePublished published source current = false then throw .valueError
    else do
      let saved ← capture sha256 .backup
      if sameSnapshot saved current = false then throw .valueError
      else return some displaced

def verifyPublished (source current : CapturedFile) : PublishProg :=
  (inspectPublished sha256 source current).andThen fun
    | .ok (some displaced) => preserveDisplaced sha256 displaced
    | .ok none => ret (.indeterminate competingBytes .backup .stage, true)
    | .error e =>
      if e.isListed then ret (.indeterminate durabilityUnknown .backup .stage, true) else throw e

def exchangeStage (source current : CapturedFile) : PublishProg :=
  Os.exchange.andThen fun
    | .ok _ => verifyPublished sha256 source current
    | .error e => if e.isOsError then ret (.blocked publicationUnavailable .backup, false) else throw e

/-- Nothing has changed since the repair began. -/
def inspectUnpublished (saved source current : CapturedFile) : FileProg Unit := do
  let latest ← capture sha256 .target
  if sameSnapshot saved current = false ∨ latest ≠ current then throw .valueError
  else do
    let again ← selectedSource
    if again ≠ source then throw .valueError
    else verifyParents

def verifyUnpublished (source current : CapturedFile) : PublishProg := do
  let saved ← capture sha256 .backup
  (inspectUnpublished sha256 saved source current).andThen fun
    | .ok _ => exchangeStage sha256 source current
    | .error e =>
      if e.isListed then ret (.blocked prepublicationVerificationFailed .backup, false) else throw e

/-- The snapshot could not be made durable: it may have been retained. -/
def snapshotFailed (current : CapturedFile) (e : EntrypointRaised) : PublishProg :=
  (capture sha256 .backup).andThen fun
    | .ok saved =>
      if sameSnapshot saved current then ret (.blocked backupSyncFailed .backup, false) else throw e
    | .error again => if again.isListed then throw e else throw again

def publishStaged (source current : CapturedFile) : PublishProg :=
  (writeSnapshot current).andThen fun
    | .ok _ => verifyUnpublished sha256 source current
    | .error e => if e.isOsError then snapshotFailed sha256 current e else throw e

/-- The outcome keeps the stage name. -/
def retainsStage : Except EntrypointRaised (EntrypointMaintenanceResult × Bool) → Bool
  | .ok (_, retain) => retain
  | .error _ => false

/-- `with suppress(ValueError): _remove_owned(…)`. -/
def removeStage (fd : Nat) : FileProg Unit :=
  (removeOwned .stage fd).handle fun e => if e = .valueError then ret () else throw e

/-- The finalizer: remove the stage file, unless it is retained, and close it. -/
def finishStage (fd : Nat) (out : Except EntrypointRaised (EntrypointMaintenanceResult × Bool)) :
    FileProg Unit :=
  if retainsStage out then Os.close fd
  else do
    removeStage fd
    Os.close fd

/-- The repair of a target whose current bytes have been captured. -/
def publishCaptured (source current : CapturedFile) : FileProg EntrypointMaintenanceResult := do
  let fd ← writeStage .stage source current
  let finished ← (publishStaged sha256 source current).lastly (finishStage fd)
  return finished.1

/-- `_publish`. -/
def publish (request : EntrypointRequest) (source : CapturedFile) : FileProg EntrypointMaintenanceResult := do
  let targetDevice ← Os.directoryDevice .target
  let backupDevice ← Os.directoryDevice .backup
  if targetDevice ≠ backupDevice then throw .valueError
  else do
    let current ← capture sha256 .target
    if request.supportingDocument ∧ current.mode &&& 0o111 ≠ 0 then throw .valueError
    else if current.digest = source.digest then do
      verifyParents
      return .matching
    else if current.digest ≠ request.expectedCurrent then throw .valueError
    else publishCaptured sha256 source current

/-! ### What the operations do -/

/-- Names and inodes, and the contents that an exchange took from the target name. -/
structure FileTree where
  names : EntrypointName → Option Nat
  inodes : Nat → InodeContent
  displaced : List InodeContent

/-- A tree, and the open descriptors. -/
structure FileState where
  tree : FileTree
  opened : List Nat

namespace FileTree

variable (t : FileTree)

/-- The name has, or has no longer, an inode. -/
def rename (name : EntrypointName) (inode : Option Nat) : FileTree :=
  { t with names := Function.update t.names name inode }

def put (inode : Nat) (content : InodeContent) : FileTree :=
  { t with inodes := Function.update t.inodes inode content }

/-- The file under the target name and the one under the stage name change places. -/
def exchanged (atTarget atStage : Nat) : FileTree :=
  { (t.rename .target (some atStage)).rename .stage (some atTarget) with
    displaced := t.displaced ++ [t.inodes atTarget] }

/-- The name holds the content. -/
def Holds (name : EntrypointName) (content : InodeContent) : Prop :=
  ∃ i, t.names name = some i ∧ t.inodes i = content

end FileTree

/-- An inode that has a name or is open is not given out again. -/
def FileState.InUse (s : FileState) (i : Nat) : Prop :=
  i ∈ s.opened ∨ ∃ name, s.tree.names name = some i

/-- The status of an inode, at some times. -/
def FileTree.statOf (t : FileTree) (device i mtime ctime : Nat) : FileStat :=
  ⟨device, i, (t.inodes i).mode, (t.inodes i).data.length, mtime, ctime⟩

/-- The operation fails and changes nothing. -/
def Fails {α : Type} (s : FileState) (r : Except EntrypointRaised α) (s' : FileState) : Prop :=
  r = .error .osError ∧ s' = s

variable (device : EntrypointDirectory → Nat)

/-- What an operation may return, and the state after it.  Everything that is
opened is on the device of the two directories. -/
def fileStep : (op : FileOp) → FileState → Except EntrypointRaised op.Result → FileState → Prop
  | .directoryDevice d, s, r, s' => (r = .ok (device d) ∧ s' = s) ∨ Fails s r s'
  | .openRead name, s, r, s' =>
    (∃ i, s.tree.names name = some i ∧ r = .ok i ∧ s' = { s with opened := i :: s.opened }) ∨ Fails s r s'
  | .fstat fd, s, r, s' =>
    (∃ mtime ctime, r = .ok (s.tree.statOf (device .target) fd mtime ctime) ∧ s' = s) ∨ Fails s r s'
  | .read fd limit, s, r, s' => (r = .ok ((s.tree.inodes fd).data.take limit) ∧ s' = s) ∨ Fails s r s'
  | .close fd, s, r, s' =>
    (r = .ok () ∨ r = .error .osError) ∧ (s' = { s with opened := s.opened.erase fd } ∨ s' = s)
  | .create name mode, s, r, s' =>
    -- the process may mask some of the bits
    (∃ i masked, s.tree.names name = none ∧ ¬ s.InUse i ∧ r = .ok i ∧
      s' = ⟨(s.tree.rename name (some i)).put i ⟨[], 0o100000 ||| (mode &&& masked)⟩, i :: s.opened⟩) ∨
      Fails s r s'
  | .write fd data, s, r, s' =>
    (r = .ok () ∧ s' = { s with tree := s.tree.put fd ⟨data, (s.tree.inodes fd).mode⟩ }) ∨
      (r = .error .osError ∧ ∃ some, s' = { s with tree := s.tree.put fd ⟨some, (s.tree.inodes fd).mode⟩ })
  | .fchmod fd mode, s, r, s' =>
    (r = .ok () ∧
      s' = { s with tree := s.tree.put fd ⟨(s.tree.inodes fd).data, 0o100000 ||| mode⟩ }) ∨ Fails s r s'
  | .fsync _, s, r, s' => (r = .ok () ∧ s' = s) ∨ Fails s r s'
  | .fsyncDirectory _, s, r, s' => (r = .ok () ∧ s' = s) ∨ Fails s r s'
  | .lstat name, s, r, s' =>
    (∃ i mtime ctime, s.tree.names name = some i ∧
      r = .ok (s.tree.statOf (device name.directory) i mtime ctime) ∧ s' = s) ∨
      (s.tree.names name = none ∧ r = .error .fileNotFoundError ∧ s' = s) ∨ Fails s r s'
  | .unlink name, s, r, s' =>
    (s.tree.names name ≠ none ∧ r = .ok () ∧ s' = { s with tree := s.tree.rename name none }) ∨ Fails s r s'
  | .exchange, s, r, s' =>
    (∃ atTarget atStage, s.tree.names .target = some atTarget ∧ s.tree.names .stage = some atStage ∧
      r = .ok () ∧ s' = { s with tree := s.tree.exchanged atTarget atStage }) ∨ Fails s r s'
  | .link, s, r, s' =>
    (∃ i, s.tree.names .stage = some i ∧ s.tree.names .recovery = none ∧
      r = .ok () ∧ s' = { s with tree := s.tree.rename .recovery (some i) }) ∨ Fails s r s'
  | .source, s, _, s' => s' = s
  | .verifyParents, s, _, s' => s' = s

/-- An inode that is not in use. -/
def FileState.fresh (s : FileState) : Nat :=
  ([EntrypointName.target, .stage, .backup, .recovery].filterMap s.tree.names ++ s.opened).foldr
    (fun i bound => i + bound) 1

/-- The operations when none fails without a reason. -/
def FileOp.run (source : CapturedFile) : (op : FileOp) → FileState → Except EntrypointRaised op.Result × FileState
  | .directoryDevice d, s => (.ok (device d), s)
  | .openRead name, s =>
    match s.tree.names name with
    | some i => (.ok i, { s with opened := i :: s.opened })
    | none => (.error .osError, s)
  | .fstat fd, s => (.ok (s.tree.statOf (device .target) fd 0 0), s)
  | .read fd limit, s => (.ok ((s.tree.inodes fd).data.take limit), s)
  | .close fd, s => (.ok (), { s with opened := s.opened.erase fd })
  | .create name mode, s =>
    match s.tree.names name with
    | some _ => (.error .osError, s)
    | none => (.ok s.fresh, ⟨(s.tree.rename name (some s.fresh)).put s.fresh ⟨[], 0o100000 ||| (mode &&& mode)⟩,
        s.fresh :: s.opened⟩)
  | .write fd data, s => (.ok (), { s with tree := s.tree.put fd ⟨data, (s.tree.inodes fd).mode⟩ })
  | .fchmod fd mode, s => (.ok (), { s with tree := s.tree.put fd ⟨(s.tree.inodes fd).data, 0o100000 ||| mode⟩ })
  | .fsync _, s => (.ok (), s)
  | .fsyncDirectory _, s => (.ok (), s)
  | .lstat name, s =>
    match s.tree.names name with
    | some i => (.ok (s.tree.statOf (device name.directory) i 0 0), s)
    | none => (.error .fileNotFoundError, s)
  | .unlink name, s =>
    match s.tree.names name with
    | some _ => (.ok (), { s with tree := s.tree.rename name none })
    | none => (.error .osError, s)
  | .exchange, s =>
    match s.tree.names .target, s.tree.names .stage with
    | some atTarget, some atStage => (.ok (), { s with tree := s.tree.exchanged atTarget atStage })
    | _, _ => (.error .osError, s)
  | .link, s =>
    match s.tree.names .stage, s.tree.names .recovery with
    | some i, none => (.ok (), { s with tree := s.tree.rename .recovery (some i) })
    | _, _ => (.error .osError, s)
  | .source, s => (.ok source, s)
  | .verifyParents, s => (.ok (), s)

/-- Somebody else puts a new file under the target name. -/
def Replaces (s s' : FileState) : Prop :=
  ∃ i content, ¬ s.InUse i ∧ s' = { s with tree := (s.tree.rename .target (some i)).put i content }

/-- The file system with a foreign writer of the target name. -/
def shared : Machine FileOp FileOp.Result EntrypointRaised FileState := ⟨fileStep device, Replaces⟩

/-- The file system without one. -/
def alone : Machine FileOp FileOp.Result EntrypointRaised FileState := ⟨fileStep device, fun _ _ => False⟩

end SkillsSdk

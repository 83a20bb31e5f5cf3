/-
SkillsSdk/ArchiveVerification.lean

Read-only verification of a package archive.

`zipfile` is a parameter: what it makes of the bytes is a list of entries, each
with its header and with the bytes it reads back, or the fault it raises.  So
is the reading of a manifest from JSON (`decode`): the decoder, the schema and
the model between them either accept the bytes or do not.

The verifier is a chain of checks, and every check stops at the first thing
that is wrong.  `Verified` is what an archive has to be; `verifySnapshot_spec`
says that the verifier passes exactly those, and that otherwise it returns a
blocker and no proof.
-/
import SkillsSdk.Lib.KeyedList
import SkillsSdk.ZipDirectory

namespace SkillsSdk

open Bytes

/-! ### What zipfile returns -/

/-- The exception classes that reading a ZIP raises. -/
inductive ZipFault where
  | badZipFile
  | runtimeError
  | osError
  | eofError
  | unicodeDecodeError
  | zlibError
  deriving DecidableEq

structure ZipInfo where
  filename : Text
  origFilename : Text
  flagBits : Nat
  compressType : Nat
  externalAttr : Nat
  headerOffset : Int
  fileSize : Nat
  deriving DecidableEq

/-- An entry of the archive: its header, and what `archive.open(info)` reads to the end. -/
structure ZipEntry where
  info : ZipInfo
  content : Except ZipFault (List UInt8)

/-- `info.is_dir()`. -/
def ZipInfo.isDir (info : ZipInfo) : Bool := info.filename.getLast? == some '/'

/-- Why bytes are not a manifest: one of the errors that `_read_manifest`
answers, or a nesting too deep for the decoder, which is a `RuntimeError`. -/
inductive DecodeFault where
  | invalid
  | recursionError
  deriving DecidableEq

/-- The code outside the package that verification runs. -/
structure ArchiveReader where
  parse : List UInt8 → Except ZipFault (List ZipEntry)
  decode : List UInt8 → Except DecodeFault PackageManifest

/-! ### Blockers -/

/-- Why verification stops. -/
inductive Stop where
  | blocked (b : PackageReceiptBlocker)
  | fault (f : ZipFault)
  | keyError
  deriving DecidableEq

def archiveBlocker (code : BlockerCode) (message : NonEmptyText) (evidence : List PortablePath) :
    PackageReceiptBlocker := ⟨code, message, evidence⟩

def archiveInvalidZip : BlockerCode := literal "archive_invalid_zip" (by decide +kernel)
def archiveUnreadable : BlockerCode := literal "archive_unreadable" (by decide +kernel)
def archiveNotRegularFile : BlockerCode := literal "archive_not_regular_file" (by decide +kernel)
def archivePayloadSizeMismatch : BlockerCode :=
  literal "archive_payload_size_mismatch" (by decide +kernel)

def archiveMissing : PackageReceiptBlocker :=
  archiveBlocker (literal "archive_missing" (by decide +kernel))
    (literal "package archive does not exist" (by decide +kernel)) []

def notRegularFile : PackageReceiptBlocker :=
  archiveBlocker archiveNotRegularFile
    (literal "package archive is not a regular file" (by decide +kernel)) []

def cannotBeRead : PackageReceiptBlocker :=
  archiveBlocker archiveUnreadable (literal "package archive cannot be read" (by decide +kernel)) []

def exceedsBounds : PackageReceiptBlocker :=
  archiveBlocker archiveInvalidZip
    (literal "archive exceeds configured verification bounds" (by decide +kernel)) []

def directoryOutOfBounds : PackageReceiptBlocker :=
  archiveBlocker archiveInvalidZip
    (literal "archive central directory violates verification bounds" (by decide +kernel)) []

def archiveDigestMismatch : PackageReceiptBlocker :=
  archiveBlocker (literal "archive_digest_mismatch" (by decide +kernel))
    (literal "archive digest does not match the expected digest" (by decide +kernel)) []

def pathInvalid : PackageReceiptBlocker :=
  archiveBlocker (literal "archive_path_invalid" (by decide +kernel))
    (literal "archive entry path is not portable" (by decide +kernel)) []

def manifestPath : PortablePath := literal "package-manifest.json" (by decide +kernel)

def pathDuplicated (path : PortablePath) : PackageReceiptBlocker :=
  archiveBlocker
    (if path = manifestPath then literal "archive_manifest_duplicate" (by decide +kernel)
      else literal "archive_entry_duplicate" (by decide +kernel))
    (literal "archive entry path is duplicated" (by decide +kernel)) [path]

def entryEncrypted (path : PortablePath) : PackageReceiptBlocker :=
  archiveBlocker archiveUnreadable
    (literal "encrypted archive entries are not supported" (by decide +kernel)) [path]

def compressionUnsupported (path : PortablePath) : PackageReceiptBlocker :=
  archiveBlocker archiveInvalidZip
    (literal "archive compression method is not supported" (by decide +kernel)) [path]

def compressionDisagrees (path : PortablePath) : PackageReceiptBlocker :=
  archiveBlocker archiveInvalidZip
    (literal "archive compression headers disagree" (by decide +kernel)) [path]

def symlinkForbidden (path : PortablePath) : PackageReceiptBlocker :=
  archiveBlocker (literal "archive_symlink_forbidden" (by decide +kernel))
    (literal "archive symlink entries are forbidden" (by decide +kernel)) [path]

def manifestMissing : PackageReceiptBlocker :=
  archiveBlocker (literal "archive_manifest_missing" (by decide +kernel))
    (literal "canonical package manifest is missing" (by decide +kernel)) []

def manifestInvalid : PackageReceiptBlocker :=
  archiveBlocker (literal "archive_manifest_invalid" (by decide +kernel))
    (literal "canonical package manifest is invalid" (by decide +kernel)) [manifestPath]

def payloadMissing (path : PortablePath) : PackageReceiptBlocker :=
  archiveBlocker (literal "archive_payload_missing" (by decide +kernel))
    (literal "archive is missing a declared payload" (by decide +kernel)) [path]

def payloadUndeclared (path : PortablePath) : PackageReceiptBlocker :=
  archiveBlocker (literal "archive_payload_undeclared" (by decide +kernel))
    (literal "archive contains an undeclared payload" (by decide +kernel)) [path]

def payloadSizeMismatch (path : PortablePath) : PackageReceiptBlocker :=
  archiveBlocker archivePayloadSizeMismatch
    (literal "payload size does not match the manifest" (by decide +kernel)) [path]

def payloadDigestMismatch (path : PortablePath) : PackageReceiptBlocker :=
  archiveBlocker (literal "archive_payload_digest_mismatch" (by decide +kernel))
    (literal "payload digest does not match the manifest" (by decide +kernel)) [path]

def candidateDigestMismatch : PackageReceiptBlocker :=
  archiveBlocker (literal "archive_candidate_digest_mismatch" (by decide +kernel))
    (literal "manifest files do not match the candidate digest" (by decide +kernel)) []

def receiptInvalid : PackageReceiptBlocker :=
  archiveBlocker (literal "archive_receipt_invalid" (by decide +kernel))
    (literal "expected receipt violates its contract" (by decide +kernel)) []

def receiptMismatch : PackageReceiptBlocker :=
  archiveBlocker (literal "archive_receipt_mismatch" (by decide +kernel))
    (literal "expected receipt does not bind this package archive" (by decide +kernel)) []

def packageDigestMismatch : PackageReceiptBlocker :=
  archiveBlocker (literal "archive_package_digest_mismatch" (by decide +kernel))
    (literal "package digest does not match the expected receipt" (by decide +kernel)) []

def unreadableEntry : PackageReceiptBlocker :=
  archiveBlocker archiveUnreadable
    (literal "package archive contains an unreadable entry" (by decide +kernel)) []

def notReadableZip : PackageReceiptBlocker :=
  archiveBlocker archiveInvalidZip
    (literal "package archive is not a readable ZIP" (by decide +kernel)) []

/-! ### Entries -/

/-- `_entry_path`. -/
def entryPath (info : ZipInfo) : Option PortablePath :=
  if '\x00' ∈ info.origFilename ∨ info.origFilename ≠ info.filename ∨ info.isDir then none
  else if h : isPortable info.filename = true then some ⟨info.filename, h⟩
  else none

/-- `_is_symlink`. -/
def isSymlink (info : ZipInfo) : Bool := (info.externalAttr >>> 16) &&& 0o170000 == 0o120000

def isEncrypted (info : ZipInfo) : Bool := info.flagBits &&& 1 != 0

/-- `compress_type in (ZIP_STORED, ZIP_DEFLATED)`. -/
def isSupportedCompression (info : ZipInfo) : Bool := info.compressType == 0 || info.compressType == 8

def localSignature : List UInt8 := [0x50, 0x4b, 0x03, 0x04]

/-- `_local_compression_matches`. -/
def localCompressionMatches (snapshot : List UInt8) (info : ZipInfo) : Bool :=
  decide (0 ≤ info.headerOffset) && decide (info.headerOffset + 30 ≤ snapshot.length) &&
    decide (OccursAt localSignature snapshot info.headerOffset.toNat) &&
    leAt 2 snapshot (info.headerOffset.toNat + 8) == info.compressType

/-- The archive's entries by path, in the order of the archive. -/
abbrev EntryTable := List (PortablePath × ZipEntry)

def EntryTable.paths (table : EntryTable) : List PortablePath := table.map Prod.fst

/-- One round of the loop of `_validate_entries`. -/
def validateEntry (snapshot : List UInt8) (seen : EntryTable) (e : ZipEntry) :
    Except Stop (PortablePath × ZipEntry) :=
  match entryPath e.info with
  | none => .error (.blocked pathInvalid)
  | some path =>
    if path ∈ seen.paths then .error (.blocked (pathDuplicated path))
    else if isEncrypted e.info then .error (.blocked (entryEncrypted path))
    else if isSupportedCompression e.info = false then .error (.blocked (compressionUnsupported path))
    else if localCompressionMatches snapshot e.info = false then
      .error (.blocked (compressionDisagrees path))
    else if isSymlink e.info then .error (.blocked (symlinkForbidden path))
    else .ok (path, e)

def validateEntriesFrom (snapshot : List UInt8) : List ZipEntry → EntryTable → Except Stop EntryTable
  | [], seen => .ok seen
  | e :: es, seen => do
    let row ← validateEntry snapshot seen e
    validateEntriesFrom snapshot es (seen ++ [row])

/-- `_validate_entries`. -/
def validateEntries (infos : List ZipEntry) (policy : PackageArchiveVerificationPolicy)
    (snapshot : List UInt8) : Except Stop EntryTable :=
  if policy.maxEntryCount < infos.length ∨
      policy.maxTotalUncompressedBytes < (infos.map (·.info.fileSize)).sum then
    .error (.blocked exceedsBounds)
  else validateEntriesFrom snapshot infos []

/-! ### The manifest and the payload -/

/-- `_read_manifest`; the bounded read stops one byte past the declared size. -/
def readManifest (reader : ArchiveReader) (e : ZipEntry) : Except Stop (Option PackageManifest) :=
  match e.content with
  | .error .unicodeDecodeError => .ok none
  | .error f => .error (.fault f)
  | .ok bytes =>
    let data := bytes.take (e.info.fileSize + 1)
    if data.length ≠ e.info.fileSize then .ok none
    else
      match reader.decode data with
      | .ok manifest => .ok (some manifest)
      | .error .invalid => .ok none
      | .error .recursionError => .error (.fault .runtimeError)

/-- `sorted(…)` of a set of paths. -/
def sortedPaths (paths : List PortablePath) : List PortablePath :=
  paths.insertionSort fun a b => a.val ≤ b.val

variable (sha256 : List UInt8 → Sha256)

/-- One round of the loop of `_verify_payload`. -/
def verifyFile (entries : EntryTable) (records : List (PortablePath × PackageManifestFile))
    (path : PortablePath) : Except Stop Unit :=
  match entries.lookup path, records.lookup path with
  | some e, some record =>
    if e.info.fileSize ≠ record.sizeBytes then .error (.blocked (payloadSizeMismatch path))
    else
      match e.content with
      | .error f => .error (.fault f)
      | .ok bytes =>
        if bytes.length ≠ e.info.fileSize ∨ bytes.length ≠ record.sizeBytes then
          .error (.blocked (payloadSizeMismatch path))
        else if sha256 bytes ≠ record.sha256 then .error (.blocked (payloadDigestMismatch path))
        else .ok ()
  | _, _ => .error .keyError

def verifyFiles (entries : EntryTable) (records : List (PortablePath × PackageManifestFile)) :
    List PortablePath → Except Stop Unit
  | [] => .ok ()
  | path :: paths => do
    verifyFile sha256 entries records path
    verifyFiles entries records paths

/-- `_verify_payload`. -/
def verifyPayload (entries : EntryTable) (manifest : PackageManifest) : Except Stop Unit :=
  let payload := entries.paths.filter (· ≠ manifestPath)
  let declared := manifest.val.paths
  match sortedPaths (declared.filter (· ∉ payload)) with
  | path :: _ => .error (.blocked (payloadMissing path))
  | [] =>
    match sortedPaths (payload.filter (· ∉ declared)) with
    | path :: _ => .error (.blocked (payloadUndeclared path))
    | [] =>
      verifyFiles sha256 entries (manifest.val.files.map fun f => (f.path, f)) (sortedPaths declared)

/-- `_verify_bindings`; the expected receipt is validated again. -/
def verifyBindings (manifest : PackageManifest) (expected : Option PackageReceiptData) :
    Except Stop Sha256 :=
  if candidateContentSha256 sha256 (manifest.val.files.map PackageManifestFile.record) ≠
      manifest.val.candidate.contentSha256 then
    .error (.blocked candidateDigestMismatch)
  else
    let packageDigest := canonicalJsonSha256 sha256 manifest.val.toJson
    match expected with
    | none => .ok packageDigest
    | some data =>
      match construct (PackageReceiptData.validate sha256) data with
      | .error _ => .error (.blocked receiptInvalid)
      | .ok receipt =>
        if receipt.val.status ≠ .built ∨ receipt.val.candidate ≠ some manifest.val.candidate ∨
            receipt.val.manifest ≠ some manifest then
          .error (.blocked receiptMismatch)
        else if receipt.val.packageDigest ≠ some packageDigest then
          .error (.blocked packageDigestMismatch)
        else .ok packageDigest

/-! ### The verifier -/

/-- The arguments of a verification. -/
structure ArchiveRequest where
  policy : PackageArchiveVerificationPolicy
  expectedArchiveSha256 : Option Sha256
  expectedPackageReceipt : Option PackageReceiptData

/-- The bytes that `zipfile` is given: the comment cut off. -/
def withoutComment (snapshot : List UInt8) (directory : Nat) : List UInt8 :=
  snapshot.take (directory + eocdSize - 2) ++ [0, 0]

variable (reader : ArchiveReader) (request : ArchiveRequest) (snapshot : List UInt8)

/-- The body of the `try` of `verify_package_archive`. -/
def verifyEntries (directory : Nat) : Except Stop (PackageManifest × Sha256) := do
  match reader.parse (withoutComment snapshot directory) with
  | .error f => .error (.fault f)
  | .ok infos =>
    let entries ← validateEntries infos request.policy snapshot
    match entries.lookup manifestPath with
    | none => .error (.blocked manifestMissing)
    | some info =>
      match ← readManifest reader info with
      | none => .error (.blocked manifestInvalid)
      | some manifest =>
        verifyPayload sha256 entries manifest
        let packageDigest ← verifyBindings sha256 manifest request.expectedPackageReceipt
        return (manifest, packageDigest)

/-- What escapes the verifier. -/
inductive ArchiveRaised where
  | validationError (e : ValidationError)
  | structError
  | keyError
  | osError
  deriving DecidableEq

/-- The call of the receipt's constructor. -/
def archiveReceipt (d : PackageArchiveVerificationReceiptData) :
    Except ArchiveRaised (PackageArchiveVerificationReceipt sha256) :=
  (construct (PackageArchiveVerificationReceiptData.validate sha256) d).mapError .validationError

/-- `_blocked`. -/
def blockedArchive (b : PackageReceiptBlocker) :
    Except ArchiveRaised (PackageArchiveVerificationReceipt sha256) :=
  archiveReceipt sha256 (.ofBlocker b)

/-- The handlers of `verify_package_archive`. -/
def stopped : Stop → Except ArchiveRaised (PackageArchiveVerificationReceipt sha256)
  | .blocked b => blockedArchive sha256 b
  | .fault .runtimeError => blockedArchive sha256 unreadableEntry
  | .fault _ => blockedArchive sha256 notReadableZip
  | .keyError => .error .keyError

/-- `verify_package_archive`, once the snapshot is read. -/
def verifySnapshot : Except ArchiveRaised (PackageArchiveVerificationReceipt sha256) :=
  if request.policy.maxArchiveBytes < snapshot.length then
    blockedArchive sha256 exceedsBounds
  else
    match preflightCentralDirectory snapshot request.policy with
    | .error _ => .error .structError
    | .ok none => blockedArchive sha256 directoryOutOfBounds
    | .ok (some directory) =>
      let archiveDigest := sha256 snapshot
      if request.expectedArchiveSha256.any (archiveDigest ≠ ·) then
        blockedArchive sha256 archiveDigestMismatch
      else
        match verifyEntries sha256 reader request snapshot directory with
        | .error stop => stopped sha256 stop
        | .ok (manifest, packageDigest) =>
          archiveReceipt sha256 (.ofManifest archiveDigest packageDigest manifest)

/-- How `os.open` fails. -/
inductive OpenFault where
  | fileNotFound
  | isADirectory
  | other
  deriving DecidableEq

/-- What the operating system answers while the archive is read. -/
structure ArchiveSource where
  opened : Except OpenFault Unit
  /-- Is it a regular file, and its size; nothing when `os.fstat` fails. -/
  metadata : Option (Bool × Nat)
  content : Option (List UInt8)
  closes : Bool

/-- `_read_snapshot`. -/
def readSnapshot (source : ArchiveSource) (policy : PackageArchiveVerificationPolicy) :
    Except ArchiveRaised (Except PackageReceiptBlocker (List UInt8)) :=
  match source.opened with
  | .error .fileNotFound => .ok (.error archiveMissing)
  | .error .isADirectory => .ok (.error notRegularFile)
  | .error .other => .ok (.error cannotBeRead)
  | .ok () =>
    if source.closes then
      match source.metadata with
      | none => .ok (.error cannotBeRead)
      | some (regular, size) =>
        if regular = false then .ok (.error notRegularFile)
        else if policy.maxArchiveBytes < size then .ok (.error exceedsBounds)
        else
          match source.content with
          | none => .ok (.error cannotBeRead)
          | some bytes => .ok (.ok (bytes.take (policy.maxArchiveBytes + 1)))
    else .error .osError

/-- `verify_package_archive`. -/
def verifyPackageArchive (source : ArchiveSource) :
    Except ArchiveRaised (PackageArchiveVerificationReceipt sha256) :=
  match readSnapshot source request.policy with
  | .error e => .error e
  | .ok (.error b) => blockedArchive sha256 b
  | .ok (.ok snapshot) => verifySnapshot sha256 reader request snapshot

/-! ### What an archive has to be -/

/-- A row of the table: a portable path, and an entry that may be read. -/
structure EntryOk (row : PortablePath × ZipEntry) : Prop where
  path : entryPath row.2.info = some row.1
  not_encrypted : isEncrypted row.2.info = false
  supported : isSupportedCompression row.2.info = true
  local_matches : localCompressionMatches snapshot row.2.info = true
  not_symlink : isSymlink row.2.info = false

/-- The entry has the size and the digest that the manifest records. -/
structure PayloadOk (e : ZipEntry) (record : PackageManifestFile) : Prop where
  size : e.info.fileSize = record.sizeBytes
  content : ∃ bytes, e.content = .ok bytes ∧ bytes.length = record.sizeBytes ∧
    sha256 bytes = record.sha256

/-- The entry reads back, in its declared size, as the manifest. -/
def ReadsAs (e : ZipEntry) (manifest : PackageManifest) : Prop :=
  ∃ bytes, e.content = .ok bytes ∧ bytes.length = e.info.fileSize ∧ reader.decode bytes = .ok manifest

/-- The expected receipt is a built receipt of this manifest. -/
structure ReceiptBinds (manifest : PackageManifest) (data : PackageReceiptData) : Prop where
  valid : data.validate sha256 = .ok ()
  built : data.status = .built
  same_candidate : data.candidate = some manifest.val.candidate
  same_manifest : data.manifest = some manifest
  package_digest : data.packageDigest = some (canonicalJsonSha256 sha256 manifest.val.toJson)

/-- The candidate carries the content digest of the files, and the expected
receipt, when one is given, binds this manifest. -/
structure BindingsOk (manifest : PackageManifest) : Prop where
  candidate_digest : candidateContentSha256 sha256 (manifest.val.files.map PackageManifestFile.record) =
    manifest.val.candidate.contentSha256
  receipt : ∀ data ∈ request.expectedPackageReceipt, ReceiptBinds sha256 manifest data

/-- The entries of the archive, and the manifest among them that describes the others. -/
structure Contents (directory : Nat) (entries : EntryTable) (manifest : PackageManifest) : Prop where
  parsed : reader.parse (withoutComment snapshot directory) = .ok (entries.map Prod.snd)
  count : entries.length ≤ request.policy.maxEntryCount
  total : (entries.map fun row => row.2.info.fileSize).sum ≤ request.policy.maxTotalUncompressedBytes
  rows : ∀ row ∈ entries, EntryOk snapshot row
  nodup : entries.paths.Nodup
  exact : ∀ path, path ∈ entries.paths ↔ path = manifestPath ∨ path ∈ manifest.val.paths
  manifest_apart : manifestPath ∉ manifest.val.paths
  manifest_read : ∃ e, (manifestPath, e) ∈ entries ∧ ReadsAs reader e manifest
  payload : ∀ f ∈ manifest.val.files, ∃ e, (f.path, e) ∈ entries ∧ PayloadOk sha256 e f
  bindings : BindingsOk sha256 request manifest

/-- The archive is what the request asks for. -/
structure Verified (entries : EntryTable) (manifest : PackageManifest) : Prop where
  bounded : snapshot.length ≤ request.policy.maxArchiveBytes
  archive_digest : ∀ digest ∈ request.expectedArchiveSha256, sha256 snapshot = digest
  contents : ∃ directory, preflightCentralDirectory snapshot request.policy = .ok (some directory) ∧
    Contents sha256 reader request snapshot directory entries manifest

variable {sha256 reader request snapshot}

/-! ### Entries -/

theorem validateEntry_eq_ok_iff {seen : EntryTable} {e : ZipEntry} {row : PortablePath × ZipEntry} :
    validateEntry snapshot seen e = .ok row ↔
      row.2 = e ∧ EntryOk snapshot row ∧ row.1 ∉ seen.paths := by
  obtain ⟨path, e'⟩ := row
  rw [validateEntry]
  rcases hpath : entryPath e.info with - | path'
  · refine iff_of_false (by simp) ?_
    rintro ⟨rfl, hrow, -⟩
    exact absurd (hpath.symm.trans hrow.path) (by simp)
  · show (if _ then _ else _) = _ ↔ _
    constructor
    · split_ifs with h₁ h₂ h₃ h₄ h₅
      · simp
      · simp
      · simp
      · simp
      · simp
      · intro h
        obtain ⟨rfl, rfl⟩ := Prod.mk.inj (Except.ok.inj h)
        exact ⟨rfl, ⟨hpath, by simpa using h₂, by simpa using h₃, by simpa using h₄, by simpa using h₅⟩, h₁⟩
    · rintro ⟨rfl, hrow, hseen⟩
      obtain rfl : path' = path := Option.some.inj (hpath.symm.trans hrow.path)
      rw [if_neg hseen, if_neg (by simp [hrow.not_encrypted]), if_neg (by simp [hrow.supported]),
        if_neg (by simp [hrow.local_matches]), if_neg (by simp [hrow.not_symlink])]

theorem validateEntry_ne_keyError {seen : EntryTable} {e : ZipEntry} :
    validateEntry snapshot seen e ≠ .error .keyError := by
  rw [validateEntry]
  split
  · simp
  · split_ifs <;> simp

/-- The loop extends the table by a row for every entry. -/
theorem validateEntriesFrom_eq_ok_iff {es : List ZipEntry} {seen table : EntryTable}
    (hseen : seen.paths.Nodup) :
    validateEntriesFrom snapshot es seen = .ok table ↔
      ∃ rows : EntryTable, table = seen ++ rows ∧ rows.map Prod.snd = es ∧
        (∀ row ∈ rows, EntryOk snapshot row) ∧ (seen ++ rows : EntryTable).paths.Nodup := by
  induction es generalizing seen with
  | nil =>
    rw [validateEntriesFrom, Except.ok.injEq]
    constructor
    · rintro rfl
      exact ⟨[], by simp, rfl, by simp, by simpa using hseen⟩
    · rintro ⟨rows, rfl, hrows, -⟩
      rw [List.map_eq_nil_iff.mp hrows, List.append_nil]
  | cons e es ih =>
    rw [validateEntriesFrom, bind_eq_ok_iff]
    have hsnoc : ∀ row : PortablePath × ZipEntry, row.1 ∉ seen.paths →
        (EntryTable.paths (seen ++ [row])).Nodup := by
      intro row hrow
      rw [EntryTable.paths, List.map_append, List.nodup_append]
      refine ⟨hseen, by simp, ?_⟩
      rintro path hpath _ hrow' rfl
      exact hrow (by simpa using List.mem_singleton.mp hrow' ▸ hpath)
    constructor
    · rintro ⟨row, hrow, hrest⟩
      obtain ⟨rfl, hok, hnew⟩ := validateEntry_eq_ok_iff.mp hrow
      obtain ⟨rows, rfl, rfl, hrows, hnodup⟩ := (ih (hsnoc row hnew)).mp hrest
      refine ⟨row :: rows, by simp, rfl, List.forall_mem_cons.mpr ⟨hok, hrows⟩, by simpa using hnodup⟩
    · rintro ⟨rows, rfl, hmap, hrows, hnodup⟩
      rcases rows with - | ⟨row, rows⟩
      · cases hmap
      · rw [List.map_cons, List.cons.injEq] at hmap
        have hnew : row.1 ∉ seen.paths := by
          rw [EntryTable.paths, List.map_append, List.nodup_append] at hnodup
          exact fun hmem => hnodup.2.2 _ hmem _ (by simp) rfl
        refine ⟨row, validateEntry_eq_ok_iff.mpr ⟨hmap.1, hrows row (by simp), hnew⟩, ?_⟩
        exact (ih (hsnoc row hnew)).mpr ⟨rows, by simp, hmap.2,
          fun r hr => hrows r (by simp [hr]), by simpa using hnodup⟩

theorem validateEntries_eq_ok_iff {infos : List ZipEntry} {policy : PackageArchiveVerificationPolicy}
    {table : EntryTable} :
    validateEntries infos policy snapshot = .ok table ↔
      table.map Prod.snd = infos ∧ table.length ≤ policy.maxEntryCount ∧
        (table.map fun row => row.2.info.fileSize).sum ≤ policy.maxTotalUncompressedBytes ∧
        (∀ row ∈ table, EntryOk snapshot row) ∧ table.paths.Nodup := by
  rw [validateEntries]
  have hsize : ∀ table : EntryTable, (table.map fun row => row.2.info.fileSize) =
      (table.map Prod.snd).map (·.info.fileSize) := fun table => by rw [List.map_map]; rfl
  split_ifs with hbounds
  · refine iff_of_false (by simp) ?_
    rintro ⟨rfl, hcount, htotal, -⟩
    rw [List.length_map] at hbounds
    rw [hsize] at htotal
    omega
  · rw [validateEntriesFrom_eq_ok_iff (by simp [EntryTable.paths])]
    constructor
    · rintro ⟨rows, rfl, rfl, hrows, hnodup⟩
      rw [List.length_map] at hbounds
      rw [List.nil_append] at hnodup
      rw [hsize]
      exact ⟨rfl, by omega, by omega, hrows, hnodup⟩
    · rintro ⟨rfl, -, -, hrows, hnodup⟩
      exact ⟨table, rfl, rfl, hrows, hnodup⟩

theorem validateEntriesFrom_ne_keyError {es : List ZipEntry} {seen : EntryTable} :
    validateEntriesFrom snapshot es seen ≠ .error .keyError := by
  induction es generalizing seen with
  | nil => simp [validateEntriesFrom]
  | cons e es ih =>
    rw [validateEntriesFrom, Ne, bind_eq_error_iff]
    rintro (h | ⟨row, -, h⟩)
    · exact validateEntry_ne_keyError h
    · exact ih h

theorem validateEntries_ne_keyError {infos : List ZipEntry}
    {policy : PackageArchiveVerificationPolicy} :
    validateEntries infos policy snapshot ≠ .error .keyError := by
  rw [validateEntries]
  split_ifs
  · simp
  · exact validateEntriesFrom_ne_keyError

/-! ### The manifest and the payload -/

/-- The bounded read gives the whole entry when its size is the declared one. -/
theorem readManifest_eq_ok_some_iff {e : ZipEntry} {manifest : PackageManifest} :
    readManifest reader e = .ok (some manifest) ↔ ReadsAs reader e manifest := by
  rw [readManifest, ReadsAs]
  rcases e.content with f | bytes
  · refine iff_of_false ?_ (by simp)
    cases f <;> simp
  · show (if (bytes.take (e.info.fileSize + 1)).length ≠ e.info.fileSize then _ else _) = _ ↔ _
    have hlength : (bytes.take (e.info.fileSize + 1)).length = e.info.fileSize ↔
        bytes.length = e.info.fileSize := by
      rw [List.length_take]
      omega
    by_cases h : bytes.length = e.info.fileSize
    · rw [if_neg (not_not.mpr (hlength.mpr h)), List.take_of_length_le (by omega)]
      rcases hdecode : reader.decode bytes with f | m
      · cases f <;> simp [hdecode]
      · simp [hdecode, h]
    · rw [if_pos fun h' => h (hlength.mp h')]
      refine iff_of_false (by simp) ?_
      rintro ⟨bytes', heq, hlen, -⟩
      obtain rfl := Except.ok.inj heq
      exact h hlen

theorem readManifest_ne_keyError {e : ZipEntry} : readManifest reader e ≠ .error .keyError := by
  rw [readManifest]
  split
  · simp
  · simp
  · show (if _ then _ else _) ≠ _
    split_ifs
    · simp
    · split <;> simp

theorem mem_sortedPaths {paths : List PortablePath} {path : PortablePath} :
    path ∈ sortedPaths paths ↔ path ∈ paths :=
  (List.perm_insertionSort _ paths).mem_iff

theorem sortedPaths_eq_nil_iff {paths : List PortablePath} : sortedPaths paths = [] ↔ paths = [] := by
  rw [List.eq_nil_iff_forall_not_mem, List.eq_nil_iff_forall_not_mem]
  exact forall_congr' fun path => not_congr mem_sortedPaths

theorem verifyFile_eq_ok_iff {entries : EntryTable}
    {records : List (PortablePath × PackageManifestFile)} {path : PortablePath} :
    verifyFile sha256 entries records path = .ok () ↔
      ∃ e record, entries.lookup path = some e ∧ records.lookup path = some record ∧
        PayloadOk sha256 e record := by
  rw [verifyFile]
  split
  · rename_i e record he hrecord
    rw [he, hrecord]
    constructor
    · intro h
      refine ⟨e, record, rfl, rfl, ?_⟩
      split_ifs at h with hsize
      split at h
      · cases h
      · rename_i bytes hbytes
        split_ifs at h with hlength hdigest
        rw [not_or, not_not, not_not] at hlength
        exact ⟨not_not.mp hsize, bytes, hbytes, hlength.2, not_not.mp hdigest⟩
    · rintro ⟨e', record', he', hrecord', hok⟩
      obtain rfl := Option.some.inj he'
      obtain rfl := Option.some.inj hrecord'
      obtain ⟨bytes, hbytes, hlength, hdigest⟩ := hok.content
      rw [if_neg (not_not.mpr hok.size), hbytes]
      show (if bytes.length ≠ e.info.fileSize ∨ bytes.length ≠ record.sizeBytes then _ else _) = _
      rw [if_neg (by rw [hok.size, hlength]; simp), if_neg (not_not.mpr hdigest)]
  · rename_i hnone
    refine iff_of_false (by simp) ?_
    rintro ⟨e, record, he, hrecord, -⟩
    exact hnone e record he hrecord

/-- Only a path without an entry or a record is missed by the lookups. -/
theorem verifyFile_ne_keyError {entries : EntryTable}
    {records : List (PortablePath × PackageManifestFile)} {path : PortablePath} {e : ZipEntry}
    {record : PackageManifestFile} (he : entries.lookup path = some e)
    (hrecord : records.lookup path = some record) :
    verifyFile sha256 entries records path ≠ .error .keyError := by
  rw [verifyFile, he, hrecord]
  show (if _ then _ else _) ≠ _
  split_ifs
  · simp
  · split
    · simp
    · split_ifs <;> simp

theorem verifyFiles_eq_ok_iff {entries : EntryTable}
    {records : List (PortablePath × PackageManifestFile)} {paths : List PortablePath} :
    verifyFiles sha256 entries records paths = .ok () ↔
      ∀ path ∈ paths, verifyFile sha256 entries records path = .ok () := by
  induction paths with
  | nil => simp [verifyFiles]
  | cons path paths ih =>
    rw [verifyFiles, bind_eq_ok_iff, List.forall_mem_cons, ← ih]
    constructor
    · rintro ⟨⟨⟩, h₁, h₂⟩
      exact ⟨h₁, h₂⟩
    · rintro ⟨h₁, h₂⟩
      exact ⟨(), h₁, h₂⟩

theorem verifyFiles_ne_keyError {entries : EntryTable}
    {records : List (PortablePath × PackageManifestFile)} {paths : List PortablePath}
    (h : ∀ path ∈ paths, verifyFile sha256 entries records path ≠ .error .keyError) :
    verifyFiles sha256 entries records paths ≠ .error .keyError := by
  induction paths with
  | nil => simp [verifyFiles]
  | cons path paths ih =>
    rw [verifyFiles, Ne, bind_eq_error_iff]
    rw [List.forall_mem_cons] at h
    rintro (h' | ⟨⟨⟩, -, h'⟩)
    · exact h.1 h'
    · exact ih h.2 h'

/-- The records of a manifest, as the verifier looks them up. -/
theorem lookup_records {manifest : PackageManifest} {path : PortablePath} {f : PackageManifestFile} :
    (manifest.val.files.map fun f => (f.path, f)).lookup path = some f ↔
      f ∈ manifest.val.files ∧ f.path = path := by
  have hnodup : ((manifest.val.files.map fun f => (f.path, f)).map Prod.fst).Nodup := by
    rw [List.map_map]
    exact manifest.paths_nodup
  rw [KeyedList.lookup_eq_some_iff_mem hnodup, List.mem_map]
  constructor
  · rintro ⟨f', hf', heq⟩
    obtain ⟨rfl, rfl⟩ := Prod.mk.inj heq
    exact ⟨hf', rfl⟩
  · rintro ⟨hf, rfl⟩
    exact ⟨f, hf, rfl⟩

/-- The two set differences are empty: the payload is what the manifest declares. -/
theorem differences_eq_nil_iff {entries : EntryTable} {manifest : PackageManifest} :
    sortedPaths (manifest.val.paths.filter (· ∉ entries.paths.filter (· ≠ manifestPath))) = [] ∧
        sortedPaths ((entries.paths.filter (· ≠ manifestPath)).filter (· ∉ manifest.val.paths)) = [] ↔
      (∀ path ∈ manifest.val.paths, path ∈ entries.paths ∧ path ≠ manifestPath) ∧
        ∀ path ∈ entries.paths, path = manifestPath ∨ path ∈ manifest.val.paths := by
  rw [sortedPaths_eq_nil_iff, sortedPaths_eq_nil_iff, List.filter_eq_nil_iff, List.filter_eq_nil_iff]
  refine and_congr (forall₂_congr fun path _ => by simp) ?_
  simp only [List.mem_filter, decide_eq_true_eq, and_imp, not_not]
  exact forall₂_congr fun path _ => by tauto

/-- The payload is verified when it is exactly what the manifest declares, and
every file reads back with its recorded size and digest. -/
theorem verifyPayload_eq_ok_iff {entries : EntryTable} {manifest : PackageManifest}
    (hnodup : entries.paths.Nodup) :
    verifyPayload sha256 entries manifest = .ok () ↔
      ((∀ path ∈ manifest.val.paths, path ∈ entries.paths ∧ path ≠ manifestPath) ∧
        ∀ path ∈ entries.paths, path = manifestPath ∨ path ∈ manifest.val.paths) ∧
      ∀ f ∈ manifest.val.files, ∃ e, (f.path, e) ∈ entries ∧ PayloadOk sha256 e f := by
  rw [← differences_eq_nil_iff, verifyPayload]
  split
  · rename_i path paths hmissing
    refine iff_of_false (by simp) ?_
    rintro ⟨⟨h, -⟩, -⟩
    rw [h] at hmissing
    cases hmissing
  · rename_i hmissing
    split
    · rename_i path paths hundeclared
      refine iff_of_false (by simp) ?_
      rintro ⟨⟨-, h⟩, -⟩
      rw [h] at hundeclared
      cases hundeclared
    · rename_i hundeclared
      rw [and_iff_right ⟨hmissing, hundeclared⟩, verifyFiles_eq_ok_iff]
      -- the files are checked in order of path; the manifest lists them in its own
      constructor
      · intro h f hf
        have hpath : f.path ∈ sortedPaths manifest.val.paths :=
          mem_sortedPaths.mpr (List.mem_map_of_mem hf)
        obtain ⟨e, record, he, hrecord, hok⟩ := verifyFile_eq_ok_iff.mp (h f.path hpath)
        obtain rfl : f = record := Option.some.inj ((lookup_records.mpr ⟨hf, rfl⟩).symm.trans hrecord)
        exact ⟨e, (KeyedList.lookup_eq_some_iff_mem hnodup).mp he, hok⟩
      · intro h path hpath
        obtain ⟨f, hf, rfl⟩ := List.mem_map.mp (mem_sortedPaths.mp hpath)
        obtain ⟨e, he, hok⟩ := h f hf
        exact verifyFile_eq_ok_iff.mpr ⟨e, f, (KeyedList.lookup_eq_some_iff_mem hnodup).mpr he,
          lookup_records.mpr ⟨hf, rfl⟩, hok⟩

/-- No path is looked up that the set comparison has not found on both sides. -/
theorem verifyPayload_ne_keyError {entries : EntryTable} {manifest : PackageManifest}
    (hnodup : entries.paths.Nodup) : verifyPayload sha256 entries manifest ≠ .error .keyError := by
  rw [verifyPayload]
  split
  · simp
  · rename_i hmissing
    split
    · simp
    · rename_i hundeclared
      refine verifyFiles_ne_keyError fun path hpath => ?_
      have hdeclared := mem_sortedPaths.mp hpath
      obtain ⟨f, hf, rfl⟩ := List.mem_map.mp hdeclared
      have hentry := ((differences_eq_nil_iff.mp ⟨hmissing, hundeclared⟩).1 _ hdeclared).1
      obtain ⟨⟨_, e⟩, he, rfl⟩ := List.mem_map.mp hentry
      exact verifyFile_ne_keyError ((KeyedList.lookup_eq_some_iff_mem hnodup).mpr he)
        (lookup_records.mpr ⟨hf, rfl⟩)

/-! ### The bindings -/

theorem verifyBindings_eq_ok_iff {manifest : PackageManifest} {digest : Sha256} :
    verifyBindings sha256 manifest request.expectedPackageReceipt = .ok digest ↔
      BindingsOk sha256 request manifest ∧ digest = canonicalJsonSha256 sha256 manifest.val.toJson := by
  rw [verifyBindings]
  by_cases hcontent : candidateContentSha256 sha256
      (manifest.val.files.map PackageManifestFile.record) = manifest.val.candidate.contentSha256
  · rw [if_neg (not_not.mpr hcontent)]
    rcases hexpected : request.expectedPackageReceipt with - | data
    · show Except.ok _ = _ ↔ _
      rw [Except.ok.injEq, eq_comm]
      exact ⟨fun h => ⟨⟨hcontent, by simp [hexpected]⟩, h⟩, fun h => h.2⟩
    · have hbinds : BindingsOk sha256 request manifest ↔ ReceiptBinds sha256 manifest data :=
        ⟨fun h => h.receipt data hexpected, fun h => ⟨hcontent, fun data' hdata' => by
          obtain rfl := Option.some.inj (hexpected.symm.trans hdata')
          exact h⟩⟩
      rw [hbinds]
      rcases hconstruct : construct (PackageReceiptData.validate sha256) data with err | receipt
      · refine iff_of_false (by simp [hconstruct]) ?_
        rintro ⟨h, -⟩
        rw [construct_of_ok h.valid] at hconstruct
        cases hconstruct
      · obtain rfl : receipt.val = data := construct_eq_ok_iff.mp hconstruct
        simp only [hconstruct]
        constructor
        · split_ifs with h₁ h₂
          · simp
          · simp
          · rw [not_or, not_or, not_not, not_not, not_not] at h₁
            intro h
            exact ⟨⟨receipt.2, h₁.1, h₁.2.1, h₁.2.2, not_not.mp h₂⟩, (Except.ok.inj h).symm⟩
        · rintro ⟨h, rfl⟩
          rw [if_neg (by simp [h.built, h.same_candidate, h.same_manifest]),
            if_neg (not_not.mpr h.package_digest)]
  · rw [if_pos hcontent]
    exact iff_of_false (by simp) fun h => hcontent h.1.candidate_digest

theorem verifyBindings_ne_keyError {manifest : PackageManifest} {expected : Option PackageReceiptData} :
    verifyBindings sha256 manifest expected ≠ .error .keyError := by
  rw [verifyBindings]
  split_ifs
  · simp
  · show (match expected with | none => _ | some data => _) ≠ _
    split
    · simp
    · split
      · simp
      · split_ifs <;> simp

/-! ### The verifier -/

/-- The chain of checks lets exactly the archives through that have the contents. -/
theorem verifyEntries_eq_ok_iff {directory : Nat} {manifest : PackageManifest} {digest : Sha256} :
    verifyEntries sha256 reader request snapshot directory = .ok (manifest, digest) ↔
      (∃ entries, Contents sha256 reader request snapshot directory entries manifest) ∧
        digest = canonicalJsonSha256 sha256 manifest.val.toJson := by
  rw [verifyEntries]
  rcases hparse : reader.parse (withoutComment snapshot directory) with f | infos
  · refine iff_of_false (by simp) ?_
    rintro ⟨⟨entries, h⟩, -⟩
    exact absurd (hparse.symm.trans h.parsed) (by simp)
  · show (validateEntries infos request.policy snapshot >>= _) = _ ↔ _
    rw [bind_eq_ok_iff]
    constructor
    -- forwards the steps are taken apart in the order of the source
    · rintro ⟨entries, hentries, h⟩
      obtain ⟨rfl, hcount, htotal, hrows, hnodup⟩ := validateEntries_eq_ok_iff.mp hentries
      rcases hinfo : entries.lookup manifestPath with - | e
      · simp [hinfo] at h
      · have hmem := (KeyedList.lookup_eq_some_iff_mem hnodup).mp hinfo
        simp only [hinfo] at h
        obtain ⟨m, hm, h⟩ := bind_eq_ok_iff.mp h
        rcases m with - | m
        · cases h
        · obtain ⟨⟨⟩, hpayload, h⟩ := bind_eq_ok_iff.mp h
          obtain ⟨d, hbindings, h⟩ := bind_eq_ok_iff.mp h
          obtain ⟨rfl, rfl⟩ := Prod.mk.inj (Except.ok.inj h)
          obtain ⟨⟨hdeclared, hall⟩, hfiles⟩ := (verifyPayload_eq_ok_iff hnodup).mp hpayload
          obtain ⟨hbinds, hdigest⟩ := verifyBindings_eq_ok_iff.mp hbindings
          refine ⟨⟨entries, ⟨hparse, hcount, htotal, hrows, hnodup, fun path => ⟨hall path, ?_⟩, ?_,
            ⟨e, hmem, readManifest_eq_ok_some_iff.mp hm⟩, hfiles, hbinds⟩⟩, hdigest⟩
          · rintro (rfl | hpath)
            · exact List.mem_map_of_mem hmem
            · exact (hdeclared path hpath).1
          · exact fun h => (hdeclared _ h).2 rfl
    -- backwards each step succeeds on what the contents say
    · rintro ⟨⟨entries, h⟩, rfl⟩
      obtain rfl : infos = entries.map Prod.snd := Except.ok.inj (hparse.symm.trans h.parsed)
      obtain ⟨e, hmem, hreads⟩ := h.manifest_read
      have hinfo : entries.lookup manifestPath = some e :=
        (KeyedList.lookup_eq_some_iff_mem h.nodup).mpr hmem
      have hentries : validateEntries (entries.map Prod.snd) request.policy snapshot = .ok entries :=
        validateEntries_eq_ok_iff.mpr ⟨rfl, h.count, h.total, h.rows, h.nodup⟩
      have hpayload : verifyPayload sha256 entries manifest = .ok () :=
        (verifyPayload_eq_ok_iff h.nodup).mpr ⟨⟨fun path hpath =>
          ⟨(h.exact path).mpr (Or.inr hpath), fun heq => h.manifest_apart (heq ▸ hpath)⟩,
          fun path => (h.exact path).mp⟩, h.payload⟩
      refine ⟨entries, hentries, ?_⟩
      simp only [hinfo]
      refine bind_eq_ok_iff.mpr ⟨some manifest, readManifest_eq_ok_some_iff.mpr hreads, ?_⟩
      refine bind_eq_ok_iff.mpr ⟨(), hpayload, ?_⟩
      exact bind_eq_ok_iff.mpr ⟨_, verifyBindings_eq_ok_iff.mpr ⟨h.bindings, rfl⟩, rfl⟩

theorem verifyEntries_ne_keyError {directory : Nat} :
    verifyEntries sha256 reader request snapshot directory ≠ .error .keyError := by
  rw [verifyEntries]
  rcases reader.parse (withoutComment snapshot directory) with f | infos
  · simp
  · show (validateEntries infos request.policy snapshot >>= _) ≠ _
    rw [Ne, bind_eq_error_iff]
    rintro (h | ⟨entries, hentries, h⟩)
    · exact validateEntries_ne_keyError h
    · have hnodup := (validateEntries_eq_ok_iff.mp hentries).2.2.2.2
      rcases hinfo : entries.lookup manifestPath with - | e
      · simp [hinfo] at h
      · simp only [hinfo] at h
        rcases bind_eq_error_iff.mp h with h | ⟨m, -, h⟩
        · exact readManifest_ne_keyError h
        · rcases m with - | m
          · cases h
          · rcases bind_eq_error_iff.mp h with h | ⟨⟨⟩, -, h⟩
            · exact verifyPayload_ne_keyError hnodup h
            · rcases bind_eq_error_iff.mp h with h | ⟨d, -, h⟩
              · exact verifyBindings_ne_keyError h
              · cases h

open PackageArchiveVerificationReceiptData

/-- A blocked receipt is accepted by its model. -/
theorem blockedArchive_eq (b : PackageReceiptBlocker) :
    blockedArchive sha256 b = .ok ⟨ofBlocker b, validate_ofBlocker b⟩ := by
  rw [blockedArchive, archiveReceipt, construct_of_ok (validate_ofBlocker b)]
  rfl

/-- Every stop but a failed lookup becomes a blocked receipt. -/
theorem stopped_eq {stop : Stop} (h : stop ≠ .keyError) :
    ∃ receipt b, stopped sha256 stop = .ok receipt ∧ receipt.val = ofBlocker b := by
  rcases stop with b | f | -
  · exact ⟨_, b, blockedArchive_eq b, rfl⟩
  · cases f with
    | runtimeError => exact ⟨_, _, blockedArchive_eq _, rfl⟩
    | _ => exact ⟨_, _, blockedArchive_eq notReadableZip, rfl⟩
  · exact absurd rfl h

variable (sha256 reader request snapshot)

/-- The verifier always returns a receipt: with the whole proof of the manifest
when the archive is verified, and with a blocker and nothing else when it is not. -/
theorem verifySnapshot_cases :
    ∃ receipt, verifySnapshot sha256 reader request snapshot = .ok receipt ∧
      ((∃ entries manifest, Verified sha256 reader request snapshot entries manifest ∧
          receipt.val = ofManifest (sha256 snapshot)
            (canonicalJsonSha256 sha256 manifest.val.toJson) manifest) ∨
        (¬ ∃ entries manifest, Verified sha256 reader request snapshot entries manifest) ∧
          ∃ b, receipt.val = ofBlocker b) := by
  rw [verifySnapshot]
  by_cases hbounded : snapshot.length ≤ request.policy.maxArchiveBytes
  · rw [if_neg (by omega)]
    obtain ⟨r, hr, -⟩ := preflightCentralDirectory_answers snapshot request.policy
    rw [hr]
    rcases r with - | directory
    · refine ⟨_, blockedArchive_eq _, Or.inr ⟨?_, _, rfl⟩⟩
      rintro ⟨entries, manifest, h⟩
      obtain ⟨o, ho, -⟩ := h.contents
      exact absurd (hr.symm.trans ho) (by simp)
    · show ∃ receipt, (if request.expectedArchiveSha256.any (sha256 snapshot ≠ ·) then _ else _) = _ ∧ _
      by_cases hdigest : ∀ digest ∈ request.expectedArchiveSha256, sha256 snapshot = digest
      · rw [if_neg (by simpa [Option.any_eq_true] using hdigest)]
        rcases hentries : verifyEntries sha256 reader request snapshot directory with stop | ⟨m, d⟩
        -- the row of the manifest is compared before it is looked up
        · have hstop : stop ≠ .keyError := by
            rintro rfl
            exact verifyEntries_ne_keyError hentries
          obtain ⟨receipt, b, hreceipt, hb⟩ : ∃ receipt b, stopped sha256 stop = .ok receipt ∧
            receipt.val = ofBlocker b := stopped_eq hstop
          refine ⟨receipt, by simpa [hentries] using hreceipt, Or.inr ⟨?_, b, hb⟩⟩
          rintro ⟨entries, manifest, h⟩
          obtain ⟨o, ho, hcontents⟩ := h.contents
          obtain rfl : directory = o := Option.some.inj (Except.ok.inj (hr.symm.trans ho))
          have := verifyEntries_eq_ok_iff.mpr ⟨⟨entries, hcontents⟩, rfl⟩
          exact absurd (hentries.symm.trans this) (by simp)
        · obtain ⟨⟨entries, hcontents⟩, rfl⟩ := verifyEntries_eq_ok_iff.mp hentries
          have hvalid : (ofManifest (sha256 snapshot) _ m).validate sha256 = .ok () :=
            validate_ofManifest_iff.mpr ⟨hcontents.bindings.candidate_digest.symm, rfl⟩
          refine ⟨⟨_, hvalid⟩, ?_, Or.inl ⟨entries, m, ⟨hbounded, hdigest, directory, hr, hcontents⟩, rfl⟩⟩
          simp only
          rw [archiveReceipt, construct_of_ok hvalid]
          rfl
      · rw [if_pos (by simpa [Option.any_eq_true] using hdigest)]
        refine ⟨_, blockedArchive_eq _, Or.inr ⟨?_, _, rfl⟩⟩
        rintro ⟨entries, manifest, h⟩
        exact hdigest h.archive_digest
  · rw [if_pos (by omega)]
    refine ⟨_, blockedArchive_eq _, Or.inr ⟨?_, _, rfl⟩⟩
    rintro ⟨entries, manifest, h⟩
    exact hbounded h.bounded

/-- **Archive verification is sound and never half-proved.**  A pass means that
the archive is verified and shows the digests of the snapshot and of the
manifest; whatever is not verified is blocked, with a blocker and no proof. -/
theorem verifySnapshot_sound :
    ∃ receipt, verifySnapshot sha256 reader request snapshot = .ok receipt ∧
      (receipt.val.status = .pass ↔
        ∃ entries manifest, Verified sha256 reader request snapshot entries manifest) ∧
      (receipt.val.status = .pass → ∃ entries manifest,
        Verified sha256 reader request snapshot entries manifest ∧
        receipt.val.manifest = some manifest ∧
        receipt.val.candidate = some manifest.val.candidate ∧
        receipt.val.archiveSha256 = some (sha256 snapshot) ∧
        receipt.val.packageDigest = some (canonicalJsonSha256 sha256 manifest.val.toJson) ∧
        receipt.val.verifiedFiles = manifest.val.paths ∧ receipt.val.blocker = none) ∧
      (receipt.val.status = .blocked → receipt.val.blocker ≠ none ∧
        receipt.val.archiveSha256 = none ∧ receipt.val.candidate = none ∧
        receipt.val.packageDigest = none ∧ receipt.val.manifest = none ∧
        receipt.val.verifiedFiles = []) := by
  obtain ⟨receipt, hreceipt, hcases⟩ := verifySnapshot_cases sha256 reader request snapshot
  refine ⟨receipt, hreceipt, ?_⟩
  rcases hcases with ⟨entries, manifest, hverified, heq⟩ | ⟨hnot, b, heq⟩
  · rw [heq]
    refine ⟨iff_of_true rfl ⟨entries, manifest, hverified⟩, fun _ => ?_, ?_⟩
    · exact ⟨entries, manifest, hverified, rfl, rfl, rfl, rfl, rfl, rfl⟩
    · intro h
      cases h
  · rw [heq]
    refine ⟨iff_of_false ?_ hnot, ?_, fun _ => ?_⟩
    · intro h
      cases h
    · intro h
      cases h
    · exact ⟨Option.some_ne_none b, rfl, rfl, rfl, rfl, rfl⟩

/-- Reading the file adds nothing that could pass: a receipt that passes is about
the whole content, and only a failing `os.close` escapes. -/
theorem verifyPackageArchive_cases (source : ArchiveSource) :
    (source.opened = .ok () ∧ source.closes = false ∧
        verifyPackageArchive sha256 reader request source = .error .osError) ∨
      ∃ receipt, verifyPackageArchive sha256 reader request source = .ok receipt ∧
        ((∃ bytes entries manifest, source.content = some bytes ∧
            Verified sha256 reader request bytes entries manifest ∧
            receipt.val = ofManifest (sha256 bytes)
              (canonicalJsonSha256 sha256 manifest.val.toJson) manifest) ∨
          ∃ b, receipt.val = ofBlocker b) := by
  rw [verifyPackageArchive, readSnapshot]
  rcases hopened : source.opened with f | ⟨⟩
  · refine Or.inr ?_
    cases f <;> exact ⟨_, blockedArchive_eq _, Or.inr ⟨_, rfl⟩⟩
  · cases hcloses : source.closes with
    | false => exact Or.inl ⟨rfl, rfl, rfl⟩
    | true =>
      refine Or.inr ?_
      rw [if_pos rfl]
      rcases source.metadata with - | ⟨regular, size⟩
      · exact ⟨_, blockedArchive_eq _, Or.inr ⟨_, rfl⟩⟩
      · dsimp only
        by_cases hregular : regular = false
        · rw [if_pos hregular]
          exact ⟨_, blockedArchive_eq _, Or.inr ⟨_, rfl⟩⟩
        · rw [if_neg hregular]
          by_cases hsize : request.policy.maxArchiveBytes < size
          · rw [if_pos hsize]
            exact ⟨_, blockedArchive_eq _, Or.inr ⟨_, rfl⟩⟩
          · rw [if_neg hsize]
            rcases source.content with - | bytes
            · exact ⟨_, blockedArchive_eq _, Or.inr ⟨_, rfl⟩⟩
            · obtain ⟨receipt, hreceipt, hcases⟩ := verifySnapshot_cases sha256 reader request
                (bytes.take (request.policy.maxArchiveBytes + 1))
              refine ⟨receipt, hreceipt, hcases.imp ?_ And.right⟩
              rintro ⟨entries, manifest, hverified, heq⟩
              -- a longer content would not have passed the bound
              have hwhole : bytes.take (request.policy.maxArchiveBytes + 1) = bytes := by
                have hbounded := hverified.bounded
                rw [List.length_take] at hbounded
                exact List.take_of_length_le (by omega)
              rw [hwhole] at hverified heq
              exact ⟨bytes, entries, manifest, rfl, hverified, heq⟩

end SkillsSdk

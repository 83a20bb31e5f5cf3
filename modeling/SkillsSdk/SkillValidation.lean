/-
SkillsSdk/SkillValidation.lean

Validation of a standalone skill package: `validate_skill_package`.

The validator scans the directory, applies the policy to the captured bytes,
reads the frontmatter of the captured SKILL.md and returns a result that its
model must accept.  What it does not contain it takes as given: the observed
directory, PyYAML and the JSON decoder (`Parsers`).
-/
import SkillsSdk.SkillIr
import SkillsSdk.SkillScan

namespace SkillsSdk

/-! ### The parsers -/

inductive YamlEvent where
  | collectionStart
  | collectionEnd
  | other
  deriving DecidableEq

/-- How `json.loads` ends. -/
inductive JsonOutcome where
  | loaded
  | valueError
  | recursionError
  deriving DecidableEq

structure Parsers where
  load : YamlLoad
  /-- The events of `yaml.parse`, and the exception that ends them, if one does. -/
  parse : Text → List YamlEvent × Option PyExc
  jsonLoads : Text → JsonOutcome

/-! ### Findings -/

/-- A finding that quotes one portable path. -/
def findingAt (text : FindingText) (path : PortablePath) : SkillPackageFinding :=
  ⟨text.1, .blocker, text.2, [path]⟩

/-- A finding that quotes nothing. -/
def plainFinding (text : FindingText) : SkillPackageFinding := ⟨text.1, .blocker, text.2, []⟩

theorem isPortable_skillMd : isPortable "SKILL.md".toList = true := by decide +kernel

def skillMdPath : PortablePath := literal "SKILL.md" isPortable_skillMd

def invalidValidationPolicy : FindingText :=
  (literal "invalid_validation_policy" (by decide +kernel),
    literal "required files must be unique portable relative paths" (by decide +kernel))

def invalidSourceRevision : FindingText :=
  (literal "invalid_source_revision" (by decide +kernel),
    literal "source revision must be a 40-character lowercase hexadecimal digest" (by decide +kernel))

def invalidPackageRoot : FindingText :=
  (literal "invalid_package_root" (by decide +kernel),
    literal "package root must be a regular directory" (by decide +kernel))

def directoryNameNotUtf8 : FindingText :=
  (invalidPackagePath.1, literal "package directory name must be valid UTF-8" (by decide +kernel))

def directoryNameNotId : FindingText :=
  (invalidPackageRoot.1,
    literal "package directory must use a portable package identifier" (by decide +kernel))

def missingSkillMd : FindingText :=
  (literal "missing_skill_md" (by decide +kernel),
    literal "package requires a regular SKILL.md" (by decide +kernel))

def requiredFileMissing : FindingText :=
  (literal "required_file_missing" (by decide +kernel),
    literal "selected policy requires a readable regular file" (by decide +kernel))

def referenceTooLong : FindingText :=
  (literal "reference_content_limit" (by decide +kernel),
    literal "textual reference exceeds the eight MiB parsing limit" (by decide +kernel))

def referenceTooMuchWork : FindingText :=
  (referenceTooLong.1, literal "YAML reference exceeds the syntax work budget" (by decide +kernel))

def emptyReference : FindingText :=
  (literal "empty_reference" (by decide +kernel),
    literal "textual reference must contain content" (by decide +kernel))

def invalidReferenceUtf8 : FindingText :=
  (literal "invalid_reference_utf8" (by decide +kernel),
    literal "textual reference must be UTF-8" (by decide +kernel))

def invalidReferenceFormat : FindingText :=
  (literal "invalid_reference_format" (by decide +kernel),
    literal "structured reference must be parseable" (by decide +kernel))

def missingName : FindingText :=
  (literal "missing_name" (by decide +kernel),
    literal "SKILL.md frontmatter requires a non-empty name" (by decide +kernel))

def nameMismatch : FindingText :=
  (literal "name_mismatch" (by decide +kernel),
    literal "skill name must match the package directory" (by decide +kernel))

def missingDescription : FindingText :=
  (literal "missing_description" (by decide +kernel),
    literal "SKILL.md frontmatter requires a description" (by decide +kernel))

def unknownFrontmatter : BlockerCode := literal "unknown_frontmatter" (by decide +kernel)

def entrypointLineBudgetExceeded : BlockerCode :=
  literal "entrypoint_line_budget_exceeded" (by decide +kernel)

def invalidIdentity : FindingText :=
  (literal "invalid_identity" (by decide +kernel),
    literal "skill name or version is invalid" (by decide +kernel))

def unclosedFrontmatter : FindingText :=
  (literal "invalid_frontmatter" (by decide +kernel),
    literal "SKILL.md requires closed frontmatter" (by decide +kernel))

def invalidUtf8 : FindingText :=
  (literal "invalid_utf8" (by decide +kernel), literal "SKILL.md must be UTF-8" (by decide +kernel))

def unreadableSkillMd : FindingText :=
  (literal "unreadable_skill_md" (by decide +kernel),
    literal "SKILL.md must remain a readable regular file" (by decide +kernel))

def invalidFrontmatter : FindingText :=
  (unclosedFrontmatter.1, literal "SKILL.md frontmatter must be valid YAML" (by decide +kernel))

/-! ### The policy -/

/-- `require_portable_relative_path` on a string: to it a surrogate is a letter like any other. -/
def isPortableStr (s : PyStr) : Bool :=
  isPortable (s.map fun
    | .scalar c => c
    | .surrogate _ => '\ufffd')

/-- `_policy_findings`, of a policy whose fields have their types. -/
def policyFindings (policy : SkillValidationPolicy) : List SkillPackageFinding :=
  if policy.requiredFiles.all isPortableStr && decide policy.requiredFiles.Nodup then []
  else [plainFinding invalidValidationPolicy]

/-! ### Text references -/

/-- `payload.decode("utf-8")`. -/
def decodeUtf8 (payload : List UInt8) : Option Text :=
  (ByteArray.utf8Decode? payload.toByteArray).map Array.toList

/-- `payload.decode("utf-8-sig")`. -/
def decodeUtf8Sig : List UInt8 → Option Text
  | 0xef :: 0xbb :: 0xbf :: payload => decodeUtf8 payload
  | payload => decodeUtf8 payload

/-- `Path(path).suffix`. -/
def pathSuffix (path : Text) : Text :=
  let name := (path.reverse.takeWhile (· ≠ '/')).reverse
  let extension := (name.reverse.takeWhile (· ≠ '.')).reverse
  if '.' ∈ name ∧ extension.length + 1 < name.length ∧ extension ≠ [] then '.' :: extension else []

/-- `_TEXT_REFERENCE_SUFFIXES`. -/
def textReferenceSuffixes : List PyStr :=
  [".md", ".markdown", ".mdown", ".mkd", ".mkdn", ".mdwn", ".mdtxt", ".mdtext", ".txt", ".json",
    ".yaml", ".yml"].map PyStr.lit

def maxReferenceTextBytes : Nat := 8388608
def maxYamlCollectionDepth : Int := 128
def maxYamlEvents : Nat := 100000

/-- The loop of `_yaml_within_work_budget`, after `count` events at the given depth. -/
def yamlWithinWorkBudgetFrom (ending : Option PyExc) :
    List YamlEvent → Nat → Int → Except PyExc Bool
  | [], _, _ =>
    match ending with
    | some e => .error e
    | none => .ok true
  | event :: events, count, depth =>
    let depth :=
      match event with
      | .collectionStart => depth + 1
      | .collectionEnd => depth - 1
      | .other => depth
    if maxYamlCollectionDepth < depth ∨ maxYamlEvents < count + 1 then .ok false
    else yamlWithinWorkBudgetFrom ending events (count + 1) depth

variable (parsers : Parsers)

/-- `_yaml_within_work_budget`. -/
def yamlWithinWorkBudget (text : Text) : Except PyExc Bool :=
  yamlWithinWorkBudgetFrom (parsers.parse text).2 (parsers.parse text).1 0 0

/-- The handlers of `_reference_findings`. -/
def referenceFailure (path : PortablePath) : PyExc → Except PyExc (List SkillPackageFinding)
  | .unicodeDecodeError => .ok [findingAt invalidReferenceUtf8 path]
  | .valueError | .yamlError | .recursionError => .ok [findingAt invalidReferenceFormat path]
  | e => .error e

/-- `_reference_findings`. -/
def referenceFindings (path : PortablePath) (payload : List UInt8) :
    Except PyExc (List SkillPackageFinding) :=
  let suffix := (PyStr.ofText (pathSuffix path.val)).lower
  if suffix ∉ textReferenceSuffixes then .ok []
  else if maxReferenceTextBytes < payload.length then .ok [findingAt referenceTooLong path]
  else
    match decodeUtf8Sig payload with
    | none => referenceFailure path .unicodeDecodeError
    | some text =>
      if strip text = [] then .ok [findingAt emptyReference path]
      else if suffix = PyStr.lit ".json" then
        match parsers.jsonLoads text with
        | .loaded => .ok []
        | .valueError => referenceFailure path .valueError
        | .recursionError => referenceFailure path .recursionError
      else if suffix = PyStr.lit ".yaml" ∨ suffix = PyStr.lit ".yml" then
        match yamlWithinWorkBudget parsers text with
        | .ok true => .ok []
        | .ok false => .ok [findingAt referenceTooMuchWork path]
        | .error e => referenceFailure path e
      else .ok []

/-- The captured bytes by path. -/
abbrev CapturedBytes := List (PortablePath × List UInt8)

/-- The captured references, in the order of `sorted(captured.items())`. -/
def capturedReferences (captured : CapturedBytes) : CapturedBytes :=
  (captured.insertionSort fun a b => a.1.val ≤ b.1.val).filter
    fun c => "references/".toList.isPrefixOf c.1.val

/-- The findings of the required files that are not captured. -/
def missingRequired (captured : CapturedBytes) (policy : SkillValidationPolicy) :
    Except ValidationError (List SkillPackageFinding) :=
  (policy.requiredFiles.filter fun path => path ∉ captured.map (PyStr.ofText ·.1.val)).mapM
    fun path => finding requiredFileMissing [path]

/-- `_package_policy_findings`. -/
def packagePolicyFindings (captured : CapturedBytes) (policy : SkillValidationPolicy) :
    Except SkillRaised (List SkillPackageFinding) := do
  let missing ← modelCall (missingRequired captured policy)
  if policy.checkReferenceContent then
    let found ← (capturedReferences captured).mapM fun c =>
      (referenceFindings parsers c.1 c.2).mapError SkillRaised.exc
    return missing ++ found.flatten
  else return missing

/-! ### The entrypoint -/

/-- The number of a code point. -/
def PyChar.code : PyChar → Nat
  | .scalar c => c.toNat
  | .surrogate n => 0xd800 + n.val

/-- `sorted(…)` of strings. -/
def sortStrings (strings : List PyStr) : List PyStr :=
  strings.insertionSort fun a b => a.map PyChar.code ≤ b.map PyChar.code

/-- `_finding` inside the handler that takes every `ValueError`. -/
def handledFinding (x : Except ValidationError SkillPackageFinding) : Except PyExc SkillPackageFinding :=
  x.mapError fun _ => .valueError

/-- The finding about frontmatter keys that the policy does not allow. -/
def unknownKeyFindings (ir : SkillIR) (policy : SkillValidationPolicy) :
    Except PyExc (List SkillPackageFinding) := do
  let keys := ir.frontmatter.filterMap Prod.fst
  let unknown := sortStrings (keys.filter (· ∉ policy.allowedFrontmatter))
  if unknown = [] then return []
  else
    let message := PyStr.lit "unsupported frontmatter keys: " ++
      List.intercalate (PyStr.lit ", ") unknown
    return [← handledFinding (findingSaying unknownFrontmatter message [PyStr.ofText skillMdPath.val])]

/-- The finding about the number of lines. -/
def lineBudgetFindings (text : Text) (policy : SkillValidationPolicy) :
    Except PyExc (List SkillPackageFinding) := do
  match policy.maxEntrypointLines with
  | none => return []
  | some limit =>
    let count := (splitlines text).length
    if limit < count then
      let shown ← reprInt limit
      let message := PyStr.lit (s!"SKILL.md has {count} lines; configured limit is ") ++ PyStr.ofText shown
      return [← handledFinding
        (findingSaying entrypointLineBudgetExceeded message [PyStr.ofText skillMdPath.val])]
    else return []

/-- The identity of an entrypoint whose name is that of the directory. -/
def declaredIdentity (rootName : PyStr) (ir : SkillIR) :
    Option SkillIdentity × List SkillPackageFinding :=
  if ir.nameDeclared ∧ ir.name ≠ [] ∧ ir.description ≠ [] ∧ ir.name = rootName then
    match newSkillIdentity ir.name ir.name ir.version with
    | .ok identity => (some identity, [])
    | .error _ => (none, [findingAt invalidIdentity skillMdPath])
  else (none, [])

/-- `_validate_ir`. -/
def validateIr (rootName : PyStr) (text : Text) (ir : SkillIR) (policy : SkillValidationPolicy) :
    Except PyExc (Option SkillIdentity × List SkillPackageFinding) := do
  let named :=
    if ir.nameDeclared = false then [findingAt missingName skillMdPath]
    else if ir.name ≠ rootName then [findingAt nameMismatch skillMdPath]
    else []
  let described := if ir.description = [] then [findingAt missingDescription skillMdPath] else []
  let unknown ← unknownKeyFindings ir policy
  let budget ← lineBudgetFindings text policy
  let (identity, invalid) := declaredIdentity rootName ir
  return (identity, named ++ described ++ unknown ++ budget ++ invalid)

/-- The body of the `try` of `_captured_skill_identity`. -/
def readSkillIdentity (rootName : PyStr) (payload : Option (List UInt8))
    (policy : SkillValidationPolicy) :
    Except PyExc (Option SkillIdentity × List SkillPackageFinding) :=
  match payload with
  | none => .error .osError
  | some bytes =>
    match decodeUtf8 bytes with
    | none => .error .unicodeDecodeError
    | some text => do
      let fm ← readFrontmatter parsers.load .reading text
      if fm.closed = false then return (none, [findingAt unclosedFrontmatter skillMdPath])
      else
        let ir ← buildSkillIr parsers.load rootName text
        validateIr rootName text ir policy

/-- `_captured_skill_identity`. -/
def capturedSkillIdentity (rootName : PyStr) (payload : Option (List UInt8))
    (policy : SkillValidationPolicy) :
    Except PyExc (Option SkillIdentity × List SkillPackageFinding) :=
  match readSkillIdentity parsers rootName payload policy with
  | .ok result => .ok result
  | .error .unicodeDecodeError => .ok (none, [findingAt invalidUtf8 skillMdPath])
  | .error .osError => .ok (none, [findingAt unreadableSkillMd skillMdPath])
  | .error .valueError => .ok (none, [findingAt invalidFrontmatter skillMdPath])
  | .error .yamlError => .ok (none, [findingAt invalidFrontmatter skillMdPath])
  | .error e => .error e

/-! ### The candidate -/

variable (sha256 : List UInt8 → Sha256)

/-- `_candidate_package_id`: the name itself, or a digest of its bytes. -/
def candidatePackageId (rootName : PyStr) (content : Sha256) : Option Text :=
  match rootName.encode?.filter isIdentifier with
  | some t => some t
  | none => rootName.encodeEscaped?.map fun bytes =>
      "invalid-package-".toList ++ (sha256 bytes).val.take 6 ++ '-' :: content.val.take 12

/-- `_candidate`. -/
def candidateOf (rootName : PyStr) (revision : GitRevision) (files : List PackageManifestFile) :
    Except SkillRaised PackageCandidateIdentity :=
  let content := candidateContentSha256 sha256 (files.map PackageManifestFile.record)
  match candidatePackageId sha256 rootName content with
  | none => .error (.exc .valueError)
  | some t =>
    if h : isIdentifier t = true then .ok ⟨⟨t, h⟩, revision, content⟩
    else .error (.validationError ⟨"PackageCandidateIdentity".toList,
      [("package_id".toList, "String should match pattern '^[a-z0-9]+(?:[._-][a-z0-9]+)*$'".toList)]⟩)

/-- The revision, when it is forty hexadecimal digits. -/
def revision? (s : PyStr) : Option GitRevision :=
  s.encode?.bind fun t => if h : isHexOfLength 40 t = true then some ⟨t, h⟩ else none

/-! ### The validator -/

/-- The package as it is found on disk. -/
structure PackageSource where
  rootName : PyStr
  /-- The root exists, is a directory and no symbolic link; to ask the operating system
  may raise. -/
  isDirectory : Except PyExc Bool
  /-- So is its SKILL.md a regular file. -/
  hasSkillMd : Except PyExc Bool
  root : RootObservation
  distinct : root.Distinct

/-- What the checks of the root and the scan find. -/
structure Inspected where
  files : List PackageManifestFile := []
  identity : Option SkillIdentity := none
  findings : List SkillPackageFinding := []

/-- The findings about the name of the directory. -/
def rootNameFindings (rootName : PyStr) : List SkillPackageFinding :=
  (if rootName.encode? = none then [plainFinding directoryNameNotUtf8] else []) ++
    (if (rootName.encode?.filter isIdentifier) = none then [plainFinding directoryNameNotId] else [])

/-- The branch of `validate_skill_package` that scans. -/
def inspectPackage (source : PackageSource) (policy : SkillValidationPolicy) :
    Except SkillRaised Inspected := do
  let scan ← scanFiles sha256 policy source.root
  let required ← packagePolicyFindings parsers scan.captured policy
  let (identity, entrypoint) ←
    (capturedSkillIdentity parsers source.rootName (scan.captured.lookup skillMdPath) policy).mapError
      SkillRaised.exc
  return ⟨scan.files, identity, scan.findings ++ required ++ entrypoint⟩

/-- The checks of the root, and the scan when they pass. -/
def inspectRoot (source : PackageSource) (policy : SkillValidationPolicy) :
    Except SkillRaised Inspected := do
  let directory ← source.isDirectory.mapError SkillRaised.exc
  if directory = false then return { findings := [plainFinding invalidPackageRoot] }
  else
    let named := rootNameFindings source.rootName
    let skillMd ← source.hasSkillMd.mapError SkillRaised.exc
    if skillMd = false then return { findings := named ++ [findingAt missingSkillMd skillMdPath] }
    else
      let inspected ← inspectPackage parsers sha256 source policy
      return { inspected with findings := named ++ inspected.findings }

/-- `validate_skill_package`. -/
def validateSkillPackage (source : PackageSource) (sourceRevision : PyStr)
    (policy : SkillValidationPolicy := {}) : Except SkillRaised SkillPackageValidation :=
  if policyFindings policy ≠ [] then
    modelCall (construct SkillPackageValidationData.validate
      { status := .blocked, findings := policyFindings policy })
  else do
    let revised :=
      if revision? sourceRevision = none then [plainFinding invalidSourceRevision] else []
    let inspected ← inspectRoot parsers sha256 source policy
    let candidate ←
      match revision? sourceRevision with
      | some revision => some <$> candidateOf sha256 source.rootName revision inspected.files
      | none => pure none
    let findings := revised ++ inspected.findings
    let status := if findings.any (·.severity = .blocker) then .blocked else .pass
    modelCall (construct SkillPackageValidationData.validate
      { candidate := candidate
        status := status
        identity := inspected.identity
        files := inspected.files
        findings := findings })

end SkillsSdk

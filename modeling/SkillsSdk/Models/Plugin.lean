/-
SkillsSdk/Models/Plugin.lean

The capture of a whole plugin: its manifest, its files with their permissions,
and the validation of each direct skill.
-/
import Mathlib.Algebra.GroupWithZero.Nat
import SkillsSdk.SkillValidation

namespace SkillsSdk

open Rx Rx.Regex

variable (sha256 : List UInt8 → Sha256)

/-! ### Paths -/

/-- `_is_skill_entrypoint`. -/
def isSkillEntrypoint (path : Text) : Bool :=
  match path.splitOn '/' with
  | [root, skill, name] => root == "skills".toList && skill != [] && name == "SKILL.md".toList
  | _ => false

/-- `path.rsplit("/", 1)[0]`. -/
def parentText (path : Text) : Text :=
  List.intercalate ['/'] (path.splitOn '/').dropLast

/-- The proper ancestors of a path, the nearest to the root first. -/
def ancestorTexts (path : Text) : List Text :=
  let parts := path.splitOn '/'
  (List.range (parts.length - 1)).map fun i => List.intercalate ['/'] (parts.take (i + 1))

/-- `plugin_candidate_id`. -/
def pluginCandidateId (name : Text) : Text := "plugin-".toList ++ (sha256 (utf8 name)).val

/-! ### Manifest -/

inductive OpenaiSettingsSource where
  | inline
  | compatibility
  | none
  deriving DecidableEq

structure PortablePluginManifestData where
  name : Text
  version : Option Text
  description : Option Text
  sourceSha256 : Sha256
  openaiSettingsSource : OpenaiSettingsSource
  openaiSettingsSha256 : Option Sha256
  deriving DecidableEq

namespace PortablePluginManifestData

/-- `[a-z0-9](?:[a-z0-9.-]*[a-z0-9])?`. -/
def namePattern : Regex Char :=
  seq (cls isLowerAlnum)
    (opt (seq (many (cls fun c => isLowerAlnum c || oneOf ".-" c)) (cls isLowerAlnum)))

def validate (m : PortablePluginManifestData) : Except ValidationError Unit :=
  validateWith "PortablePluginManifest"
    (check (fullmatch namePattern m.name && decide (m.name.length ≤ 64)) "name"
        "String should match pattern '^[a-z0-9](?:[a-z0-9.-]*[a-z0-9])?$'" ++
      check (!search (word "--") m.name && !search (word "..") m.name) "name"
        "portable plugin name cannot contain repeated separators")
    [violation (¬ (m.openaiSettingsSource = .none ↔ m.openaiSettingsSha256 = none))
      "selected settings require exactly one object digest"]

end PortablePluginManifestData

abbrev PortablePluginManifest := Accepted PortablePluginManifestData.validate

structure PluginValidationPolicy where
  requireVersion : Bool
  requireDescription : Bool
  deriving DecidableEq

/-! ### Files and children -/

structure PluginCapturedFileData where
  path : PortablePath
  sha256 : Sha256
  sizeBytes : Nat
  permissionMode : Nat
  deriving DecidableEq

namespace PluginCapturedFileData

def validate (f : PluginCapturedFileData) : Except ValidationError Unit :=
  validateWith "PluginCapturedFile"
    (check (f.sizeBytes ≤ 16 * 1024 * 1024) "size_bytes"
        "Input should be less than or equal to 16777216" ++
      check (f.permissionMode ≤ 0o777) "permission_mode" "Input should be less than or equal to 511") []

def toJson (f : PluginCapturedFileData) : Json :=
  .obj [field "path" (jsonText f.path.val),
    field "sha256" (jsonText f.sha256.val),
    field "size_bytes" (.int f.sizeBytes),
    field "permission_mode" (.int f.permissionMode)]

/-- What the candidate digest reads of a captured file. -/
def record (f : PluginCapturedFileData) : Text × Sha256 := (f.path.val, f.sha256)

end PluginCapturedFileData

abbrev PluginCapturedFile := Accepted PluginCapturedFileData.validate

structure PluginSkillBindingData where
  path : PortablePath
  validation : SkillPackageValidation
  deriving DecidableEq

/-- A direct child of `skills/`. -/
def isDirectSkill (path : Text) : Bool :=
  match path.splitOn '/' with
  | [root, _] => root == "skills".toList
  | _ => false

def PluginSkillBindingData.validate (b : PluginSkillBindingData) : Except ValidationError Unit :=
  validateWith "PluginSkillBinding"
    (check (isDirectSkill b.path.val) "path" "plugin skills must be direct children of skills/") []

abbrev PluginSkillBinding := Accepted PluginSkillBindingData.validate

/-- The path inside a directory, for a path below it. -/
def relativeTo (directory : Text) (path : Text) : Option Text :=
  (directory ++ ['/']).isPrefixOf path |> fun below =>
    if below then some (path.drop (directory.length + 1)) else none

/-- What a capture and a child validation both record of a file. -/
abbrev ChildRecord := Text × Sha256 × Nat × PackageFileRole

/-- `_validate_child`. -/
def validateChild (binding : PluginSkillBinding) (files : List PluginCapturedFile)
    (revision : GitRevision) : List (Bool × String) :=
  let child := binding.val.validation.val
  let leaf := ((binding.val.path.val.splitOn '/')[1]?).getD []
  let expected : List ChildRecord := files.filterMap fun f =>
    (relativeTo binding.val.path.val f.val.path.val).map fun path =>
      (path, f.val.sha256, f.val.sizeBytes, fileRole path)
  let actual : List ChildRecord := child.files.map fun f => (f.path.val, f.sha256, f.sizeBytes, f.role)
  [violation (expected ≠ actual ∨ child.candidate = none)
      "child validation must cover its entire captured subtree",
    violation (child.candidate.any fun c => !decide (c.sourceRevision = revision ∧
        c.contentSha256 = candidateContentSha256 sha256 (child.files.map PackageManifestFile.record)))
      "child candidate must bind captured content and revision",
    violation (child.candidate.any fun c =>
        !decide (candidatePackageId sha256 (PyStr.ofText leaf) c.contentSha256 = some c.packageId.val))
      "child candidate must match the direct skill directory",
    violation (child.identity.any fun i => !decide (i.val.name.val = leaf ∧
        child.candidate.map (·.packageId) = some i.val.packageId))
      "child identity must bind the direct skill name"]

/-! ### Whole plugins -/

structure PluginPackageValidationData where
  status : VerificationStatus
  candidate : Option PackageCandidateIdentity := none
  manifest : Option PortablePluginManifest := none
  policy : PluginValidationPolicy := ⟨false, false⟩
  files : List PluginCapturedFile := []
  modeManifestSha256 : Option Sha256 := none
  skills : List PluginSkillBinding := []
  findings : List SkillPackageFinding := []
  deriving DecidableEq

namespace PluginPackageValidationData

def paths (v : PluginPackageValidationData) : List Text := v.files.map (·.val.path.val)

/-- A finding of this code and severity is retained. -/
def retains (v : PluginPackageValidationData) (code : String) (severity : ValidationSeverity) : Bool :=
  v.findings.any fun f => f.code.val == code.toList && f.severity == severity

/-- `_validate_component_kinds`. -/
def componentKinds (v : PluginPackageValidationData) : List (Bool × String) :=
  let invalidKind := v.paths.any fun path =>
    path == "skills".toList || "mcp.json/".toList.isPrefixOf path ||
      (decide (3 < (path.splitOn '/').length) &&
        isSkillEntrypoint (List.intercalate ['/'] ((path.splitOn '/').take 3)))
  [violation (invalidKind = true ∧ v.retains "plugin_component_kind_invalid" .blocker = false)
    "captured component kinds require their blocker finding"]

/-- A text that a policy requires is absent or blank. -/
def lacks (required : Bool) (text : Option Text) : Bool := required && strip (text.getD []) == []

/-- `_validate_retained_findings`. -/
def retainedFindings (v : PluginPackageValidationData) (manifest : PortablePluginManifest) :
    List (Bool × String) :=
  let required : List (Bool × String × ValidationSeverity) :=
    [(decide ("mcp.json".toList ∈ v.paths), "plugin_mcp_not_assessed", .warning),
      (v.skills.any fun s => s.val.validation.val.status = .blocked, "plugin_child_blocked", .blocker),
      (lacks v.policy.requireVersion manifest.val.version, "sdk_plugin_version_required", .blocker),
      (lacks v.policy.requireDescription manifest.val.description, "sdk_plugin_description_required",
        .blocker)]
  [violation (required.any fun r => r.1 && !v.retains r.2.1 r.2.2)
    "plugin evidence must retain its required typed findings"]

/-- The rules of a bound capture. -/
def boundCapture (v : PluginPackageValidationData) (candidate : PackageCandidateIdentity)
    (manifest : PortablePluginManifest) : List (Bool × String) :=
  let entrypoints := v.paths.filter isSkillEntrypoint
  let overlay := ".codex-plugin/plugin.json".toList
  [violation (¬ v.paths.Pairwise (· < ·) ∨ "plugin.json".toList ∉ v.paths)
      "plugin capture requires unique sorted paths and root plugin.json"] ++
  v.componentKinds ++
  [violation (v.paths.any fun path => (ancestorTexts path).any fun a => decide (a ∈ v.paths))
      "captured file cannot also be a directory ancestor",
    violation ((v.files.map (·.val.sizeBytes)).sum > 64 * 1024 * 1024)
      "plugin capture exceeds its byte budget",
    violation (candidate.packageId.val ≠ pluginCandidateId sha256 manifest.val.name)
      "plugin candidate must bind the canonical portable name",
    violation (candidate.contentSha256 ≠ candidateContentSha256 sha256 (v.files.map (·.val.record)))
      "plugin candidate digest must bind the complete capture",
    violation (v.modeManifestSha256 ≠
        some (canonicalJsonSha256 sha256 (jsonList (·.val.toJson) v.files)))
      "plugin permissions require the exact captured mode digest",
    violation ((v.files.find? (·.val.path.val = "plugin.json".toList)).map (·.val.sha256) ≠
        some manifest.val.sourceSha256)
      "manifest projection must bind captured root bytes",
    violation (manifest.val.openaiSettingsSource = .compatibility ∧ overlay ∉ v.paths)
      "compatibility settings require the captured overlay",
    violation (overlay ∈ v.paths ∧ manifest.val.openaiSettingsSource = .none)
      "captured overlay must be selected or superseded by inline settings",
    violation (v.skills.map (·.val.path.val) ≠ (entrypoints.map parentText).mergeSort)
      "retained children must equal all discovered immediate skills"] ++
  v.skills.flatMap (fun s => validateChild sha256 s v.files candidate.sourceRevision) ++
  v.retainedFindings manifest

/-- `PluginPackageValidation.bind_capture`. -/
def bindCapture (v : PluginPackageValidationData) : List (Bool × String) :=
  violation (¬ (v.status = .blocked ↔ v.findings.any (·.severity = .blocker) = true))
      "plugin status must agree with blocker findings" ::
  match v.candidate with
  | none =>
    [violation (v.status ≠ .blocked ∨ v.manifest ≠ none ∨ v.files ≠ [] ∨ v.skills ≠ [] ∨
        v.modeManifestSha256 ≠ none) "unbound plugin input must be an empty blocked capture"]
  | some candidate =>
    match v.manifest with
    | none => [violation True "bound plugin validation requires root manifest and files"]
    | some manifest =>
      violation (v.files = []) "bound plugin validation requires root manifest and files" ::
        v.boundCapture sha256 candidate manifest

def validate (v : PluginPackageValidationData) : Except ValidationError Unit :=
  validateWith "PluginPackageValidation"
    (check (v.files.length ≤ 1024) "files" "Tuple should have at most 1024 items" ++
      check (v.skills.length ≤ 128) "skills" "Tuple should have at most 128 items" ++
      check (v.findings.length ≤ 2048) "findings" "Tuple should have at most 2048 items")
    (v.bindCapture sha256)

end PluginPackageValidationData

abbrev PluginPackageValidation := Accepted (PluginPackageValidationData.validate sha256)

end SkillsSdk

/-
SkillsSdk/SkillScan.lean

The scan of a package directory: `_scan_files`.

The directory is given as it is observed, a tree whose leaves say what the
operating system answers for them, with the entries of a directory in the order
of `sorted(os.scandir(…))`.  The scan walks it with early exits; `round` is the
decision that the loop makes about one entry.

`Captures` says which entries the scan captures, and `Causes` which finding an
entry itself causes.  The walk is accounted for entry by entry
(`visitEntries_spec`): every entry is descended into, captured, or reported at
it or above it.  It raises at a finding that would print a limit with too many
digits (`Unprintable`), and at no other entry.
-/
import SkillsSdk.Lib.NamedTree
import SkillsSdk.Raising
import SkillsSdk.SkillIr

namespace SkillsSdk

open NamedTree

/-! ### What is observed -/

/-- `_read_regular_bytes`: it raises an `OSError`, or returns the bytes and
whether the file kept its size, time and inode. -/
inductive ReadOutcome where
  | failed
  | read (payload : List UInt8) (stable : Bool)
  deriving DecidableEq

/-- An entry that is no listed directory. -/
inductive Observation where
  | regular (outcome : ReadOutcome)
  | symlink
  /-- A device, a socket or a pipe. -/
  | special
  /-- A directory that `os.open` fails on. -/
  | unopened
  /-- A directory that `os.scandir` fails on. -/
  | unlisted
  deriving DecidableEq

/-- A listed directory carries whether it changed while it was visited. -/
abbrev PackageNode := Node FileName Observation Bool

abbrev PackageEntries := Entries FileName Observation Bool

/-- The package root. -/
inductive RootObservation where
  | unsupported
  | unopened
  | unlisted
  | listed (changed : Bool) (entries : PackageEntries)

/-- The entries of every directory have different names. -/
def RootObservation.Distinct : RootObservation → Prop
  | .listed _ entries => entries.Distinct
  | _ => True

/-- `entry.is_symlink()`. -/
def isSymlinkEntry : PackageNode → Bool
  | .leaf .symlink => true
  | _ => false

/-- `entry.is_dir(follow_symlinks=False)`. -/
def isDirectoryEntry : PackageNode → Bool
  | .leaf .unopened => true
  | .leaf .unlisted => true
  | .leaf _ => false
  | .dir _ _ => true

/-! ### The policy -/

structure SkillValidationPolicy where
  maxEntrypointLines : Option Int := none
  maxReferenceDepth : Option Int := none
  allowedFrontmatter : List PyStr :=
    ["name", "description", "version", "license", "compatibility", "allowed-tools", "metadata",
      "triggers"].map PyStr.lit
  requiredFiles : List PyStr := []
  checkReferenceContent : Bool := false

def maxPackageDirectoryDepth : Nat := 64

/-! ### Findings of the scan -/

def invalidPackagePath : FindingText :=
  (literal "invalid_package_path" (by decide +kernel),
    literal "package filenames must be portable POSIX paths" (by decide +kernel))

def unsafePackageDirectory : FindingText :=
  (literal "unsafe_package_directory" (by decide +kernel),
    literal "runtime and source-control directories cannot enter a package" (by decide +kernel))

def symlinkNotAllowed : FindingText :=
  (literal "symlink_not_allowed" (by decide +kernel),
    literal "package paths must not be symbolic links" (by decide +kernel))

def packageDepthExceeded : FindingText :=
  (literal "package_depth_exceeded" (by decide +kernel),
    literal "package directory depth exceeds 64" (by decide +kernel))

def unreadablePackageDirectory : FindingText :=
  (literal "unreadable_package_directory" (by decide +kernel),
    literal "package directory must remain readable" (by decide +kernel))

def unsafePackageFile : FindingText :=
  (literal "unsafe_package_file" (by decide +kernel),
    literal "credential-like files cannot enter a package" (by decide +kernel))

def unreadablePackageFile : FindingText :=
  (literal "unreadable_package_file" (by decide +kernel),
    literal "package file must remain a readable regular file" (by decide +kernel))

def sourceChanged : FindingText :=
  (literal "source_changed" (by decide +kernel),
    literal "package source changed during validation" (by decide +kernel))

def directoryChanged : FindingText :=
  (sourceChanged.1, literal "package directory changed during validation" (by decide +kernel))

def unsupportedPlatform : FindingText :=
  (literal "unsupported_platform" (by decide +kernel),
    literal "host cannot enforce safe descriptor-relative traversal" (by decide +kernel))

def unreadablePackageRoot : FindingText :=
  (literal "unreadable_package_root" (by decide +kernel),
    literal "package root must support safe descriptor traversal" (by decide +kernel))

def referenceDepthExceeded : BlockerCode := literal "reference_depth_exceeded" (by decide +kernel)

/-! ### The scan -/

/-- What escapes the validator. -/
inductive SkillRaised where
  | validationError (e : ValidationError)
  | exc (e : PyExc)
  deriving DecidableEq

/-- A model call outside every handler. -/
def modelCall {α : Type*} (x : Except ValidationError α) : Except SkillRaised α :=
  x.mapError .validationError

/-- What a part of the scan adds to the records, the findings and the captured bytes. -/
structure Scan where
  files : List PackageManifestFile := []
  findings : List SkillPackageFinding := []
  captured : List (PortablePath × List UInt8) := []

def Scan.append (s t : Scan) : Scan :=
  ⟨s.files ++ t.files, s.findings ++ t.findings, s.captured ++ t.captured⟩

/-- `findings.append(_finding(…))`. -/
def report (text : FindingText) (refs : List PyStr) : Except SkillRaised Scan := do
  return { findings := [← modelCall (finding text refs)] }

/-- What the loop decides about an entry. -/
inductive Round where
  | refuse (text : FindingText) (refs : List PyStr)
  | descend
  | file
  deriving DecidableEq

/-- The checks of the loop of `visit` on an entry of the directory `relative`. -/
def round (relative : List FileName) (name : FileName) (depth : Nat) (node : PackageNode) : Round :=
  let path := relative ++ [name]
  if portable? (asPosix path) = none then .refuse invalidPackagePath []
  else if name.val.lower ∈ unsafePackageDirectories then .refuse unsafePackageDirectory [asPosix path]
  else if isSymlinkEntry node then .refuse symlinkNotAllowed [asPosix path]
  else if isDirectoryEntry node then
    if maxPackageDirectoryDepth ≤ depth then .refuse packageDepthExceeded [asPosix path] else .descend
  else .file

/-- `_source_changed_finding`. -/
def changedFindings (changed : Bool) (relative : List FileName) : Except SkillRaised Scan :=
  if changed then report directoryChanged (if relative = [] then [] else [asPosix relative])
  else .ok {}

/-- The finding of a file below `references` that is nested too deep. -/
def referenceDepthFindings (policy : SkillValidationPolicy) (path : List FileName) :
    Except SkillRaised Scan :=
  match policy.maxReferenceDepth with
  | none => .ok {}
  | some limit =>
    let depth : Nat := path.length - 1
    if path.head?.map Subtype.val = some (PyStr.lit "references") ∧ limit < depth then do
      let shown ← (reprInt limit).mapError SkillRaised.exc
      let message := PyStr.lit (s!"reference depth {depth} exceeds configured limit ") ++ PyStr.ofText shown
      return { findings := [← modelCall (findingSaying referenceDepthExceeded message [asPosix path])] }
    else .ok {}

variable (sha256 : List UInt8 → Sha256)

/-- The record of captured bytes. -/
def fileRecord (path : PortablePath) (payload : List UInt8) : PackageManifestFile :=
  ⟨path, sha256 payload, payload.length, fileRole path.val⟩

/-- `_regular_file`. -/
def regularFile (path : List FileName) (name : FileName) (o : Observation) :
    Except SkillRaised Scan :=
  match portable? (asPosix path) with
  | none => report invalidPackagePath []
  | some relative =>
    if unsafePackageFileReason name.val ≠ none then report unsafePackageFile [asPosix path]
    else
      match o with
      | .regular (.read payload stable) =>
        if stable then
          .ok { files := [fileRecord sha256 relative payload], captured := [(relative, payload)] }
        else report sourceChanged [asPosix path]
      | _ => report unreadablePackageFile [asPosix path]

variable (policy : SkillValidationPolicy)

mutual

/-- The loop of `visit`. -/
def visitEntries : PackageEntries → List FileName → Nat → Except SkillRaised Scan
  | .nil, _, _ => .ok {}
  | .cons name node rest, relative, depth => do
    let first ← visitEntry node name relative depth
    let others ← visitEntries rest relative depth
    return first.append others

/-- One round of the loop of `visit`. -/
def visitEntry : PackageNode → FileName → List FileName → Nat → Except SkillRaised Scan
  | .leaf o, name, relative, depth =>
    let path := relative ++ [name]
    match round relative name depth (.leaf o) with
    | .refuse text refs => report text refs
    | .descend => report unreadablePackageDirectory [asPosix path]
    | .file => do
      let nested ← referenceDepthFindings policy path
      let taken ← regularFile sha256 path name o
      return nested.append taken
  | .dir changed entries, name, relative, depth =>
    let path := relative ++ [name]
    match round relative name depth (.dir changed entries) with
    | .refuse text refs => report text refs
    | _ => do
      let inside ← visitEntries entries path (depth + 1)
      let drift ← changedFindings changed path
      return inside.append drift

end

/-- The walk of the root: `visit(root_fd, Path(), 0)`, when the root opens. -/
def visitRoot : RootObservation → Except SkillRaised Scan
  | .unsupported => report unsupportedPlatform []
  | .unopened => report unreadablePackageRoot []
  | .unlisted => report unreadablePackageDirectory [asPosix []]
  | .listed changed entries => do
    let inside ← visitEntries sha256 policy entries [] 0
    let drift ← changedFindings changed []
    return inside.append drift

/-- The order of records by path. -/
def PathLe (a b : PackageManifestFile) : Prop := a.path.val ≤ b.path.val

instance : DecidableRel PathLe := fun a b => inferInstanceAs (Decidable (a.path.val ≤ b.path.val))

/-- `files.sort(key=lambda item: item.path)`. -/
def sortFiles (files : List PackageManifestFile) : List PackageManifestFile :=
  files.insertionSort PathLe

/-- `_scan_files`. -/
def scanFiles (root : RootObservation) : Except SkillRaised Scan := do
  let scan ← visitRoot sha256 policy root
  return { scan with files := sortFiles scan.files }

/-! ### What the loop meets -/

/-- The loop has a round for the entry `name` of the directory `parent`, when it
walks the entries `es` of the directory `relative`. -/
inductive Met : PackageEntries → List FileName → List FileName → FileName → PackageNode → Prop
  | here {es : PackageEntries} {relative : List FileName} {name : FileName} {node : PackageNode} :
      es.Has name node → Met es relative relative name node
  | inside {es sub : PackageEntries} {relative parent : List FileName} {name m : FileName}
      {changed : Bool} {node : PackageNode} :
      es.Has name (.dir changed sub) →
      round relative name relative.length (.dir changed sub) = .descend →
      Met sub (relative ++ [name]) parent m node → Met es relative parent m node

/-- The round of this entry captures the bytes under the path. -/
structure Captures (parent : List FileName) (name : FileName) (node : PackageNode)
    (path : PortablePath) (payload : List UInt8) : Prop where
  regular : node = .leaf (.regular (.read payload true))
  round_eq : round parent name parent.length node = .file
  safe : unsafePackageFileReason name.val = none
  path_eq : portable? (asPosix (parent ++ [name])) = some path

/-- The round of this entry descends into the directory. -/
def Descends (parent : List FileName) (name : FileName) (node : PackageNode) : Prop :=
  (∃ changed sub, node = .dir changed sub) ∧ round parent name parent.length node = .descend

/-- The round of this entry reports the finding instead of taking the entry. -/
inductive Causes (parent : List FileName) (name : FileName) (node : PackageNode) :
    SkillPackageFinding → Prop
  | refused {text : FindingText} {refs : List PyStr} {f : SkillPackageFinding} :
      round parent name parent.length node = .refuse text refs → finding text refs = .ok f →
      Causes parent name node f
  | unreadable {o : Observation} {f : SkillPackageFinding} : node = .leaf o →
      round parent name parent.length node = .descend →
      finding unreadablePackageDirectory [asPosix (parent ++ [name])] = .ok f →
      Causes parent name node f
  | file {o : Observation} {scan : Scan} {f : SkillPackageFinding} : node = .leaf o →
      round parent name parent.length node = .file →
      regularFile sha256 (parent ++ [name]) name o = .ok scan → f ∈ scan.findings →
      Causes parent name node f

/-- The finding of this round would print a limit that has too many digits. -/
structure Unprintable (parent : List FileName) (name : FileName) (node : PackageNode) : Prop where
  leaf : ∃ o, node = .leaf o
  round_eq : round parent name parent.length node = .file
  below : (parent ++ [name]).head?.map Subtype.val = some (PyStr.lit "references")
  long : ∃ limit, policy.maxReferenceDepth = some limit ∧ limit < ((parent ++ [name]).length - 1 : Nat) ∧
    isLongInt limit = true

variable {sha256 policy}

theorem met_cons_iff {name m : FileName} {first node : PackageNode} {rest : PackageEntries}
    {relative parent : List FileName} :
    Met (.cons name first rest) relative parent m node ↔
      (parent = relative ∧ m = name ∧ node = first) ∨
        (∃ changed sub, first = .dir changed sub ∧
          round relative name relative.length first = .descend ∧
          Met sub (relative ++ [name]) parent m node) ∨
        Met rest relative parent m node := by
  constructor
  · intro h
    cases h with
    | here h =>
      rcases h with ⟨rfl, rfl⟩ | h
      · exact Or.inl ⟨rfl, rfl, rfl⟩
      · exact Or.inr (Or.inr (.here h))
    | inside h hround hmet =>
      rcases h with ⟨rfl, rfl⟩ | h
      · exact Or.inr (Or.inl ⟨_, _, rfl, hround, hmet⟩)
      · exact Or.inr (Or.inr (.inside h hround hmet))
  · rintro (⟨rfl, rfl, rfl⟩ | ⟨changed, sub, rfl, hround, hmet⟩ | h)
    · exact .here (Or.inl ⟨rfl, rfl⟩)
    · exact .inside (Or.inl ⟨rfl, rfl⟩) hround hmet
    · cases h with
      | here h => exact .here (Or.inr h)
      | inside h hround hmet => exact .inside (Or.inr h) hround hmet

/-- What is met lies below the walked directory, under the name of an entry. -/
theorem Met.extends {es : PackageEntries} {relative parent : List FileName} {m : FileName}
    {node : PackageNode} (h : Met es relative parent m node) :
    ∃ name ∈ es.names, relative ++ [name] <+: parent ++ [m] := by
  induction h with
  | here h => exact ⟨_, h.mem_names, List.prefix_refl _⟩
  | inside h _ _ ih =>
    obtain ⟨_, -, hext⟩ := ih
    exact ⟨_, h.mem_names, (List.prefix_append _ _).trans hext⟩

/-- A round that does not refuse the path has a portable one. -/
theorem portable_of_round {relative : List FileName} {name : FileName} {depth : Nat}
    {node : PackageNode} {r : Round} (h : round relative name depth node = r)
    (hr : r ≠ .refuse invalidPackagePath []) :
    ∃ path, portable? (asPosix (relative ++ [name])) = some path := by
  rcases hp : portable? (asPosix (relative ++ [name])) with - | path
  · exact absurd (h.symm.trans (if_pos hp)) hr
  · exact ⟨path, rfl⟩

/-- What a round refuses, it can report. -/
theorem finding_of_refuse {relative : List FileName} {name : FileName} {depth : Nat}
    {node : PackageNode} {text : FindingText} {refs : List PyStr}
    (h : round relative name depth node = .refuse text refs) :
    ∃ f, finding text refs = .ok f ∧ f.severity = .blocker := by
  rw [round] at h
  split_ifs at h with h₁ h₂ h₃ h₄ h₅
  · obtain ⟨rfl, rfl⟩ := Round.refuse.inj h
    exact ⟨_, finding_nil _, rfl⟩
  all_goals
    obtain ⟨path, hp⟩ := Option.ne_none_iff_exists'.mp h₁
    obtain ⟨rfl, rfl⟩ := Round.refuse.inj h
    exact ⟨_, finding_of_portable hp _, rfl⟩

theorem round_dir_ne_file {relative : List FileName} {name : FileName} {depth : Nat} {changed : Bool}
    {sub : PackageEntries} : round relative name depth (.dir changed sub) ≠ .file := by
  rw [round]
  split_ifs <;> simp_all [isDirectoryEntry]

theorem report_eq_of_finding {text : FindingText} {refs : List PyStr} {f : SkillPackageFinding}
    (h : finding text refs = .ok f) : report text refs = .ok { findings := [f] } := by
  rw [report, h]
  rfl

theorem reprInt_of_long {i : Int} (h : isLongInt i = true) : reprInt i = .error .valueError := if_pos h

theorem reprInt_of_not_long {i : Int} (h : isLongInt i = false) : reprInt i = .ok (toString i).toList :=
  if_neg (by simp [h])

/-! ### Accounting for a part of the scan -/

/-- The scan has the records of what it captured, captured what the rounds it
met capture, and reports what they cause. -/
structure Accounts (sha256 : List UInt8 → Sha256)
    (met : List FileName → FileName → PackageNode → Prop) (scan : Scan) : Prop where
  files_eq : scan.files = scan.captured.map fun c => fileRecord sha256 c.1 c.2
  captured_iff : ∀ path payload, (path, payload) ∈ scan.captured ↔
    ∃ parent name node, met parent name node ∧ Captures parent name node path payload
  reported : ∀ parent name node f, met parent name node → Causes sha256 parent name node f →
    f ∈ scan.findings
  blockers : ∀ f ∈ scan.findings, f.severity = .blocker
  keys_nodup : (scan.captured.map Prod.fst).Nodup

section

variable {met met' : List FileName → FileName → PackageNode → Prop} {scan other : Scan}

theorem Accounts.congr (h : Accounts sha256 met scan)
    (hmet : ∀ parent name node, met' parent name node ↔ met parent name node) :
    Accounts sha256 met' scan := by
  obtain rfl : met' = met := by
    funext parent name node
    exact propext (hmet parent name node)
  exact h

/-- Two parts that capture different paths are accounted for together. -/
theorem Accounts.append (h : Accounts sha256 met scan) (h' : Accounts sha256 met' other)
    (hdisjoint : ∀ path ∈ scan.captured.map Prod.fst, path ∉ other.captured.map Prod.fst) :
    Accounts sha256 (fun parent name node => met parent name node ∨ met' parent name node)
      (scan.append other) where
  files_eq := by
    show scan.files ++ other.files = (scan.captured ++ other.captured).map _
    rw [h.files_eq, h'.files_eq, List.map_append]
  captured_iff path payload := by
    show (path, payload) ∈ scan.captured ++ other.captured ↔ _
    rw [List.mem_append, h.captured_iff, h'.captured_iff]
    constructor
    · rintro (⟨parent, name, node, hmet, hc⟩ | ⟨parent, name, node, hmet, hc⟩)
      · exact ⟨parent, name, node, Or.inl hmet, hc⟩
      · exact ⟨parent, name, node, Or.inr hmet, hc⟩
    · rintro ⟨parent, name, node, hmet | hmet, hc⟩
      · exact Or.inl ⟨parent, name, node, hmet, hc⟩
      · exact Or.inr ⟨parent, name, node, hmet, hc⟩
  reported parent name node f hmet hf := by
    rcases hmet with hmet | hmet
    · exact List.mem_append_left _ (h.reported parent name node f hmet hf)
    · exact List.mem_append_right _ (h'.reported parent name node f hmet hf)
  blockers f hf := by
    rcases List.mem_append.mp hf with hf | hf
    · exact h.blockers f hf
    · exact h'.blockers f hf
  keys_nodup := by
    show ((scan.captured ++ other.captured).map Prod.fst).Nodup
    rw [List.map_append, List.nodup_append]
    refine ⟨h.keys_nodup, h'.keys_nodup, ?_⟩
    rintro path hpath _ hpath' rfl
    exact hdisjoint path hpath hpath'

/-- A part that captures nothing and meets nothing. -/
theorem accounts_of_findings {fs : List SkillPackageFinding} (h : ∀ f ∈ fs, f.severity = .blocker) :
    Accounts sha256 (fun _ _ _ => False) { findings := fs } where
  files_eq := rfl
  captured_iff path payload := by simp
  reported _ _ _ _ hmet := hmet.elim
  blockers := h
  keys_nodup := List.nodup_nil

/-- Adding findings of rounds that are accounted for already. -/
theorem Accounts.add_findings (h : Accounts sha256 met scan) {fs : List SkillPackageFinding}
    (hfs : ∀ f ∈ fs, f.severity = .blocker) :
    Accounts sha256 met (scan.append { findings := fs }) :=
  (h.append (accounts_of_findings hfs) (by simp)).congr fun _ _ _ => by rw [or_false]

end

/-- The only round that is met is this one, and it reports one finding. -/
theorem accounts_of_report {relative : List FileName} {name : FileName} {node : PackageNode}
    {f : SkillPackageFinding} (hf : f.severity = .blocker)
    (hcaptures : ∀ path payload, ¬ Captures relative name node path payload)
    (hcauses : ∀ g, Causes sha256 relative name node g → g = f) :
    Accounts sha256 (fun parent m x => parent = relative ∧ m = name ∧ x = node)
      { findings := [f] } where
  files_eq := rfl
  captured_iff path payload := by
    refine iff_of_false (by simp) ?_
    rintro ⟨_, _, _, ⟨rfl, rfl, rfl⟩, hc⟩
    exact hcaptures path payload hc
  reported := by
    rintro _ _ _ g ⟨rfl, rfl, rfl⟩ hg
    rw [hcauses g hg]
    exact List.mem_singleton.mpr rfl
  blockers g hg := by
    rw [List.mem_singleton.mp hg]
    exact hf
  keys_nodup := List.nodup_nil

/-! ### The parts of a round -/

theorem changedFindings_spec (changed : Bool) {relative : List FileName}
    (h : relative = [] ∨ ∃ path, portable? (asPosix relative) = some path) :
    ∃ fs, changedFindings changed relative = .ok { findings := fs } ∧
      (∀ f ∈ fs, f.severity = .blocker) ∧ (changed = true → fs ≠ []) := by
  cases changed with
  | false => exact ⟨[], rfl, by simp, by simp⟩
  | true =>
    rw [changedFindings, if_pos rfl]
    by_cases hnil : relative = []
    · rw [if_pos hnil]
      exact ⟨_, report_eq_of_finding (finding_nil _), by simp, by simp⟩
    · obtain ⟨path, hpath⟩ := h.resolve_left hnil
      rw [if_neg hnil]
      exact ⟨_, report_eq_of_finding (finding_of_portable hpath _), by simp, by simp⟩

/-- The finding about the depth of a path, unless it would print too many digits. -/
theorem referenceDepthFindings_spec (policy : SkillValidationPolicy) {path : List FileName}
    {p : PortablePath} (hp : portable? (asPosix path) = some p)
    (hprints : path.head?.map Subtype.val = some (PyStr.lit "references") →
      ∀ limit, policy.maxReferenceDepth = some limit → limit < (path.length - 1 : Nat) →
        isLongInt limit = false) :
    ∃ fs, referenceDepthFindings policy path = .ok { findings := fs } ∧
      ∀ f ∈ fs, f.severity = .blocker := by
  rw [referenceDepthFindings]
  split
  · exact ⟨[], rfl, by simp⟩
  · rename_i limit hlimit
    dsimp only
    split_ifs with hdeep
    -- the message has a letter, so the model takes it
    · have hr : 'r' ∈
          (s!"reference depth {path.length - 1} exceeds configured limit ").toList ++ (toString limit).toList := by
        simp only [String.toList_append, List.mem_append]
        exact Or.inl (Or.inl (Or.inl (by decide)))
      obtain ⟨m, hm⟩ := nonEmptyText?_isSome (PyStr.encode?_ofText _) ⟨'r', hr, by decide⟩
      refine ⟨[⟨referenceDepthExceeded, .blocker, m, [p]⟩], ?_, by simp⟩
      have hmessage : PyStr.lit (s!"reference depth {path.length - 1} exceeds configured limit ") ++
          PyStr.ofText (toString limit).toList = PyStr.ofText _ := List.map_append.symm
      rw [reprInt_of_not_long (hprints hdeep.1 limit hlimit hdeep.2)]
      show (do
        return ({ findings := [← modelCall (findingSaying referenceDepthExceeded (_ ++ _) [asPosix path])] } : Scan))
          = _
      rw [hmessage, findingSaying_of_portable hm hp]
      rfl
    · exact ⟨[], rfl, by simp⟩

/-- A file of a portable path is captured, or it is refused with a finding. -/
theorem regularFile_spec (sha256 : List UInt8 → Sha256) {path : List FileName} {p : PortablePath}
    (hp : portable? (asPosix path) = some p) (name : FileName) (o : Observation) :
    (∃ payload, o = .regular (.read payload true) ∧ unsafePackageFileReason name.val = none ∧
      regularFile sha256 path name o =
        .ok { files := [fileRecord sha256 p payload], captured := [(p, payload)] }) ∨
    ((∀ payload, o = .regular (.read payload true) → unsafePackageFileReason name.val ≠ none) ∧
      ∃ f, regularFile sha256 path name o = .ok { findings := [f] } ∧ f.severity = .blocker) := by
  rw [regularFile, hp]
  dsimp only
  by_cases hsafe : unsafePackageFileReason name.val = none
  · rw [if_neg (not_not.mpr hsafe)]
    split
    · rename_i payload stable
      cases stable with
      | true => exact Or.inl ⟨payload, rfl, hsafe, rfl⟩
      | false =>
        refine Or.inr ⟨by simp, _, report_eq_of_finding (finding_of_portable hp _), rfl⟩
    · rename_i hother
      refine Or.inr ⟨?_, _, report_eq_of_finding (finding_of_portable hp _), rfl⟩
      rintro payload rfl
      exact absurd rfl (hother payload true)
  · rw [if_pos hsafe]
    exact Or.inr ⟨fun _ _ => hsafe, _, report_eq_of_finding (finding_of_portable hp _), rfl⟩

/-- Every entry that the loop meets is descended into, captured or reported. -/
theorem round_outcome (sha256 : List UInt8 → Sha256) (relative : List FileName) (name : FileName) (node : PackageNode) :
    Descends relative name node ∨ (∃ path payload, Captures relative name node path payload) ∨
      ∃ f, Causes sha256 relative name node f := by
  rcases hround : round relative name relative.length node with ⟨text, refs⟩ | - | -
  · obtain ⟨f, hf, -⟩ := finding_of_refuse hround
    exact Or.inr (Or.inr ⟨f, .refused hround hf⟩)
  · rcases node with o | ⟨changed, sub⟩
    · obtain ⟨path, hp⟩ := portable_of_round hround (by simp)
      exact Or.inr (Or.inr ⟨_, .unreadable rfl hround (finding_of_portable hp _)⟩)
    · exact Or.inl ⟨⟨changed, sub, rfl⟩, hround⟩
  · rcases node with o | ⟨changed, sub⟩
    · obtain ⟨path, hp⟩ := portable_of_round hround (by simp)
      rcases regularFile_spec sha256 hp name o with ⟨payload, rfl, hsafe, -⟩ | ⟨-, f, hf, -⟩
      · exact Or.inr (Or.inl ⟨path, payload, rfl, hround, hsafe, hp⟩)
      · exact Or.inr (Or.inr ⟨f, .file rfl hround hf (List.mem_singleton.mpr rfl)⟩)
    · exact absurd hround round_dir_ne_file

/-! ### The walk -/

/-- What the round of a leaf adds. -/
theorem visitLeaf_spec (o : Observation) (name : FileName) (relative : List FileName)
    (hprints : ¬ Unprintable policy relative name (.leaf o)) :
    ∃ scan, visitEntry sha256 policy (.leaf o) name relative relative.length = .ok scan ∧
      Accounts sha256 (fun parent m x => parent = relative ∧ m = name ∧ x = .leaf o) scan := by
  rw [visitEntry]
  rcases hround : round relative name relative.length (.leaf o) with ⟨text, refs⟩ | - | -
  -- refused: the finding is the only cause
  · obtain ⟨f, hf, hblocker⟩ := finding_of_refuse hround
    refine ⟨_, report_eq_of_finding hf, accounts_of_report hblocker ?_ ?_⟩
    · intro path payload hc
      exact absurd (hround.symm.trans hc.round_eq) (by simp)
    · intro g hg
      cases hg with
      | refused hround' hg =>
        obtain ⟨rfl, rfl⟩ := Round.refuse.inj (hround.symm.trans hround')
        exact Except.ok.inj (hg.symm.trans hf)
      | unreadable _ hround' _ => exact absurd (hround.symm.trans hround') (by simp)
      | file _ hround' _ _ => exact absurd (hround.symm.trans hround') (by simp)
  -- a directory that cannot be opened
  · obtain ⟨path, hp⟩ := portable_of_round hround (by simp)
    refine ⟨_, report_eq_of_finding (finding_of_portable hp _), accounts_of_report rfl ?_ ?_⟩
    · intro path payload hc
      exact absurd (hround.symm.trans hc.round_eq) (by simp)
    · intro g hg
      cases hg with
      | refused hround' _ => exact absurd (hround.symm.trans hround') (by simp)
      | unreadable _ _ hg => exact Except.ok.inj (hg.symm.trans (finding_of_portable hp _))
      | file _ hround' _ _ => exact absurd (hround.symm.trans hround') (by simp)
  -- a file: the finding for its depth does not keep it from being captured
  · obtain ⟨path, hp⟩ := portable_of_round hround (by simp)
    obtain ⟨fs, hfs, hblockers⟩ := referenceDepthFindings_spec policy hp fun hbelow limit hlimit hdeep =>
      Bool.eq_false_iff.mpr fun hlong => hprints ⟨⟨o, rfl⟩, hround, hbelow, limit, hlimit, hdeep, hlong⟩
    have hsource : ∀ g scan, Causes sha256 relative name (.leaf o) g →
        regularFile sha256 (relative ++ [name]) name o = .ok scan → g ∈ scan.findings := by
      intro g scan hg hscan
      cases hg with
      | refused hround' _ => exact absurd (hround.symm.trans hround') (by simp)
      | unreadable _ hround' _ => exact absurd (hround.symm.trans hround') (by simp)
      | file heq _ hscan' hmem =>
        obtain rfl := Node.leaf.inj heq
        rw [hscan] at hscan'
        rw [Except.ok.inj hscan']
        exact hmem
    dsimp only
    rw [hfs]
    rcases regularFile_spec sha256 hp name o with ⟨payload, rfl, hsafe, htaken⟩ | ⟨hnot, f, hf, hblocker⟩
    · rw [htaken]
      refine ⟨_, rfl, ?_, ?_, ?_, ?_, ?_⟩
      · rfl
      · intro p' payload'
        show (p', payload') ∈ [(path, payload)] ↔ _
        rw [List.mem_singleton]
        constructor
        · intro h
          obtain ⟨rfl, rfl⟩ := Prod.mk.inj h
          exact ⟨_, _, _, ⟨rfl, rfl, rfl⟩, rfl, hround, hsafe, hp⟩
        · rintro ⟨_, _, _, ⟨rfl, rfl, rfl⟩, hc⟩
          obtain rfl := Option.some.inj (hp.symm.trans hc.path_eq)
          have hpayload := hc.regular
          simp only [Node.leaf.injEq, Observation.regular.injEq, ReadOutcome.read.injEq, and_true] at hpayload
          rw [hpayload]
      · rintro _ _ _ g ⟨rfl, rfl, rfl⟩ hg
        exact absurd (hsource g _ hg htaken) (by simp)
      · intro g hg
        rcases List.mem_append.mp hg with hg | hg
        · exact hblockers g hg
        · cases hg
      · exact List.nodup_singleton path
    · rw [hf]
      refine ⟨_, rfl, ?_⟩
      have hreport : Accounts sha256 (fun parent m x => parent = relative ∧ m = name ∧ x = .leaf o)
          { findings := [f] } := by
        refine accounts_of_report hblocker ?_ ?_
        · intro p' payload hc
          obtain rfl := Node.leaf.inj hc.regular
          exact hnot payload rfl hc.safe
        · exact fun g hg => List.mem_singleton.mp (hsource g _ hg hf)
      exact ((accounts_of_findings hblockers).append hreport (by simp)).congr
        fun _ _ _ => by rw [false_or]

/-- A directory that is descended into captures nothing itself and causes nothing itself. -/
theorem Accounts.with_descended {met : List FileName → FileName → PackageNode → Prop} {scan : Scan}
    (h : Accounts sha256 met scan) {relative : List FileName} {name : FileName} {changed : Bool}
    {sub : PackageEntries}
    (hround : round relative name relative.length (.dir changed sub) = .descend) :
    Accounts sha256 (fun parent m x => (parent = relative ∧ m = name ∧ x = .dir changed sub) ∨
      met parent m x) scan where
  files_eq := h.files_eq
  captured_iff path payload := by
    rw [h.captured_iff]
    constructor
    · rintro ⟨parent, m, x, hmet, hc⟩
      exact ⟨parent, m, x, Or.inr hmet, hc⟩
    · rintro ⟨parent, m, x, ⟨rfl, rfl, rfl⟩ | hmet, hc⟩
      · exact absurd hc.regular (by simp)
      · exact ⟨parent, m, x, hmet, hc⟩
  reported := by
    rintro parent m x f (⟨rfl, rfl, rfl⟩ | hmet) hf
    · cases hf with
      | refused hround' _ => exact absurd (hround.symm.trans hround') (by simp)
      | unreadable heq _ _ => cases heq
      | file heq _ _ _ => cases heq
    · exact h.reported parent m x f hmet hf
  blockers := h.blockers
  keys_nodup := h.keys_nodup

/-- What a directory round captures lies below the directory's own path. -/
theorem captured_below {scan : Scan} {es : PackageEntries} {relative : List FileName}
    (h : Accounts sha256 (Met es relative) scan) {path : PortablePath}
    (hpath : path ∈ scan.captured.map Prod.fst) :
    ∃ name ∈ es.names, ∃ full, relative ++ [name] <+: full ∧ PyStr.ofText path.val = asPosix full := by
  obtain ⟨⟨_, payload⟩, hmem, rfl⟩ := List.mem_map.mp hpath
  obtain ⟨parent, m, node, hmet, hc⟩ := (h.captured_iff _ _).mp hmem
  obtain ⟨name, hname, hext⟩ := hmet.extends
  exact ⟨name, hname, _, hext, (portable?_eq_some_iff.mp hc.path_eq).symm⟩

mutual

/-- Walking the entries of a directory accounts for every round that is met. -/
theorem visitEntries_spec : ∀ (es : PackageEntries) (relative : List FileName), es.Distinct →
    (∀ parent m x, Met es relative parent m x → ¬ Unprintable policy parent m x) →
    ∃ scan, visitEntries sha256 policy es relative relative.length = .ok scan ∧
      Accounts sha256 (Met es relative) scan
  | .nil, relative, _, _ => by
    refine ⟨{}, by rw [visitEntries], (accounts_of_findings (by simp)).congr fun parent name node => ?_⟩
    refine iff_of_false (fun h => ?_) not_false
    cases h with
    | here h => exact h
    | inside h _ _ => exact h
  | .cons name node rest, relative, hdistinct, hprints => by
    obtain ⟨hfresh, hnode, hrest⟩ := hdistinct
    obtain ⟨first, hfirst, haccounts, hbelow⟩ := visitEntry_spec node name relative hnode
      fun parent m x hmet => hprints parent m x (met_cons_iff.mpr (hmet.imp_right Or.inl))
    obtain ⟨others, hothers, haccounts'⟩ := visitEntries_spec rest relative hrest
      fun parent m x hmet => hprints parent m x (met_cons_iff.mpr (Or.inr (Or.inr hmet)))
    refine ⟨first.append others, by rw [visitEntries, hfirst, hothers]; rfl, ?_⟩
    refine (haccounts.append haccounts' fun path hpath hpath' => ?_).congr fun parent m x => ?_
    · -- the two paths would differ in the name of the entry
      obtain ⟨full, hext, hfull⟩ := hbelow path hpath
      obtain ⟨name', hname', full', hext', hfull'⟩ := captured_below haccounts' hpath'
      have hne : ∀ {n : FileName} {q : List FileName}, relative ++ [n] <+: q → q ≠ [] := by
        rintro n q ⟨t, rfl⟩
        simp
      obtain rfl := asPosix_injective (hne hext) (hne hext') (hfull.symm.trans hfull')
      have hsame : relative ++ [name] = relative ++ [name'] :=
        (List.prefix_of_prefix_length_le hext hext' (by simp)).eq_of_length (by simp)
      obtain rfl : name = name' := by simpa using hsame
      exact hfresh hname'
    · rw [met_cons_iff, ← or_assoc]
  termination_by structural es => es

/-- One round accounts for its entry and for what is met below it. -/
theorem visitEntry_spec : ∀ (node : PackageNode) (name : FileName) (relative : List FileName),
    node.Distinct →
    (∀ parent m x, ((parent = relative ∧ m = name ∧ x = node) ∨
        ∃ changed sub, node = .dir changed sub ∧ round relative name relative.length node = .descend ∧
          Met sub (relative ++ [name]) parent m x) → ¬ Unprintable policy parent m x) →
    ∃ scan, visitEntry sha256 policy node name relative relative.length = .ok scan ∧
      Accounts sha256 (fun parent m x => (parent = relative ∧ m = name ∧ x = node) ∨
        ∃ changed sub, node = .dir changed sub ∧
          round relative name relative.length node = .descend ∧
          Met sub (relative ++ [name]) parent m x) scan ∧
      ∀ path ∈ scan.captured.map Prod.fst, ∃ full, relative ++ [name] <+: full ∧
        PyStr.ofText path.val = asPosix full
  | .leaf o, name, relative, _, hprints => by
    obtain ⟨scan, hscan, haccounts⟩ :=
      visitLeaf_spec o name relative (hprints relative name (.leaf o) (Or.inl ⟨rfl, rfl, rfl⟩))
    refine ⟨scan, hscan, haccounts.congr fun parent m x => by simp, fun path hpath => ?_⟩
    obtain ⟨⟨_, payload⟩, hmem, rfl⟩ := List.mem_map.mp hpath
    obtain ⟨_, _, _, ⟨rfl, rfl, rfl⟩, hc⟩ := (haccounts.captured_iff _ _).mp hmem
    exact ⟨_, List.prefix_refl _, (portable?_eq_some_iff.mp hc.path_eq).symm⟩
  | .dir changed sub, name, relative, hdistinct, hprints => by
    rw [visitEntry]
    rcases hround : round relative name relative.length (.dir changed sub) with ⟨text, refs⟩ | - | -
    · obtain ⟨f, hf, hblocker⟩ := finding_of_refuse hround
      have hreport : Accounts sha256 (fun parent m x => parent = relative ∧ m = name ∧ x = .dir changed sub)
          { findings := [f] } := by
        refine accounts_of_report hblocker ?_ ?_
        · intro path payload hc
          exact absurd (hround.symm.trans hc.round_eq) (by simp)
        · intro g hg
          cases hg with
          | refused hround' hg =>
            obtain ⟨rfl, rfl⟩ := Round.refuse.inj (hround.symm.trans hround')
            exact Except.ok.inj (hg.symm.trans hf)
          | unreadable heq _ _ => cases heq
          | file heq _ _ _ => cases heq
      refine ⟨_, report_eq_of_finding hf, hreport.congr fun parent m x => by simp, by simp⟩
    -- descended: what is met inside is accounted for there
    · obtain ⟨path, hp⟩ := portable_of_round hround (by simp)
      obtain ⟨inside, hinside, haccounts⟩ := visitEntries_spec sub (relative ++ [name]) hdistinct
        fun parent m x hmet => hprints parent m x (Or.inr ⟨changed, sub, rfl, hround, hmet⟩)
      obtain ⟨fs, hfs, hblockers, -⟩ :=
        changedFindings_spec changed (Or.inr ⟨path, hp⟩)
      have hdepth : (relative ++ [name]).length = relative.length + 1 := by simp
      rw [hdepth] at hinside
      dsimp only
      rw [hinside, hfs]
      refine ⟨_, rfl, ?_, ?_⟩
      · refine (haccounts.add_findings hblockers).with_descended hround |>.congr fun parent m x => ?_
        simp
      · intro p hpath
        have hpath' : p ∈ inside.captured.map Prod.fst := by simpa [Scan.append] using hpath
        obtain ⟨m, -, full, hext, hfull⟩ := captured_below haccounts hpath'
        exact ⟨full, (List.prefix_append _ _).trans hext, hfull⟩
    · exact absurd hround round_dir_ne_file
  termination_by structural node => node

end

/-- A round whose finding cannot be printed raises. -/
theorem raises_visitEntry {name : FileName} {node : PackageNode} {relative : List FileName}
    (h : Unprintable policy relative name node) :
    Raises (visitEntry sha256 policy node name relative relative.length) := by
  obtain ⟨⟨o, rfl⟩, hround, hbelow, limit, hlimit, hdeep, hlong⟩ := h
  have hdepth : referenceDepthFindings policy (relative ++ [name]) = .error (.exc .valueError) := by
    rw [referenceDepthFindings, hlimit]
    dsimp only
    rw [if_pos ⟨hbelow, hdeep⟩, reprInt_of_long hlong]
    rfl
  rw [visitEntry, hround]
  dsimp only
  rw [hdepth]
  exact ⟨_, rfl⟩

/-- A loop raises when one of its rounds does. -/
theorem raises_visitEntries_of_has {name : FileName} {node : PackageNode} {relative : List FileName} {depth : Nat}
    (h : Raises (visitEntry sha256 policy node name relative depth)) :
    ∀ es : PackageEntries, es.Has name node → Raises (visitEntries sha256 policy es relative depth)
  | .nil, hhas => hhas.elim
  | .cons m x rest, hhas => by
    rw [visitEntries]
    rcases hhas with ⟨rfl, rfl⟩ | hhas
    · exact raises_bind_iff.mpr (Or.inl h)
    · rcases visitEntry sha256 policy x m relative depth with e | first
      · exact ⟨e, rfl⟩
      · exact raises_bind_iff.mpr (Or.inr ⟨first, rfl, raises_bind_iff.mpr
          (Or.inl (raises_visitEntries_of_has h rest hhas))⟩)
  termination_by structural es => es

/-- The walk raises when a round that it meets has a finding that cannot be printed. -/
theorem raises_visitEntries {es : PackageEntries} {relative parent : List FileName} {name : FileName}
    {node : PackageNode} (hmet : Met es relative parent name node) (h : Unprintable policy parent name node) :
    Raises (visitEntries sha256 policy es relative relative.length) := by
  induction hmet with
  | here hhas => exact raises_visitEntries_of_has (raises_visitEntry h) _ hhas
  | @inside es sub relative parent name m changed node hhas hround _ ih =>
    refine raises_visitEntries_of_has ?_ _ hhas
    have hdepth : (relative ++ [name]).length = relative.length + 1 := by simp
    rw [hdepth] at ih
    rw [visitEntry, hround]
    exact raises_bind_iff.mpr (Or.inl (ih h))

/-- Every node of the tree is descended into or captured, or it or a directory
above it is reported. -/
theorem at_accounted (sha256 : List UInt8 → Sha256) {es : PackageEntries} {path : List FileName}
    {node : PackageNode} (h : At es path node) (relative : List FileName) :
    ∃ parent name x, Met es relative parent name x ∧ parent ++ [name] <+: relative ++ path ∧
      ((parent ++ [name] = relative ++ path ∧ x = node ∧
        (Descends parent name x ∨ ∃ p payload, Captures parent name x p payload)) ∨
      ∃ f, Causes sha256 parent name x f) := by
  induction h generalizing relative with
  | @entry es name node hhas =>
    refine ⟨relative, name, node, .here hhas, List.prefix_refl _, ?_⟩
    rcases round_outcome sha256 relative name node with hd | hc | hf
    · exact Or.inl ⟨rfl, rfl, Or.inl hd⟩
    · exact Or.inl ⟨rfl, rfl, Or.inr hc⟩
    · exact Or.inr hf
  | @under es sub name changed path node hhas _ ih =>
    rcases round_outcome sha256 relative name (.dir changed sub) with hd | ⟨p, payload, hc⟩ | hf
    · obtain ⟨parent, m, x, hmet, hext, hx⟩ := ih (relative ++ [name])
      rw [List.append_assoc, List.singleton_append] at hext hx
      exact ⟨parent, m, x, .inside hhas hd.2 hmet, hext, hx⟩
    · exact absurd hc.regular (by simp)
    · refine ⟨relative, name, _, .here hhas, ?_, Or.inr hf⟩
      exact ⟨path, by simp⟩

/-! ### The whole scan -/

instance : Std.Total PathLe := ⟨fun a b => le_total a.path.val b.path.val⟩

instance : IsTrans PackageManifestFile PathLe := ⟨fun _ _ _ h h' => le_trans h h'⟩

/-- Sorting records with different paths puts the paths in strict order. -/
theorem sortFiles_pairwise {files : List PackageManifestFile} (h : (files.map (·.path)).Nodup) :
    (sortFiles files).Pairwise fun a b => a.path.val < b.path.val := by
  have hsorted := List.pairwise_insertionSort PathLe files
  have hnodup : ((sortFiles files).map (·.path)).Nodup :=
    ((List.perm_insertionSort PathLe files).map _).nodup_iff.mpr h
  rw [List.Nodup, List.pairwise_map] at hnodup
  refine List.Pairwise.imp₂ (fun a b hle hne => ?_) hsorted hnodup
  exact lt_of_le_of_ne hle fun heq => hne (Subtype.ext heq)

/-- What the scan of a listed root returns. -/
structure Complete (sha256 : List UInt8 → Sha256) (entries : PackageEntries) (scan : Scan) : Prop where
  /-- Sorted by path, each path once. -/
  sorted : scan.files.Pairwise fun a b => a.path.val < b.path.val
  /-- The records are those of the captured bytes. -/
  files_iff : ∀ f, f ∈ scan.files ↔ ∃ path payload, (path, payload) ∈ scan.captured ∧
    f = fileRecord sha256 path payload
  keys_nodup : (scan.captured.map Prod.fst).Nodup
  captured_iff : ∀ path payload, (path, payload) ∈ scan.captured ↔
    ∃ parent name node, Met entries [] parent name node ∧ Captures parent name node path payload
  reported : ∀ parent name node f, Met entries [] parent name node →
    Causes sha256 parent name node f → f ∈ scan.findings
  blockers : ∀ f ∈ scan.findings, f.severity = .blocker

/-- A round that the walk of the root meets has a finding that cannot be printed. -/
def RootObservation.Unprintable (policy : SkillValidationPolicy) : RootObservation → Prop
  | .listed _ entries =>
    ∃ parent name node, Met entries [] parent name node ∧ SkillsSdk.Unprintable policy parent name node
  | _ => False

/-- Without a limit on the depth there is no such finding. -/
theorem RootObservation.not_unprintable_of_none (h : policy.maxReferenceDepth = none) (root : RootObservation) :
    ¬ root.Unprintable policy := by
  cases root with
  | listed changed entries =>
    rintro ⟨parent, name, node, -, hlong⟩
    obtain ⟨limit, hlimit, -⟩ := hlong.long
    rw [h] at hlimit
    cases hlimit
  | unsupported | unopened | unlisted => exact id

theorem raises_scanFiles {root : RootObservation} (h : root.Unprintable policy) :
    Raises (scanFiles sha256 policy root) := by
  cases root with
  | listed changed entries =>
    obtain ⟨parent, name, node, hmet, hlong⟩ := h
    have hwalk : Raises (visitEntries sha256 policy entries [] 0) := raises_visitEntries hmet hlong
    exact raises_bind_iff.mpr (Or.inl (raises_bind_iff.mpr (Or.inl hwalk)))
  | unsupported | unopened | unlisted => exact h.elim

theorem not_unprintable_of_eq_ok {root : RootObservation} {scan : Scan}
    (h : scanFiles sha256 policy root = .ok scan) : ¬ root.Unprintable policy := fun hlong =>
  not_raises_ok (h ▸ raises_scanFiles hlong)

theorem visitRoot_listed {entries : PackageEntries} (changed : Bool) (h : entries.Distinct)
    (hprints : ¬ (RootObservation.listed changed entries).Unprintable policy) :
    ∃ scan, visitRoot sha256 policy (.listed changed entries) = .ok scan ∧
      Accounts sha256 (Met entries []) scan ∧ (changed = true → scan.findings ≠ []) := by
  obtain ⟨inside, hinside, haccounts⟩ : ∃ inside, visitEntries sha256 policy entries [] 0 = .ok inside ∧
      Accounts sha256 (Met entries []) inside :=
    visitEntries_spec entries [] h fun parent m x hmet hlong => hprints ⟨parent, m, x, hmet, hlong⟩
  obtain ⟨fs, hfs, hblockers, hne⟩ := changedFindings_spec changed (Or.inl (rfl : ([] : List FileName) = []))
  rw [visitRoot]
  refine ⟨inside.append { findings := fs }, by rw [hinside, hfs]; rfl, haccounts.add_findings hblockers, ?_⟩
  exact fun hc => List.append_ne_nil_of_right_ne_nil _ (hne hc)

/-- The scan of a listed root returns unless a finding cannot be printed, and its result is
complete. -/
theorem scanFiles_listed {entries : PackageEntries} (changed : Bool) (h : entries.Distinct)
    (hprints : ¬ (RootObservation.listed changed entries).Unprintable policy) :
    ∃ scan, scanFiles sha256 policy (.listed changed entries) = .ok scan ∧
      Complete sha256 entries scan ∧ (changed = true → scan.findings ≠ []) := by
  obtain ⟨scan, hscan, haccounts, hchanged⟩ : ∃ scan, visitRoot sha256 policy (.listed changed entries) =
      .ok scan ∧ Accounts sha256 (Met entries []) scan ∧ (changed = true → scan.findings ≠ []) :=
    visitRoot_listed changed h hprints
  refine ⟨{ scan with files := sortFiles scan.files }, by rw [scanFiles, hscan]; rfl, ?_, hchanged⟩
  have hpaths : scan.files.map (·.path) = scan.captured.map Prod.fst := by
    rw [haccounts.files_eq, List.map_map]
    rfl
  refine ⟨sortFiles_pairwise (hpaths ▸ haccounts.keys_nodup), fun f => ?_, haccounts.keys_nodup,
    haccounts.captured_iff, haccounts.reported, haccounts.blockers⟩
  have hperm : (sortFiles scan.files).Perm scan.files := List.perm_insertionSort PathLe scan.files
  rw [hperm.mem_iff, haccounts.files_eq, List.mem_map]
  constructor
  · rintro ⟨⟨path, payload⟩, hmem, rfl⟩
    exact ⟨path, payload, hmem, rfl⟩
  · rintro ⟨path, payload, hmem, rfl⟩
    exact ⟨_, hmem, rfl⟩

/-- What a scan of a listed root has returned is complete. -/
theorem complete_of_scanFiles {changed : Bool} {entries : PackageEntries} (hdistinct : entries.Distinct)
    {scan : Scan} (h : scanFiles sha256 policy (.listed changed entries) = .ok scan) :
    Complete sha256 entries scan := by
  obtain ⟨scan', hscan', hcomplete, -⟩ : ∃ scan, scanFiles sha256 policy (.listed changed entries) = .ok scan ∧
      Complete sha256 entries scan ∧ (changed = true → scan.findings ≠ []) :=
    scanFiles_listed changed hdistinct (not_unprintable_of_eq_ok h)
  obtain rfl := Except.ok.inj (h.symm.trans hscan')
  exact hcomplete

/-- The scan captures the bytes under the path: the loop meets an entry that does. -/
def RootCaptures : RootObservation → PortablePath → List UInt8 → Prop
  | .listed _ entries, path, payload =>
    ∃ parent name node, Met entries [] parent name node ∧ Captures parent name node path payload
  | _, _, _ => False

/-- What holds of the result of any scan. -/
structure ScanOk (sha256 : List UInt8 → Sha256) (root : RootObservation) (scan : Scan) : Prop where
  files_iff : ∀ f, f ∈ scan.files ↔ ∃ path payload, (path, payload) ∈ scan.captured ∧
    f = fileRecord sha256 path payload
  paths_nodup : (scan.files.map (·.path)).Nodup
  keys_nodup : (scan.captured.map Prod.fst).Nodup
  captured_iff : ∀ path payload, (path, payload) ∈ scan.captured ↔ RootCaptures root path payload
  blockers : ∀ f ∈ scan.findings, f.severity = .blocker

theorem scanOk_of_report {root : RootObservation} {f : SkillPackageFinding} (hf : f.severity = .blocker)
    (hroot : ∀ path payload, ¬ RootCaptures root path payload) :
    ScanOk sha256 root { findings := [f] } where
  files_iff g := by simp
  paths_nodup := List.nodup_nil
  keys_nodup := List.nodup_nil
  captured_iff path payload := iff_of_false (by simp) (hroot path payload)
  blockers g hg := by
    rw [List.mem_singleton.mp hg]
    exact hf

/-- A directory that cannot be listed makes the scan raise when it is the root. -/
theorem scanFiles_unlisted : ∃ e, scanFiles sha256 policy .unlisted = .error e := by
  obtain ⟨e, he⟩ := finding_of_not_portable portable?_asPosix_nil unreadablePackageDirectory
  refine ⟨.validationError e, ?_⟩
  rw [scanFiles, visitRoot, report, he]
  rfl

/-- Any other root is scanned to the end. -/
theorem scanFiles_of_ne_unlisted {root : RootObservation} (hdistinct : root.Distinct)
    (hroot : root ≠ .unlisted) (hprints : ¬ root.Unprintable policy) :
    ∃ scan, scanFiles sha256 policy root = .ok scan ∧ ScanOk sha256 root scan ∧
      ((∀ changed entries, root ≠ .listed changed entries) → scan.findings ≠ []) := by
  cases root with
  | unsupported =>
    exact ⟨{ findings := [_] }, rfl, scanOk_of_report rfl (fun _ _ h => h), by simp⟩
  | unopened =>
    exact ⟨{ findings := [_] }, rfl, scanOk_of_report rfl (fun _ _ h => h), by simp⟩
  | unlisted => exact absurd rfl hroot
  | listed changed entries =>
    obtain ⟨scan, hscan, hcomplete, -⟩ : ∃ scan, scanFiles sha256 policy (.listed changed entries) =
        .ok scan ∧ Complete sha256 entries scan ∧ (changed = true → scan.findings ≠ []) :=
      scanFiles_listed changed hdistinct hprints
    refine ⟨scan, hscan, ⟨hcomplete.files_iff, ?_, hcomplete.keys_nodup, hcomplete.captured_iff,
      hcomplete.blockers⟩, fun h => absurd rfl (h changed entries)⟩
    rw [List.Nodup, List.pairwise_map]
    exact hcomplete.sorted.imp fun hlt heq => absurd (congrArg Subtype.val heq) (ne_of_lt hlt)

/-- What a scan has returned. -/
theorem scanOk_of_scanFiles {root : RootObservation} (hdistinct : root.Distinct) {scan : Scan}
    (h : scanFiles sha256 policy root = .ok scan) : ScanOk sha256 root scan := by
  have hroot : root ≠ .unlisted := by
    rintro rfl
    obtain ⟨e, he⟩ : ∃ e, scanFiles sha256 policy .unlisted = .error e := scanFiles_unlisted
    rw [h] at he
    cases he
  obtain ⟨scan', hscan', hok, -⟩ : ∃ scan, scanFiles sha256 policy root = .ok scan ∧
      ScanOk sha256 root scan ∧ _ := scanFiles_of_ne_unlisted hdistinct hroot (not_unprintable_of_eq_ok h)
  obtain rfl := Except.ok.inj (h.symm.trans hscan')
  exact hok

end SkillsSdk

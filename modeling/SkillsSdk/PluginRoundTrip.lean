/-
SkillsSdk/PluginRoundTrip.lean

A standalone skill, written as the child of a plugin and captured again.

    source --capture--> c --write--> candidate --capture--> expected

The candidate's listing is known (`writeCandidate_ok`), so what its capture
accepts and returns is read off its nodes.  The capture returns what the
normalization expects and nothing else, and it returns just when the bounds that
`_fits_wrapped_capture` reserves hold, the name of the skill is none that a
capture refuses, and the files open (`normalization_round_trip`).
-/
import SkillsSdk.PluginCandidate
import SkillsSdk.PluginChildren

namespace SkillsSdk

open NamedTree Directories

/-! ### What is expected of the candidate -/

theorem isPortable_pluginJson : isPortable pluginJson = true := by decide +kernel

/-- The path of the manifest. -/
def pluginManifestPath : PortablePath := ⟨pluginJson, isPortable_pluginJson⟩

section

variable (sha256 : List UInt8 → Sha256)

/-- The record of the manifest. -/
def pluginManifestFile (manifest : List UInt8) : PluginCapturedFileData :=
  ⟨pluginManifestPath, sha256 manifest, manifest.length, 0o644⟩

/-- The record of a file of the skill, at its place in the plugin. -/
def wrappedFile (skillName : PackageName) (item : PluginCapturedFile) : PluginCapturedFileData :=
  { item.val with path := wrappedPath skillName item.val.path }

/-- `_expected_plugin_files`. -/
def expectedPluginFiles (manifest : List UInt8) (skillName : PackageName) (files : List PluginCapturedFile) :
    Except ValidationError (List PluginCapturedFile) := do
  let first ← construct PluginCapturedFileData.validate (pluginManifestFile sha256 manifest)
  let others ← files.mapM fun item => construct PluginCapturedFileData.validate (wrappedFile skillName item)
  return (first :: others).insertionSort CapturedLe

end

/-- The bytes that are expected, by path. -/
def expectedPayloads (manifest : List UInt8) (skillName : PackageName) (payloads : CapturedBytes) : CapturedBytes :=
  (pluginManifestPath, manifest) :: payloads.map fun p => (wrappedPath skillName p.1, p.2)

/-- `tuple(sorted(_directory_paths(…)))`. -/
def expectedDirectories (skillName : PackageName) (directories : List PortablePath)
    (files : List PluginCapturedFile) : List Text :=
  (directoryPaths skillName directories files).insertionSort fun a b => a ≤ b

/-- `destination_capture == (files, payloads, directories)`, where the payloads are
dictionaries. -/
structure SameCapture (w : PluginCapture) (files : List PluginCapturedFile) (payloads : CapturedBytes)
    (directories : List Text) : Prop where
  files_eq : w.files = files
  payloads_eq : ∀ path, w.payloads.lookup path = payloads.lookup path
  directories_eq : w.directories.map (·.val) = directories

/-! ### Names that a capture admits -/

/-- The rules of a capture for the last name of a path. -/
def AdmittedName (name : PyStr) : Prop :=
  name.lower ∉ unsafePackageDirectories ∧ unsafePackageFileReason name = none

instance (name : PyStr) : Decidable (AdmittedName name) := inferInstanceAs (Decidable (_ ∧ _))

/-- Of a portable path only the last name is left to the rules. -/
theorem admitted_iff {path : Text} (hnamed : Named path) (hportable : Portable path) (parent : List FileName)
    {name : FileName} (hnames : namesOf path = parent ++ [name]) :
    Admitted (namesOf path) ↔ AdmittedName name.val := by
  have hposix : asPosix (parent ++ [name]) = PyStr.ofText path := by
    rw [← hnames, hnamed.asPosix_namesOf]
  rw [hnames]
  constructor
  · intro h
    obtain ⟨q, hq⟩ := admitName_of_admitted h
    exact (admitName_eq_ok hq).2
  · rintro ⟨hdirectory, hfile⟩
    have hp : portable? (asPosix (parent ++ [name])) = some ⟨path, portable_iff.mpr hportable⟩ :=
      portable?_eq_some_iff.mpr hposix
    refine ⟨parent, name, ⟨path, portable_iff.mpr hportable⟩, rfl, ?_⟩
    rw [admitName, hp]
    exact if_neg (by simp [hdirectory, hfile])

section

variable (skillName : PackageName)

theorem lowerChar_of_lowerAlnum {c : Char} (h : isLowerAlnum c = true ∨ c = '-') :
    PyStr.lowerChar (.scalar c) = .scalar c := by
  have hascii : c.toNat < 128 := by
    rcases h with h | rfl
    · have hz : c.toNat ≤ 'z'.toNat := by
        rcases Bool.or_eq_true_iff.mp h with h | h
        · exact (of_decide_eq_true (Bool.and_eq_true_iff.mp h).2 : c ≤ 'z')
        · exact le_trans (of_decide_eq_true (Bool.and_eq_true_iff.mp h).2 : c ≤ '9') (by decide : '9' ≤ 'z')
      exact lt_of_le_of_lt hz (by decide)
    · decide
  have hall : ∀ n < 128, isLowerAlnum (Char.ofNat n) = true ∨ Char.ofNat n = '-' →
      PyStr.lowerChar (.scalar (Char.ofNat n)) = .scalar (Char.ofNat n) := by
    decide +kernel
  have hc := hall c.toNat hascii
  rw [Char.ofNat_toNat] at hc
  exact hc h

theorem lower_packageName : (PyStr.ofText skillName.val).lower = PyStr.ofText skillName.val := by
  rw [PyStr.lower, PyStr.ofText, List.map_map]
  exact List.map_congr_left fun c hc => lowerChar_of_lowerAlnum (packageName_letters skillName c hc)

theorem not_mem_ofText_packageName {d : Char} (hd : isLowerAlnum d = false) (hdash : d ≠ '-') :
    PyChar.scalar d ∉ PyStr.ofText skillName.val := by
  intro hmem
  obtain ⟨c, hc, heq⟩ := List.mem_map.mp hmem
  exact packageName_letter_ne skillName hd hdash (PyChar.scalar.inj heq ▸ hc)

/-- Every unsafe file name has a dot or an underscore, so a package name is none. -/
theorem unsafePackageFileReason_packageName : unsafePackageFileReason (PyStr.ofText skillName.val) = none := by
  have hdot : PyChar.scalar '.' ∉ PyStr.ofText skillName.val :=
    not_mem_ofText_packageName skillName (by decide) (by decide)
  have hunderscore : PyChar.scalar '_' ∉ PyStr.ofText skillName.val :=
    not_mem_ofText_packageName skillName (by decide) (by decide)
  have hnames : ∀ s ∈ unsafePackageFilenames, PyChar.scalar '.' ∈ s ∨ PyChar.scalar '_' ∈ s := by decide +kernel
  have hsuffixes : ∀ s ∈ unsafePackageSuffixes, PyChar.scalar '.' ∈ s := by decide +kernel
  have henv : PyChar.scalar '.' ∈ PyStr.lit ".env." := by decide +kernel
  have hreceipt : PyChar.scalar '.' ∈ PyStr.lit "-receipt.json" := by decide +kernel
  have hvalidation : PyChar.scalar '.' ∈ PyStr.lit "skill-package-validation.json" := by decide +kernel
  rw [unsafePackageFileReason, lower_packageName]
  rw [if_neg, if_neg, if_neg, if_neg]
  · rw [List.any_eq_true]
    rintro ⟨s, hs, hsuffix⟩
    exact hdot ((List.isSuffixOf_iff_suffix.mp hsuffix).subset (hsuffixes s hs))
  · rintro (heq | hsuffix)
    · exact hdot (heq ▸ hvalidation)
    · exact hdot ((List.isSuffixOf_iff_suffix.mp hsuffix).subset hreceipt)
  · intro hprefix
    exact hdot ((List.isPrefixOf_iff_prefix.mp hprefix).subset henv)
  · intro hmem
    rcases hnames _ hmem with h | h
    · exact hdot h
    · exact hunderscore h

end

/-! ### The nodes that a capture takes -/

/-- A node by itself is admitted and taken. -/
def TakenNode (p : List FileName × (PluginObservation ⊕ PluginDirectory)) : Prop :=
  Admitted p.1 ∧ Taken p.1 (freshNode p.2 : PluginNode)

theorem taken_freshNode_iff {path : List FileName} {node : PluginNode} :
    Taken path (freshNode node.top : PluginNode) ↔ Taken path node := by
  cases node with
  | leaf o => exact Iff.rfl
  | dir d sub =>
    constructor
    · intro h
      cases h with
      | directory hfailure hspecial hchanged hdepth => exact .directory hfailure hspecial hchanged hdepth
    · intro h
      cases h with
      | directory hfailure hspecial hchanged hdepth => exact .directory hfailure hspecial hchanged hdepth

/-- It is the listing that says whether every node is taken. -/
theorem taken_iff_listing {es : PluginEntries} :
    (∀ path node, At es path node → Admitted path ∧ Taken path node) ↔ ∀ p ∈ listing es [], TakenNode p := by
  constructor
  · rintro h ⟨path, x⟩ hp
    obtain ⟨node, hat, rfl⟩ := mem_listing_nil.mp hp
    obtain ⟨hadmitted, htaken⟩ := h path node hat
    exact ⟨hadmitted, taken_freshNode_iff.mpr htaken⟩
  · intro h path node hat
    obtain ⟨hadmitted, htaken⟩ := h (path, node.top) (mem_listing_nil.mpr ⟨node, hat, rfl⟩)
    exact ⟨hadmitted, taken_freshNode_iff.mp htaken⟩

section

variable {sha256 : List UInt8 → Sha256} {source : PluginTree} {c : PluginCapture} {host : CandidateHost}
  {manifest : List UInt8} {skillName : PackageName}

theorem namesOf_skills : namesOf "skills".toList = [skillsName] := by
  rw [namesOf, List.splitOn_eq_singleton (by decide), List.filterMap_cons_some (fileName?_eq_some skillsName.2)]
  rfl

theorem namesOf_childPath (skillName : PackageName) :
    namesOf (childPath skillName.val) =
      [skillsName, ⟨PyStr.ofText skillName.val, isFileName_packageName skillName⟩] := by
  rw [namesOf, splitOn_childPath, List.filterMap_cons_some (fileName?_eq_some skillsName.2),
    List.filterMap_cons_some (fileName?_eq_some (isFileName_packageName skillName))]
  rfl

/-- The name of the skill is none that a capture refuses as a directory. -/
def SafeSkillName (skillName : PackageName) : Prop :=
  PyStr.ofText skillName.val ∉ unsafePackageDirectories

instance (skillName : PackageName) : Decidable (SafeSkillName skillName) := inferInstanceAs (Decidable (_ ∉ _))

theorem named_skills : Named "skills".toList := by
  intro s hs
  rw [List.splitOn_eq_singleton (by decide)] at hs
  obtain rfl := List.mem_singleton.mp hs
  exact skillsName.2

theorem isPortable_skills : isPortable "skills".toList = true := by decide +kernel

theorem admitted_skills : Admitted (namesOf "skills".toList) := by
  have hsafe : AdmittedName skillsName.val := by decide +kernel
  exact (admitted_iff named_skills (portable_iff.mp isPortable_skills) [] namesOf_skills).mpr hsafe

theorem admitted_childPath_iff : Admitted (namesOf (childPath skillName.val)) ↔ SafeSkillName skillName := by
  rw [admitted_iff (named_childPath skillName) (portable_childPath skillName) [skillsName]
    (namesOf_childPath skillName), AdmittedName, unsafePackageFileReason_packageName, lower_packageName]
  exact and_iff_left rfl

/-- The name `plugin.json`. -/
def pluginJsonName : FileName := ⟨PyStr.lit "plugin.json", by decide⟩

theorem namesOf_pluginJson : namesOf pluginJson = [pluginJsonName] := by
  have hsplit : pluginJson.splitOn '/' = ["plugin.json".toList] := List.splitOn_eq_singleton (by decide)
  rw [namesOf, hsplit, List.filterMap_cons_some (fileName?_eq_some pluginJsonName.2)]
  rfl

theorem admitted_pluginJson : Admitted (namesOf pluginJson) := by
  have hsafe : AdmittedName pluginJsonName.val := by decide +kernel
  exact (admitted_iff named_pluginJson (portable_iff.mp isPortable_pluginJson) [] namesOf_pluginJson).mpr hsafe

/-- What the capture of the source admitted is admitted below the child. -/
theorem admitted_wrappedText {r : Text} (hnamed : Named r) (hportable : Portable r) (h : Admitted (namesOf r)) :
    Admitted (namesOf (wrappedText skillName r)) := by
  have hne := hnamed.namesOf_ne_nil
  have hlast : namesOf r = (namesOf r).dropLast ++ [(namesOf r).getLast hne] := (List.dropLast_append_getLast hne).symm
  have hwrapped : namesOf (wrappedText skillName r) =
      (namesOf (childPath skillName.val) ++ (namesOf r).dropLast) ++ [(namesOf r).getLast hne] := by
    rw [namesOf_wrappedText, List.append_assoc, ← hlast]
  exact (admitted_iff (named_wrappedText hnamed) (portable_wrappedText skillName hportable) _ hwrapped).mpr
    ((admitted_iff hnamed hportable _ hlast).mp h)

/-- An admitted path is portable. -/
theorem portable_of_admitted {r : Text} (hnamed : Named r) (h : Admitted (namesOf r)) : Portable r := by
  obtain ⟨parent, name, p, hnames, hp⟩ := h
  have htext : asPosix (namesOf r) = PyStr.ofText p.val := hnames ▸ asPosix_of_portable (admitName_eq_ok hp).1
  rw [hnamed.asPosix_namesOf] at htext
  obtain rfl : r = p.val := PyStr.ofText_injective htext
  exact portable_iff.mp p.2

theorem length_splitOn (path : Text) : (path.splitOn '/').length = path.count '/' + 1 := by
  induction hn : path.length using Nat.strongRecOn generalizing path with
  | ind n ih =>
    by_cases hslash : '/' ∈ path
    · obtain ⟨s, t, rfl, hs⟩ := List.eq_append_cons_of_mem hslash
      have ht := ih t.length (by rw [← hn, List.length_append, List.length_cons]; omega) t rfl
      rw [List.splitOn_append_cons_self_of_not_mem hs, List.length_cons, ht, List.count_append,
        List.count_eq_zero_of_not_mem hs, List.count_cons_self, Nat.zero_add]
    · rw [List.splitOn_eq_singleton hslash, List.count_eq_zero_of_not_mem hslash]
      rfl

theorem Named.length_namesOf {path : Text} (h : Named path) : (namesOf path).length = path.count '/' + 1 := by
  have hlength := congrArg List.length h.val_namesOf
  rwa [List.length_map, List.length_map, length_splitOn] at hlength

/-! ### What the capture of a candidate accepts -/

theorem taken_directory_iff {path : List FileName} :
    Taken path (freshNode (.inr candidateDirectory) : PluginNode) ↔ path.length ≤ maxPluginDepth := by
  constructor
  · intro h
    cases h with
    | directory _ _ _ hdepth => exact hdepth
  · exact fun hdepth => .directory rfl rfl rfl hdepth

theorem taken_file_iff {path : List FileName} {payload : List UInt8} {mode : Nat} (hmode : mode ≤ 0o777) :
    Taken path (freshNode (.inl (candidateFile host payload mode)) : PluginNode) ↔
      payload.length ≤ maxPluginFileBytes ∧ host.opens mode = none := by
  have hmod : mode % 0o1000 = mode := Nat.mod_eq_of_lt (by omega)
  have hbits : hasSpecialBit mode = false := decide_eq_false (by omega)
  rw [candidateFile, hmod]
  rcases hopens : host.opens mode with - | e
  · constructor
    · intro h
      cases h with
      | file _ hlength => exact ⟨hlength, rfl⟩
    · rintro ⟨hlength, -⟩
      exact .file hbits hlength
  · refine iff_of_false (fun h => ?_) (by simp)
    cases h

/-- What the source's capture found of a file. -/
theorem sourceFile_taken (h : capturePlugin sha256 source = .ok c) {f : PluginCapturedFile} (hf : f ∈ c.files) :
    Admitted (namesOf f.val.path.val) ∧ f.val.permissionMode ≤ 0o777 ∧
      (heldPayload c f).length = f.val.sizeBytes ∧ sha256 (heldPayload c f) = f.val.sha256 ∧
      (heldPayload c f).length ≤ maxPluginFileBytes := by
  obtain ⟨-, size, payload, hat, hlookup, hsha, hsize⟩ := sourceFile_at h hf
  have hheld : heldPayload c f = payload := by
    rw [heldPayload, hlookup]
    rfl
  obtain ⟨hadmitted, htaken⟩ := (capturePlugin_spec h).accepted _ _ hat
  rw [hheld]
  cases htaken with
  | file hbits hlength => exact ⟨hadmitted, Nat.not_lt.mp (of_decide_eq_false hbits), hsize.symm, hsha.symm, hlength⟩

theorem sourceDirectory_admitted (h : capturePlugin sha256 source = .ok c) {r : Text}
    (hr : IsSourceDirectory c.directories c.files r) : Named r ∧ Admitted (namesOf r) := by
  obtain ⟨hnamed, x, sub, hat⟩ := sourceDirectory_at h hr
  exact ⟨hnamed, ((capturePlugin_spec h).accepted _ _ hat).1⟩

/-- The host opens every file of the candidate. -/
def Readable (host : CandidateHost) (c : PluginCapture) : Prop :=
  host.opens 0o644 = none ∧ ∀ f ∈ c.files, host.opens f.val.permissionMode = none

/-- The directories of the candidate are not too deep. -/
def Shallow (skillName : PackageName) (c : PluginCapture) : Prop :=
  ∀ path ∈ directoryPaths skillName c.directories c.files, path.count '/' + 1 ≤ maxPluginDepth

theorem directoryNodes_taken_iff (h : capturePlugin sha256 source = .ok c) :
    (∀ p ∈ directoryNodes skillName c, TakenNode p) ↔ SafeSkillName skillName ∧ Shallow skillName c := by
  rw [directoryNodes, List.forall_mem_map]
  constructor
  · intro htaken
    refine ⟨?_, fun path hpath => ?_⟩
    · have hchild := htaken (childPath skillName.val) (mem_directoryPaths.mpr (Or.inr (Or.inl rfl)))
      exact admitted_childPath_iff.mp hchild.1
    · rw [← (named_directoryPaths h hpath).length_namesOf]
      exact taken_directory_iff.mp (htaken path hpath).2
  · rintro ⟨hsafe, hshallow⟩ path hpath
    refine ⟨?_, taken_directory_iff.mpr ?_⟩
    · rcases mem_directoryPaths.mp hpath with rfl | rfl | ⟨r, rfl, hr⟩
      · exact admitted_skills
      · exact admitted_childPath_iff.mpr hsafe
      · obtain ⟨hnamed, hadmitted⟩ := sourceDirectory_admitted h hr
        exact admitted_wrappedText hnamed (portable_of_admitted hnamed hadmitted) hadmitted
    · show (namesOf path).length ≤ maxPluginDepth
      rw [(named_directoryPaths h hpath).length_namesOf]
      exact hshallow path hpath

theorem fileNodes_taken_iff (h : capturePlugin sha256 source = .ok c) :
    (∀ p ∈ fileNodes host manifest skillName c, TakenNode p) ↔
      manifest.length ≤ maxPluginFileBytes ∧ Readable host c := by
  rw [fileNodes, List.forall_mem_cons, List.forall_mem_map]
  have hmanifest : TakenNode (namesOf pluginJson, .inl (candidateFile host manifest 0o644)) ↔
      manifest.length ≤ maxPluginFileBytes ∧ host.opens 0o644 = none := by
    rw [TakenNode, and_iff_right admitted_pluginJson]
    exact taken_file_iff (by decide)
  have hfile : ∀ f ∈ c.files, (TakenNode (namesOf (wrappedText skillName f.val.path.val),
      .inl (candidateFile host (heldPayload c f) f.val.permissionMode)) ↔
        host.opens f.val.permissionMode = none) := by
    intro f hf
    obtain ⟨hadmitted, hmode, -, -, hlength⟩ := sourceFile_taken h hf
    have hwrapped : Admitted (namesOf (wrappedText skillName f.val.path.val)) :=
      admitted_wrappedText (sourceFile_at h hf).1 (portable_iff.mp f.val.path.2) hadmitted
    rw [TakenNode, and_iff_right hwrapped]
    exact (taken_file_iff hmode).trans (and_iff_right hlength)
  rw [hmanifest, Readable, and_assoc, forall₂_congr hfile]

theorem foldr_max_le_iff {l : List Nat} {n : Nat} : l.foldr max 0 ≤ n ↔ ∀ m ∈ l, m ≤ n := by
  induction l with
  | nil => simp
  | cons m l ih => rw [List.foldr_cons, max_le_iff, ih, List.forall_mem_cons]

theorem fitsWrappedCapture_iff : fitsWrappedCapture manifest skillName c.files c.directories = true ↔
    manifest.length ≤ maxPluginFileBytes ∧ c.files.length + 1 ≤ maxPluginFiles ∧
      (c.files.map (·.val.sizeBytes)).sum + manifest.length ≤ maxPluginTotalBytes ∧
      c.files.length + 1 + (directoryPaths skillName c.directories c.files).length ≤ maxPluginResources ∧
      Shallow skillName c := by
  rw [fitsWrappedCapture, Shallow]
  simp only [Bool.and_eq_true, decide_eq_true_eq, foldr_max_le_iff, List.forall_mem_map, and_assoc]

/-- The files of the candidate. -/
def candidateFiles (manifest : List UInt8) (skillName : PackageName) (c : PluginCapture) : List FileBelow :=
  ⟨namesOf pluginJson, 0o644, manifest⟩ :: c.files.map fun f =>
    ⟨namesOf (wrappedText skillName f.val.path.val), f.val.permissionMode, heldPayload c f⟩

/-- A candidate that opens lists its files. -/
theorem filterMap_listedFile (h : capturePlugin sha256 source = .ok c) (hreadable : Readable host c) :
    (candidateNodes host manifest skillName c).filterMap listedFile = candidateFiles manifest skillName c := by
  have hdirs : (directoryNodes skillName c).filterMap listedFile = [] := by
    rw [directoryNodes, List.filterMap_map]
    exact List.filterMap_eq_nil_iff.mpr fun path _ => rfl
  have hlisted : ∀ (names : List FileName) (payload : List UInt8) (mode : Nat), mode ≤ 0o777 →
      host.opens mode = none →
      listedFile (names, .inl (candidateFile host payload mode)) = some ⟨names, mode, payload⟩ := by
    intro names payload mode hmode hopens
    have hmod : mode % 0o1000 = mode := Nat.mod_eq_of_lt (by omega)
    rw [candidateFile, hmod, hopens]
    rfl
  rw [candidateNodes, List.filterMap_append, hdirs, List.nil_append, fileNodes,
    List.filterMap_cons_some (hlisted _ manifest 0o644 (by decide) hreadable.1), List.filterMap_map, candidateFiles]
  refine congrArg _ ?_
  rw [← List.filterMap_eq_map]
  refine List.filterMap_congr fun f hf => ?_
  exact hlisted _ _ _ (sourceFile_taken h hf).2.1 (hreadable.2 f hf)

theorem filesBelow_perm (h : capturePlugin sha256 source = .ok c) (hreadable : Readable host c) {es : PluginEntries}
    (hlisting : (listing es []).Perm (candidateNodes host manifest skillName c)) :
    (filesBelow es []).Perm (candidateFiles manifest skillName c) := by
  rw [filesBelow_eq, ← filterMap_listedFile h hreadable]
  exact hlisting.filterMap listedFile

theorem totalBytes_candidateFiles (h : capturePlugin sha256 source = .ok c) :
    totalBytes (candidateFiles manifest skillName c) = (c.files.map (·.val.sizeBytes)).sum + manifest.length := by
  have hlengths : (c.files.map fun f => (heldPayload c f).length) = c.files.map (·.val.sizeBytes) :=
    List.map_congr_left fun f hf => (sourceFile_taken h hf).2.2.1
  rw [totalBytes, candidateFiles, List.map_cons, List.sum_cons, List.map_map, Nat.add_comm]
  exact congrArg (·.sum + manifest.length) hlengths

theorem sizesAgree_candidate {es : PluginEntries}
    (hlisting : (listing es []).Perm (candidateNodes host manifest skillName c)) : SizesAgree es := by
  intro path size mode payload hat
  have hmem := hlisting.mem_iff.mp (mem_listing_nil.mpr ⟨_, hat, rfl⟩)
  have hfile : ∀ (names : List FileName) (bytes : List UInt8) (bits : Nat),
      (path, Sum.inl (.regular size mode (.ok payload))) =
        ((names, .inl (candidateFile host bytes bits)) : List FileName × (PluginObservation ⊕ PluginDirectory)) →
      size = payload.length := by
    intro names bytes bits heq
    have hobs := Sum.inl.inj (Prod.mk.inj heq).2
    rw [candidateFile] at hobs
    rcases hopens : host.opens (bits % 0o1000) with - | e
    · rw [hopens] at hobs
      cases hobs
      rfl
    · rw [hopens] at hobs
      cases hobs
  rcases List.mem_append.mp hmem with hmem | hmem
  · obtain ⟨q, -, heq⟩ := List.mem_map.mp hmem
    cases heq
  · rcases List.mem_cons.mp hmem with heq | hmem
    · exact hfile _ _ _ heq
    · obtain ⟨f, -, heq⟩ := List.mem_map.mp hmem
      exact hfile _ _ _ heq.symm

/-- **The reserved bounds are those of the capture**: the candidate is captured just when it
fits, its name is safe and its files open. -/
theorem capture_candidate_iff (h : capturePlugin sha256 source = .ok c) {es : PluginEntries} (hd : es.Distinct)
    (hlisting : (listing es []).Perm (candidateNodes host manifest skillName c)) :
    (∃ w, capturePlugin sha256 (candidateTree es hd) = .ok w) ↔
      fitsWrappedCapture manifest skillName c.files c.directories = true ∧ SafeSkillName skillName ∧
        Readable host c := by
  have hnodes : (∀ path node, At es path node → Admitted path ∧ Taken path node) ↔
      (SafeSkillName skillName ∧ Shallow skillName c) ∧ manifest.length ≤ maxPluginFileBytes ∧ Readable host c := by
    rw [taken_iff_listing, ← directoryNodes_taken_iff h, ← fileNodes_taken_iff h, ← List.forall_mem_append]
    exact forall_congr' fun p => imp_congr_left hlisting.mem_iff
  have hlength : (listing es []).length =
      (directoryPaths skillName c.directories c.files).length + (c.files.length + 1) := by
    rw [hlisting.length_eq, candidateNodes, List.length_append, directoryNodes, List.length_map, fileNodes,
      List.length_cons, List.length_map]
  have hfiles : Readable host c → (filesBelow es []).length = c.files.length + 1 := by
    intro hreadable
    rw [(filesBelow_perm h hreadable hlisting).length_eq, candidateFiles, List.length_cons, List.length_map]
  have htotal : Readable host c →
      totalBytes (filesBelow es []) = (c.files.map (·.val.sizeBytes)).sum + manifest.length := by
    intro hreadable
    have hbytes : totalBytes (candidateFiles manifest skillName c) = _ := totalBytes_candidateFiles h
    rw [← hbytes, totalBytes, totalBytes]
    exact ((filesBelow_perm h hreadable hlisting).map _).sum_eq
  rw [capturePlugin_ok_iff (show SizesAgree (candidateTree es hd).entries from sizesAgree_candidate hlisting),
    fitsWrappedCapture_iff]
  constructor
  · intro haccepted
    obtain ⟨⟨hsafe, hshallow⟩, hmanifest, hreadable⟩ := hnodes.mp haccepted.nodes
    have hresources : (listing es []).length ≤ maxPluginResources := haccepted.resources
    have hcount : (filesBelow es []).length ≤ maxPluginFiles := haccepted.count
    have hbytes : totalBytes (filesBelow es []) ≤ maxPluginTotalBytes := haccepted.totalSize
    rw [hfiles hreadable] at hcount
    rw [htotal hreadable] at hbytes
    exact ⟨⟨hmanifest, hcount, hbytes, by omega, hshallow⟩, hsafe, hreadable⟩
  · rintro ⟨⟨hmanifest, hcount, hbytes, hresources, hshallow⟩, hsafe, hreadable⟩
    refine ⟨rfl, rfl, hnodes.mpr ⟨⟨hsafe, hshallow⟩, hmanifest, hreadable⟩, ?_, ?_, ?_⟩
    · show (listing es []).length ≤ maxPluginResources
      omega
    · show (filesBelow es []).length ≤ maxPluginFiles
      rw [hfiles hreadable]
      exact hcount
    · show totalBytes (filesBelow es []) ≤ maxPluginTotalBytes
      rw [htotal hreadable]
      exact hbytes

/-! ### What the capture of a candidate returns -/

/-- A record is known by what is said of it. -/
theorem described_injective {f g : PluginCapturedFileData} (h : f.described = g.described) : f = g := by
  obtain ⟨path, sha, size, mode⟩ := f
  obtain ⟨path', sha', size', mode'⟩ := g
  obtain ⟨hpath, hrest⟩ := Prod.mk.inj h
  obtain rfl : path = path' := Subtype.ext (PyStr.ofText_injective hpath)
  cases hrest
  rfl

/-- The records of the files, in the order of the writing. -/
def candidateRecords (sha256 : List UInt8 → Sha256) (manifest : List UInt8) (skillName : PackageName)
    (files : List PluginCapturedFile) : List PluginCapturedFileData :=
  pluginManifestFile sha256 manifest :: files.map (wrappedFile skillName)

theorem candidateFiles_described (h : capturePlugin sha256 source = .ok c) :
    (candidateFiles manifest skillName c).map (FileBelow.described sha256) =
      (candidateRecords sha256 manifest skillName c.files).map PluginCapturedFileData.described := by
  have hmanifest : (⟨namesOf pluginJson, 0o644, manifest⟩ : FileBelow).described sha256 =
      (pluginManifestFile sha256 manifest).described := by
    rw [FileBelow.described, named_pluginJson.asPosix_namesOf]
    rfl
  rw [candidateFiles, candidateRecords, List.map_cons, List.map_cons, hmanifest, List.map_map, List.map_map]
  refine congrArg _ (List.map_congr_left fun f hf => ?_)
  obtain ⟨-, -, hlength, hsha, -⟩ := sourceFile_taken h hf
  show FileBelow.described sha256 ⟨namesOf (wrappedText skillName f.val.path.val), f.val.permissionMode,
    heldPayload c f⟩ = (wrappedFile skillName f).described
  rw [FileBelow.described, (named_wrappedText (sourceFile_at h hf).1).asPosix_namesOf, hlength, hsha]
  rfl

theorem mapM_wrappedFile (skillName : PackageName) (h : capturePlugin sha256 source = .ok c)
    {files : List PluginCapturedFile} (hfiles : ∀ f ∈ files, f ∈ c.files) :
    ∃ others : List PluginCapturedFile,
      files.mapM (fun item => construct PluginCapturedFileData.validate (wrappedFile skillName item)) = .ok others ∧
        others.map (·.val) = files.map (wrappedFile skillName) := by
  induction files with
  | nil => exact ⟨[], rfl, rfl⟩
  | cons f files ih =>
    obtain ⟨others, hothers, hval⟩ := ih fun g hg => hfiles g (List.mem_cons_of_mem f hg)
    obtain ⟨-, hmode, hsize, -, hlength⟩ := sourceFile_taken h (hfiles f List.mem_cons_self)
    have hvalid : (wrappedFile skillName f).validate = .ok () := validate_capturedFile (hsize ▸ hlength) hmode
    have hfile : construct PluginCapturedFileData.validate (wrappedFile skillName f) = .ok ⟨_, hvalid⟩ :=
      construct_eq_ok_iff.mpr rfl
    refine ⟨⟨_, hvalid⟩ :: others, ?_, ?_⟩
    · rw [List.mapM_cons, hfile, hothers]
      rfl
    · rw [List.map_cons, List.map_cons, hval]

/-- The records that are expected: sorted, and those of the files that were written. -/
theorem expectedPluginFiles_ok (skillName : PackageName) (h : capturePlugin sha256 source = .ok c)
    (hmanifest : manifest.length ≤ maxPluginFileBytes) :
    ∃ files, expectedPluginFiles sha256 manifest skillName c.files = .ok files ∧
      (files.Pairwise fun a b => a.val.path.val < b.val.path.val) ∧
        ∀ x, (∃ f ∈ files, f.val = x) ↔ x ∈ candidateRecords sha256 manifest skillName c.files := by
  have hvalid : (pluginManifestFile sha256 manifest).validate = .ok () :=
    validate_capturedFile hmanifest (by decide : 0o644 ≤ 0o777)
  have hfirst : construct PluginCapturedFileData.validate (pluginManifestFile sha256 manifest) = .ok ⟨_, hvalid⟩ :=
    construct_eq_ok_iff.mpr rfl
  obtain ⟨others, hothers, hval⟩ := mapM_wrappedFile skillName h (fun f hf => hf)
  let all : List PluginCapturedFile := ⟨_, hvalid⟩ :: others
  have hall : all.map (·.val) = candidateRecords sha256 manifest skillName c.files := congrArg (_ :: ·) hval
  -- the wrapped paths differ from each other and from the manifest
  have hpaths : (all.map (·.val.path)).Nodup := by
    have htexts : (all.map (·.val.path)).map (·.val) =
        pluginJson :: c.files.map fun f => wrappedText skillName f.val.path.val := by
      have hrecords : (candidateRecords sha256 manifest skillName c.files).map (fun f => f.path.val) =
          pluginJson :: c.files.map fun f => wrappedText skillName f.val.path.val := by
        rw [candidateRecords, List.map_cons, List.map_map]
        rfl
      rw [← hrecords, ← hall, List.map_map, List.map_map]
      rfl
    refine List.Nodup.of_map (·.val) ?_
    rw [htexts]
    exact (List.nodup_append.mp (candidateTexts_nodup h)).2.1
  refine ⟨all.insertionSort CapturedLe, ?_, capturedFiles_pairwise hpaths, fun x => ?_⟩
  · rw [expectedPluginFiles, hfirst]
    show (c.files.mapM (fun item => construct PluginCapturedFileData.validate (wrappedFile skillName item)) >>= _) = _
    rw [hothers]
    rfl
  · rw [← hall, List.mem_map]
    simp only [(List.perm_insertionSort CapturedLe all).mem_iff]

/-- The bytes that are held are those of the captured files. -/
theorem mem_payloads_iff (h : capturePlugin sha256 source = .ok c) {path : PortablePath} {payload : List UInt8} :
    (path, payload) ∈ c.payloads ↔ ∃ f ∈ c.files, f.val.path = path ∧ heldPayload c f = payload := by
  have hcaptured := capturePlugin_spec h
  constructor
  · intro hmem
    obtain ⟨g, hg, hpath, -⟩ := (hcaptured.payloads_iff path payload).mp hmem
    obtain ⟨f, hf, hdescribed⟩ := (hcaptured.files_iff _).mpr ⟨g, hg, rfl⟩
    have hfpath : PyStr.ofText f.val.path.val = asPosix g.path := (Prod.mk.inj hdescribed).1
    obtain rfl : f.val.path = path := Subtype.ext (PyStr.ofText_injective (hfpath.trans hpath))
    have hlookup := (KeyedList.lookup_eq_some_iff_mem hcaptured.keys_nodup).mpr hmem
    refine ⟨f, hf, rfl, ?_⟩
    rw [heldPayload, hlookup]
    rfl
  · rintro ⟨f, hf, rfl, rfl⟩
    exact (KeyedList.lookup_eq_some_iff_mem hcaptured.keys_nodup).mp (heldPayload_eq h hf)

theorem wrappedPath_injective (skillName : PackageName) : Function.Injective (wrappedPath skillName) := by
  intro p q heq
  exact Subtype.ext (wrappedText_injective skillName (congrArg Subtype.val heq))

theorem pluginManifestPath_ne (skillName : PackageName) (p : PortablePath) :
    pluginManifestPath ≠ wrappedPath skillName p := by
  intro heq
  have htext : pluginJson = wrappedText skillName p.val := congrArg Subtype.val heq
  refine pluginJson_head ?_
  rw [htext, splitOn_wrappedText]
  rfl

theorem expectedPayloads_keys (h : capturePlugin sha256 source = .ok c) :
    ((expectedPayloads manifest skillName c.payloads).map Prod.fst).Nodup := by
  have hkeys : (expectedPayloads manifest skillName c.payloads).map Prod.fst =
      pluginManifestPath :: (c.payloads.map Prod.fst).map (wrappedPath skillName) := by
    rw [expectedPayloads, List.map_cons, List.map_map, List.map_map]
    rfl
  rw [hkeys, List.nodup_cons]
  refine ⟨fun hmem => ?_, (capturePlugin_spec h).keys_nodup.map (wrappedPath_injective skillName)⟩
  obtain ⟨p, -, heq⟩ := List.mem_map.mp hmem
  exact pluginManifestPath_ne skillName p heq.symm

theorem mem_expectedPayloads (h : capturePlugin sha256 source = .ok c) {path : PortablePath} {payload : List UInt8} :
    (path, payload) ∈ expectedPayloads manifest skillName c.payloads ↔
      ∃ g ∈ candidateFiles manifest skillName c, asPosix g.path = PyStr.ofText path.val ∧ g.payload = payload := by
  rw [expectedPayloads, candidateFiles, List.mem_cons, List.exists_mem_cons_iff, List.mem_map]
  refine or_congr ?_ ?_
  · rw [Prod.mk.injEq, named_pluginJson.asPosix_namesOf, PyStr.ofText_injective.eq_iff, eq_comm (a := pluginJson)]
    exact and_congr Subtype.ext_iff eq_comm
  · constructor
    · rintro ⟨⟨p, b⟩, hmem, heq⟩
      obtain ⟨f, hf, rfl, rfl⟩ := (mem_payloads_iff h).mp hmem
      obtain ⟨rfl, rfl⟩ := Prod.mk.inj heq
      refine ⟨_, List.mem_map_of_mem hf, ?_, rfl⟩
      exact (named_wrappedText (sourceFile_at h hf).1).asPosix_namesOf
    · rintro ⟨g, hg, hpath, rfl⟩
      obtain ⟨f, hf, rfl⟩ := List.mem_map.mp hg
      refine ⟨(f.val.path, heldPayload c f), (mem_payloads_iff h).mpr ⟨f, hf, rfl, rfl⟩, ?_⟩
      have htext : PyStr.ofText (wrappedText skillName f.val.path.val) = PyStr.ofText path.val :=
        (named_wrappedText (sourceFile_at h hf).1).asPosix_namesOf.symm.trans hpath
      exact Prod.ext (Subtype.ext (PyStr.ofText_injective htext)) rfl

theorem insertionSort_eq_of_perm {l l' : List Text} (h : l.Perm l') :
    l.insertionSort (fun a b => a ≤ b) = l'.insertionSort fun a b => a ≤ b := by
  refine List.Perm.eq_of_pairwise (fun a b _ _ hab hba => le_antisymm hab hba) (List.pairwise_insertionSort _ l)
    (List.pairwise_insertionSort _ l') ?_
  exact (List.perm_insertionSort _ l).trans (h.trans (List.perm_insertionSort _ l').symm)

/-- The directories that are found are those that were made. -/
theorem directories_of_capture (h : capturePlugin sha256 source = .ok c) {es : PluginEntries} (hd : es.Distinct)
    (hlisting : (listing es []).Perm (candidateNodes host manifest skillName c)) {w : PluginCapture}
    (hw : capturePlugin sha256 (candidateTree es hd) = .ok w) :
    w.directories.map (·.val) = expectedDirectories skillName c.directories c.files := by
  obtain ⟨ds, hsorted, hds⟩ := capturePlugin_directories hw
  have hnodes : (candidateNodes host manifest skillName c).filterMap listedDirectory =
      (directoryPaths skillName c.directories c.files).map namesOf := by
    have hfiles : (fileNodes host manifest skillName c).filterMap listedDirectory = [] := by
      rw [List.filterMap_eq_nil_iff, fileNodes, List.forall_mem_cons, List.forall_mem_map]
      exact ⟨rfl, fun f _ => rfl⟩
    rw [candidateNodes, List.filterMap_append, hfiles, List.append_nil, directoryNodes, List.filterMap_map,
      ← List.filterMap_eq_map]
    rfl
  have hbelow : ((directoriesBelow es []).map asPosix).Perm
      ((directoryPaths skillName c.directories c.files).map PyStr.ofText) := by
    have hposix : ((directoryPaths skillName c.directories c.files).map namesOf).map asPosix =
        (directoryPaths skillName c.directories c.files).map PyStr.ofText := by
      rw [List.map_map]
      exact List.map_congr_left fun path hpath => (named_directoryPaths h hpath).asPosix_namesOf
    rw [← hposix, ← hnodes, directoriesBelow_eq]
    exact (hlisting.filterMap listedDirectory).map asPosix
  -- both lists are sorted, so it is enough that they have the same members
  have hperm : (ds.map (·.val)).Perm (directoryPaths skillName c.directories c.files) := by
    rw [← List.map_perm_map_iff PyStr.ofText_injective, List.map_map]
    exact (List.Perm.of_eq hds).trans hbelow
  rw [hsorted, expectedDirectories, ← insertionSort_eq_of_perm hperm]
  exact List.map_insertionSort _ _ _ ds fun a _ b _ => Iff.rfl

/-- **The capture of a candidate is what is expected of it.** -/
theorem candidate_sameCapture (h : capturePlugin sha256 source = .ok c) {es : PluginEntries} (hd : es.Distinct)
    (hlisting : (listing es []).Perm (candidateNodes host manifest skillName c)) {w : PluginCapture}
    (hw : capturePlugin sha256 (candidateTree es hd) = .ok w) :
    ∃ files, expectedPluginFiles sha256 manifest skillName c.files = .ok files ∧
      SameCapture w files (expectedPayloads manifest skillName c.payloads)
        (expectedDirectories skillName c.directories c.files) := by
  obtain ⟨hfits, -, hreadable⟩ := (capture_candidate_iff h hd hlisting).mp ⟨w, hw⟩
  obtain ⟨files, hfiles, hsorted, hmem⟩ := expectedPluginFiles_ok skillName h
    (fitsWrappedCapture_iff.mp hfits).1
  have hcaptured := capturePlugin_spec hw
  have hbelow : ∀ g, g ∈ filesBelow es [] ↔ g ∈ candidateFiles manifest skillName c := fun g =>
    (filesBelow_perm h hreadable hlisting).mem_iff
  refine ⟨files, hfiles, ?_, fun path => ?_, directories_of_capture h hd hlisting hw⟩
  · -- both lists are sorted by path, and hold the same records
    have hsame : ∀ a, a ∈ w.files ↔ a ∈ files := by
      intro a
      have hw_iff : a ∈ w.files ↔ ∃ f ∈ w.files, f.val.described = a.val.described := by
        constructor
        · exact fun ha => ⟨a, ha, rfl⟩
        · rintro ⟨f, hf, heq⟩
          obtain rfl : f = a := Subtype.ext (described_injective heq)
          exact hf
      have hfiles_iff : a ∈ files ↔ ∃ f ∈ files, f.val = a.val := by
        constructor
        · exact fun ha => ⟨a, ha, rfl⟩
        · rintro ⟨f, hf, heq⟩
          obtain rfl : f = a := Subtype.ext heq
          exact hf
      have hdescribed : (∃ g ∈ filesBelow es [], g.described sha256 = a.val.described) ↔
          a.val.described ∈ (candidateFiles manifest skillName c).map (FileBelow.described sha256) := by
        rw [List.mem_map]
        exact exists_congr fun g => and_congr_left' (hbelow g)
      rw [hw_iff, hfiles_iff, hmem, hcaptured.files_iff]
      refine hdescribed.trans ?_
      rw [candidateFiles_described h, List.mem_map]
      constructor
      · rintro ⟨x, hx, heq⟩
        exact described_injective heq ▸ hx
      · exact fun ha => ⟨_, ha, rfl⟩
    have : Std.Antisymm fun a b : PluginCapturedFile => a.val.path.val < b.val.path.val :=
      ⟨fun a b hab hba => absurd hab (lt_asymm hba)⟩
    have : Std.Irrefl fun a b : PluginCapturedFile => a.val.path.val < b.val.path.val := ⟨fun a => lt_irrefl _⟩
    exact hcaptured.sorted.eq_of_mem_iff hsorted hsame
  · refine Option.ext fun payload => ?_
    rw [KeyedList.lookup_eq_some_iff_mem hcaptured.keys_nodup,
      KeyedList.lookup_eq_some_iff_mem (expectedPayloads_keys h), hcaptured.payloads_iff, mem_expectedPayloads h]
    exact exists_congr fun g => and_congr_left' (hbelow g)

end

/-! ### The round trip -/

/-- **Writing a captured skill as a plugin and capturing the plugin**: the writing makes
exactly the directories, the manifest and the files of the candidate unless the host refuses
a name; its capture returns exactly when the reserved bounds hold, the skill's name is none
that a capture refuses, and the files open; and what it returns is what the normalization
expects. -/
theorem normalization_round_trip {sha256 : List UInt8 → Sha256} {source : PluginTree} {c : PluginCapture}
    (h : capturePlugin sha256 source = .ok c) (host : CandidateHost) (manifest : List UInt8)
    (skillName : PackageName) :
    (¬ NamesUsable host skillName c →
      writeCandidate host manifest skillName c.files c.payloads c.directories = .error .osError) ∧
    (NamesUsable host skillName c → ∃ es, ∃ hd : es.Distinct,
      writeCandidate host manifest skillName c.files c.payloads c.directories = .ok es ∧
      (listing es []).Perm (candidateNodes host manifest skillName c) ∧
      ((∃ w, capturePlugin sha256 (candidateTree es hd) = .ok w) ↔
        fitsWrappedCapture manifest skillName c.files c.directories = true ∧ SafeSkillName skillName ∧
          Readable host c) ∧
      ∀ w, capturePlugin sha256 (candidateTree es hd) = .ok w →
        ∃ files, expectedPluginFiles sha256 manifest skillName c.files = .ok files ∧
          SameCapture w files (expectedPayloads manifest skillName c.payloads)
            (expectedDirectories skillName c.directories c.files)) := by
  refine ⟨writeCandidate_refused h, fun husable => ?_⟩
  obtain ⟨es, hwrite, hd, hlisting⟩ : ∃ es, writeCandidate host manifest skillName c.files c.payloads c.directories =
      .ok es ∧ es.Distinct ∧ (listing es []).Perm (candidateNodes host manifest skillName c) :=
    writeCandidate_ok h husable
  exact ⟨es, hd, hwrite, hlisting, capture_candidate_iff h hd hlisting,
    fun w hw => candidate_sameCapture h hd hlisting hw⟩

/-! ### One file -/

/-- A host that takes every name and opens every file. -/
def openHost : CandidateHost := ⟨fun _ => true, fun _ => none⟩

/-- A skill of one file, and the digest of any bytes. -/
def oneFileSource : PluginTree :=
  ⟨candidateDirectory, .cons skillMdName (.leaf (.regular 1 0o644 (.ok [35]))) .nil,
    ⟨List.not_mem_nil, trivial, trivial⟩, true⟩

theorem isHex_oneFileDigest : isHexOfLength 64 (List.replicate 64 '0') = true := isHexOfLength_replicate rfl

def oneFileDigest (_ : List UInt8) : Sha256 := ⟨List.replicate 64 '0', isHex_oneFileDigest⟩

def oneFileCapture : PluginCapture :=
  match capturePlugin oneFileDigest oneFileSource with
  | .ok c => c
  | .error _ => ⟨[], [], []⟩

theorem capture_oneFileSource : capturePlugin oneFileDigest oneFileSource = .ok oneFileCapture := by
  have hok : (capturePlugin oneFileDigest oneFileSource).isOk = true := by decide +kernel
  unfold oneFileCapture
  generalize capturePlugin oneFileDigest oneFileSource = x at hok ⊢
  cases x with
  | error e => cases hok
  | ok c => rfl

theorem isPackageName_demo : isPackageName "demo".toList = true := by decide +kernel

def demoName : PackageName := ⟨"demo".toList, isPackageName_demo⟩

theorem normalization_round_trip_oneFile : ∃ es, ∃ hd : es.Distinct,
    writeCandidate openHost [123, 125] demoName oneFileCapture.files oneFileCapture.payloads
      oneFileCapture.directories = .ok es ∧
    (listing es []).Perm (candidateNodes openHost [123, 125] demoName oneFileCapture) ∧
    ∃ w, capturePlugin oneFileDigest (candidateTree es hd) = .ok w ∧
      ∃ files, expectedPluginFiles oneFileDigest [123, 125] demoName oneFileCapture.files = .ok files ∧
        SameCapture w files (expectedPayloads [123, 125] demoName oneFileCapture.payloads)
          (expectedDirectories demoName oneFileCapture.directories oneFileCapture.files) := by
  have hfits : fitsWrappedCapture [123, 125] demoName oneFileCapture.files oneFileCapture.directories = true := by
    decide +kernel
  obtain ⟨es, hd, hwrite, hlisting, hcapture, hsame⟩ :=
    (normalization_round_trip capture_oneFileSource openHost [123, 125] demoName).2 fun _ _ _ _ => rfl
  obtain ⟨w, hw⟩ := hcapture.mpr ⟨hfits, by decide +kernel, rfl, fun _ _ => rfl⟩
  exact ⟨es, hd, hwrite, hlisting, w, hw, hsame w hw⟩

end SkillsSdk

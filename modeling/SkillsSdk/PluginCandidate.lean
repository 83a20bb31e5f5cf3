/-
SkillsSdk/PluginCandidate.lean

The candidate that is written for a standalone skill: its directories, its
manifest and its files, below a new and empty root.

The nodes are known before the first is made (`candidateNodes`), in an order in
which each stands behind the directories above it, so the writing makes exactly
these (`writeCandidate_ok`) unless the host refuses one of their names
(`writeCandidate_refused`).
-/
import SkillsSdk.Lib.KeyedList
import SkillsSdk.PathSafety
import SkillsSdk.PluginAcceptance
import SkillsSdk.PluginNormalization

namespace SkillsSdk

open NamedTree Directories

variable (sha256 : List UInt8 → Sha256)

/-! ### The host -/

/-- The file system below the destination, to which nothing else writes. -/
structure CandidateHost where
  /-- The file system takes the name. -/
  usable : FileName → Bool
  /-- What opening a file of the caller with these permission bits raises. -/
  opens : Nat → Option PyExc

/-- The order of `sorted(names)`. -/
def NameBefore (a b : FileName) : Prop := a.val.map PyChar.code < b.val.map PyChar.code

instance : DecidableRel NameBefore := fun _ _ => inferInstanceAs (Decidable (_ < _))

/-- The text as the name of an entry. -/
def fileName? (segment : Text) : Option FileName :=
  if h : isFileName (PyStr.ofText segment) = true then some ⟨PyStr.ofText segment, h⟩ else none

/-- The names of a path; the calls raise on a text that is no name. -/
def pathNames (path : Text) : Except PyExc (List FileName) :=
  match (path.splitOn '/').mapM fileName? with
  | some names => .ok names
  | none => .error .valueError

/-! ### The writing -/

/-- A directory of mode 0755. -/
def candidateDirectory : PluginDirectory := ⟨none, false, false⟩

/-- A file with the mode and the bytes that were written. -/
def candidateFile (host : CandidateHost) (payload : List UInt8) (mode : Nat) : PluginObservation :=
  .regular payload.length (mode % 0o1000)
    (match host.opens (mode % 0o1000) with
      | none => .ok payload
      | some e => .error e)

/-- Make one node below the root; every fault is an `OSError`. -/
def makeNode (host : CandidateHost) (node : PluginNode) (path : Text) (es : PluginEntries) :
    Except PyExc PluginEntries := do
  let names ← pathNames path
  (createNode NameBefore host.usable node names es).mapError fun _ => PyExc.osError

/-- `_create_directories`, below the entries of the root. -/
def makeDirectories (host : CandidateHost) (es : PluginEntries) (paths : List Text) : Except PyExc PluginEntries :=
  paths.foldlM (fun es path => makeNode host (.dir candidateDirectory .nil) path es) es

/-- `_write_file`. -/
def writeFile (host : CandidateHost) (path : Text) (payload : List UInt8) (mode : Nat) (es : PluginEntries) :
    Except PyExc PluginEntries :=
  makeNode host (.leaf (candidateFile host payload mode)) path es

/-- `f"skills/{skill_name}/{path}"`. -/
def wrappedText (skillName : PackageName) (path : Text) : Text := childPath skillName.val ++ '/' :: path

/-- The file of a record, with the bytes that were captured for it. -/
def writeRecord (host : CandidateHost) (skillName : PackageName) (payloads : CapturedBytes)
    (es : PluginEntries) (record : PluginCapturedFile) : Except PyExc PluginEntries :=
  match payloads.lookup record.val.path with
  | none => .error .keyError
  | some payload =>
    writeFile host (wrappedText skillName record.val.path.val) payload record.val.permissionMode es

/-- `_write_candidate`, below the new root. -/
def writeCandidate (host : CandidateHost) (manifest : List UInt8) (skillName : PackageName)
    (files : List PluginCapturedFile) (payloads : CapturedBytes) (directories : List PortablePath) :
    Except PyExc PluginEntries := do
  let es ← makeDirectories host .nil (directoryPaths skillName directories files)
  let es ← writeFile host "plugin.json".toList manifest 0o644 es
  files.foldlM (writeRecord host skillName payloads) es

/-- The tree below the new root, as a capture observes it. -/
def candidateTree (es : PluginEntries) (distinct : es.Distinct) : PluginTree :=
  ⟨candidateDirectory, es, distinct, true⟩

/-! ### What is expected of it -/

/-- `_fits_wrapped_capture`. -/
def fitsWrappedCapture (manifest : List UInt8) (skillName : PackageName) (files : List PluginCapturedFile)
    (directories : List PortablePath) : Bool :=
  let outputDirectories := directoryPaths skillName directories files
  decide (manifest.length ≤ maxPluginFileBytes) && decide (files.length + 1 ≤ maxPluginFiles) &&
    decide ((files.map (·.val.sizeBytes)).sum + manifest.length ≤ maxPluginTotalBytes) &&
    decide (files.length + 1 + outputDirectories.length ≤ maxPluginResources) &&
    decide ((outputDirectories.map fun path => path.count '/' + 1).foldr max 0 ≤ maxPluginDepth)

/-! ### Names of paths -/

/-- Every segment of the text is a name. -/
def Named (path : Text) : Prop := ∀ s ∈ path.splitOn '/', isFileName (PyStr.ofText s) = true

/-- The names of a text, of the segments that are names. -/
def namesOf (path : Text) : List FileName := (path.splitOn '/').filterMap fileName?

theorem fileName?_eq_some {s : Text} (h : isFileName (PyStr.ofText s) = true) :
    fileName? s = some ⟨PyStr.ofText s, h⟩ := dif_pos h

theorem mapM_fileName? {segments : List Text} (h : ∀ s ∈ segments, isFileName (PyStr.ofText s) = true) :
    segments.mapM fileName? = some (segments.filterMap fileName?) ∧
      (segments.filterMap fileName?).map Subtype.val = segments.map PyStr.ofText := by
  induction segments with
  | nil => exact ⟨rfl, rfl⟩
  | cons s segments ih =>
    obtain ⟨hmapM, hval⟩ := ih fun t ht => h t (List.mem_cons_of_mem s ht)
    have hs := fileName?_eq_some (h s List.mem_cons_self)
    constructor
    · rw [List.mapM_cons, hs, hmapM, List.filterMap_cons_some hs]
      rfl
    · rw [List.filterMap_cons_some hs, List.map_cons, List.map_cons, hval]

theorem Named.pathNames_eq {path : Text} (h : Named path) : pathNames path = .ok (namesOf path) := by
  rw [pathNames, (mapM_fileName? h).1]
  rfl

theorem Named.val_namesOf {path : Text} (h : Named path) :
    (namesOf path).map Subtype.val = (path.splitOn '/').map PyStr.ofText := (mapM_fileName? h).2

theorem Named.namesOf_ne_nil {path : Text} (h : Named path) : namesOf path ≠ [] := by
  intro hnil
  have hval := h.val_namesOf
  rw [hnil] at hval
  exact List.splitOn_ne_nil _ _ (List.map_eq_nil_iff.mp hval.symm)

theorem Named.asPosix_namesOf {path : Text} (h : Named path) : asPosix (namesOf path) = PyStr.ofText path := by
  have hjoin : asPosix (namesOf path) = List.intercalate [.scalar '/'] ((namesOf path).map Subtype.val) := by
    rcases hnames : namesOf path with - | ⟨name, names⟩
    · exact absurd hnames h.namesOf_ne_nil
    · rfl
  rw [hjoin, h.val_namesOf, ← ofText_intercalate, List.intercalate_splitOn]

/-- A path is known by its names. -/
theorem Named.namesOf_injective {p q : Text} (hp : Named p) (hq : Named q) (h : namesOf p = namesOf q) : p = q := by
  apply PyStr.ofText_injective
  rw [← hp.asPosix_namesOf, ← hq.asPosix_namesOf, h]

/-- The text of a captured path. -/
theorem named_of_portable {path : List FileName} (hne : path ≠ []) {p : PortablePath}
    (h : asPosix path = PyStr.ofText p.val) : Named p.val ∧ namesOf p.val = path := by
  have hsegments := segments_eq hne (portable?_eq_some_iff.mpr h)
  have hnamed : Named p.val := by
    intro s hs
    have hmem : PyStr.ofText s ∈ path.map Subtype.val := hsegments ▸ List.mem_map_of_mem hs
    obtain ⟨name, -, heq⟩ := List.mem_map.mp hmem
    exact heq ▸ name.2
  refine ⟨hnamed, List.map_injective_iff.mpr Subtype.val_injective ?_⟩
  rw [hnamed.val_namesOf, hsegments]

/-! ### The name of the skill -/

theorem packageName_ne_nil (name : PackageName) : name.val ≠ [] := by
  intro hnil
  have hname := name.2
  rw [hnil] at hname
  exact absurd hname (by decide)

theorem packageName_letters (name : PackageName) : ∀ c ∈ name.val, isLowerAlnum c = true ∨ c = '-' := by
  refine Rx.FullMatch.within ?_ ((Rx.fullmatch_iff _ _).mp name.2)
  exact ⟨⟨fun c hc => Or.inl hc, fun c hc => Or.inl hc⟩, fun c hc => Or.inr (beq_iff_eq.mp hc),
    fun c hc => Or.inl hc, fun c hc => Or.inl hc⟩

theorem packageName_letter_ne (name : PackageName) {d : Char} (hd : isLowerAlnum d = false) (hdash : d ≠ '-') :
    d ∉ name.val := by
  intro hmem
  rcases packageName_letters name d hmem with h | h
  · rw [hd] at h
    cases h
  · exact hdash h

theorem isFileName_packageName (name : PackageName) : isFileName (PyStr.ofText name.val) = true := by
  have hdot : '.' ∉ name.val := packageName_letter_ne name (by decide) (by decide)
  have hslash : '/' ∉ name.val := packageName_letter_ne name (by decide) (by decide)
  have hnul : '\x00' ∉ name.val := packageName_letter_ne name (by decide) (by decide)
  have hscalar : ∀ c : Char, PyChar.scalar c ∈ PyStr.ofText name.val ↔ c ∈ name.val := fun c => by
    simp [PyStr.ofText]
  have hne : ∀ s : String, '.' ∈ s.toList → PyStr.ofText name.val ≠ PyStr.lit s := by
    intro s hs heq
    exact hdot (PyStr.ofText_injective heq ▸ hs)
  simp only [isFileName, Bool.and_eq_true, bne_iff_ne, Bool.not_eq_true', List.contains_eq_mem, decide_eq_false_iff_not,
    hscalar]
  refine ⟨⟨⟨⟨?_, hne "." (by decide)⟩, hne ".." (by decide)⟩, hslash⟩, hnul⟩
  simpa [PyStr.ofText] using packageName_ne_nil name

theorem childPath_eq (name : PackageName) : childPath name.val = "skills".toList ++ '/' :: name.val := rfl

theorem wrappedText_eq (name : PackageName) (r : Text) :
    wrappedText name r = "skills".toList ++ '/' :: (name.val ++ '/' :: r) := by
  unfold wrappedText
  rw [childPath_eq, List.append_assoc, List.cons_append]

theorem splitOn_wrappedText (name : PackageName) (r : Text) :
    (wrappedText name r).splitOn '/' = "skills".toList :: name.val :: r.splitOn '/' := by
  rw [wrappedText_eq, List.splitOn_append_cons_self_of_not_mem (by decide),
    List.splitOn_append_cons_self_of_not_mem (slash_not_mem_packageName name)]

theorem splitOn_childPath (name : PackageName) : (childPath name.val).splitOn '/' = ["skills".toList, name.val] := by
  rw [childPath_eq, List.splitOn_append_cons_self_of_not_mem (by decide),
    List.splitOn_eq_singleton (slash_not_mem_packageName name)]

/-- A path below `skills`, of good segments. -/
theorem portable_below_skills {t : Text} (hletters : ∀ c ∈ t, c ≠ '\\' ∧ c ≠ '\r' ∧ c ≠ '\n')
    (hsegments : ∀ s ∈ t.splitOn '/', GoodSegment s) : Portable ("skills".toList ++ '/' :: t) := by
  have hletter : ("skills".toList.all fun c => !isSpace c && c != '\\' && c != '\r' && c != '\n') = true := by decide
  have hskills : ∀ c ∈ "skills".toList, isSpace c = false ∧ c ≠ '\\' ∧ c ≠ '\r' ∧ c ≠ '\n' := fun c hc => by
    simpa [and_assoc] using List.all_eq_true.mp hletter c hc
  have hs : 's' ∈ "skills".toList := by decide
  have hsplit : ("skills".toList ++ '/' :: t).splitOn '/' = "skills".toList :: t.splitOn '/' :=
    List.splitOn_append_cons_self_of_not_mem (by decide) t
  refine ⟨⟨'s', List.mem_append_left _ hs, (hskills _ hs).1⟩, fun c hc => ?_, fun s hs => ?_, fun s hs => ?_⟩
  · rcases List.mem_append.mp hc with hc | hc
    · exact (hskills c hc).2
    · rcases List.mem_cons.mp hc with rfl | hc
      · decide
      · exact hletters c hc
  · rw [hsplit] at hs
    rcases List.mem_cons.mp hs with rfl | hs
    · decide
    · exact hsegments s hs
  · rw [hsplit, List.head?_cons] at hs
    obtain rfl := Option.some.inj hs
    decide

theorem packageName_portable_letters (name : PackageName) : ∀ c ∈ name.val, c ≠ '\\' ∧ c ≠ '\r' ∧ c ≠ '\n' := by
  intro c hc
  refine ⟨fun heq => ?_, fun heq => ?_, fun heq => ?_⟩
  · exact packageName_letter_ne name (by decide) (by decide) (heq ▸ hc)
  · exact packageName_letter_ne name (by decide) (by decide) (heq ▸ hc)
  · exact packageName_letter_ne name (by decide) (by decide) (heq ▸ hc)

theorem goodSegment_packageName (name : PackageName) : GoodSegment name.val := by
  have hdot : '.' ∉ name.val := packageName_letter_ne name (by decide) (by decide)
  refine ⟨packageName_ne_nil name, fun heq => ?_, fun heq => ?_⟩
  · exact hdot (heq ▸ List.mem_cons_self)
  · exact hdot (heq ▸ List.mem_cons_self)

theorem portable_childPath (name : PackageName) : Portable (childPath name.val) := by
  rw [childPath_eq]
  refine portable_below_skills (packageName_portable_letters name) fun s hs => ?_
  rw [List.splitOn_eq_singleton (slash_not_mem_packageName name)] at hs
  obtain rfl := List.mem_singleton.mp hs
  exact goodSegment_packageName name

/-- A path below the directory of the child is portable, as the path inside is. -/
theorem portable_wrappedText (name : PackageName) {r : Text} (hr : Portable r) : Portable (wrappedText name r) := by
  rw [wrappedText_eq]
  refine portable_below_skills (fun c hc => ?_) fun s hs => ?_
  · rcases List.mem_append.mp hc with hc | hc
    · exact packageName_portable_letters name c hc
    · rcases List.mem_cons.mp hc with rfl | hc
      · decide
      · exact hr.letters c hc
  · rw [List.splitOn_append_cons_self_of_not_mem (slash_not_mem_packageName name)] at hs
    rcases List.mem_cons.mp hs with rfl | hs
    · exact goodSegment_packageName name
    · exact hr.segments s hs

/-- A path inside the child, at its place in the plugin. -/
def wrappedPath (name : PackageName) (path : PortablePath) : PortablePath :=
  ⟨wrappedText name path.val, portable_iff.mpr (portable_wrappedText name (portable_iff.mp path.2))⟩

/-! ### The captured source -/

section

variable {sha256 : List UInt8 → Sha256} {source : PluginTree} {c : PluginCapture}

/-- A captured file is a file of the source, with the bytes that are held for it. -/
theorem sourceFile_at (h : capturePlugin sha256 source = .ok c) {f : PluginCapturedFile} (hf : f ∈ c.files) :
    Named f.val.path.val ∧ ∃ size payload,
      At source.entries (namesOf f.val.path.val) (.leaf (.regular size f.val.permissionMode (.ok payload))) ∧
        c.payloads.lookup f.val.path = some payload ∧ f.val.sha256 = sha256 payload ∧
        f.val.sizeBytes = payload.length := by
  have hcaptured := capturePlugin_spec h
  obtain ⟨g, hg, hdescribed⟩ := (hcaptured.files_iff f.val.described).mp ⟨f, hf, rfl⟩
  obtain ⟨hpath, hsha, hsize, hmode⟩ : asPosix g.path = PyStr.ofText f.val.path.val ∧
      sha256 g.payload = f.val.sha256 ∧ g.payload.length = f.val.sizeBytes ∧ g.mode = f.val.permissionMode := by
    simpa [FileBelow.described, PluginCapturedFileData.described] using hdescribed
  obtain ⟨path, size, hgpath, hat⟩ := mem_filesBelow.mp hg
  obtain rfl : g.path = path := hgpath
  obtain ⟨hnamed, hnames⟩ := named_of_portable hat.ne_nil hpath
  refine ⟨hnamed, size, g.payload, ?_, ?_, hsha.symm, hsize.symm⟩
  · rw [hnames, ← hmode]
    exact hat
  · rw [KeyedList.lookup_eq_some_iff_mem hcaptured.keys_nodup]
    exact (hcaptured.payloads_iff _ _).mpr ⟨g, hg, hpath, rfl⟩

theorem directory_at (h : capturePlugin sha256 source = .ok c) {d : PortablePath} (hd : d ∈ c.directories) :
    Named d.val ∧ ∃ x sub, At source.entries (namesOf d.val) (.dir x sub) := by
  obtain ⟨path, hpath, htext⟩ := ((capturePlugin_spec h).directories_iff d).mp hd
  rw [directoriesBelow_eq] at hpath
  obtain ⟨⟨p, x⟩, hmem, hlisted⟩ := List.mem_filterMap.mp hpath
  cases x with
  | inl o => cases hlisted
  | inr x =>
    obtain rfl : p = path := Option.some.inj hlisted
    obtain ⟨sub, hat⟩ := at_dir_of_mem_listing hmem
    obtain ⟨hnamed, hnames⟩ := named_of_portable hat.ne_nil htext
    exact ⟨hnamed, x, sub, hnames ▸ hat⟩

/-- A path above a named one is named, and its names come first. -/
theorem Named.above {q path : Text} (h : Named path) (hq : Above '/' q path) :
    Named q ∧ ∃ rest, rest ≠ [] ∧ namesOf path = namesOf q ++ rest := by
  obtain ⟨rest, rfl⟩ := hq
  have hsplit : (q ++ '/' :: rest).splitOn '/' = q.splitOn '/' ++ rest.splitOn '/' :=
    List.splitOn_append_cons_self q rest
  have hnamed : Named q := fun s hs => h s (by rw [hsplit]; exact List.mem_append_left _ hs)
  have hrest : Named rest := fun s hs => h s (by rw [hsplit]; exact List.mem_append_right _ hs)
  refine ⟨hnamed, namesOf rest, hrest.namesOf_ne_nil, ?_⟩
  rw [namesOf, hsplit, List.filterMap_append]
  rfl

theorem Named.dir_above {q path : Text} (h : Named path) {node : PluginNode}
    (hat : At source.entries (namesOf path) node) (hq : Above '/' q path) :
    Named q ∧ ∃ x sub, At source.entries (namesOf q) (.dir x sub) := by
  obtain ⟨hnamed, rest, hrest, hnames⟩ := h.above hq
  exact ⟨hnamed, (hnames ▸ hat).dir_of_append hnamed.namesOf_ne_nil hrest⟩

/-- The directories that are made below the child are directories of the source. -/
theorem sourceDirectory_at (h : capturePlugin sha256 source = .ok c) {r : Text}
    (hr : IsSourceDirectory c.directories c.files r) :
    Named r ∧ ∃ x sub, At source.entries (namesOf r) (.dir x sub) := by
  rcases hr with ⟨d, hd, rfl | habove⟩ | ⟨f, hf, habove⟩
  · exact directory_at h hd
  · obtain ⟨hnamed, x, sub, hat⟩ := directory_at h hd
    exact hnamed.dir_above hat habove
  · obtain ⟨hnamed, size, payload, hat, -⟩ := sourceFile_at h hf
    exact hnamed.dir_above hat habove

/-- No captured file stands where a directory is made. -/
theorem file_ne_directory (h : capturePlugin sha256 source = .ok c) {f : PluginCapturedFile} (hf : f ∈ c.files)
    {r : Text} (hr : IsSourceDirectory c.directories c.files r) : r ≠ f.val.path.val := by
  rintro rfl
  obtain ⟨-, size, payload, hat, -⟩ := sourceFile_at h hf
  obtain ⟨-, x, sub, hat'⟩ := sourceDirectory_at h hr
  cases hat.unique source.distinct hat'

end

/-! ### The nodes of the candidate -/

def pluginJson : Text := "plugin.json".toList

/-- The bytes that are held for a captured file. -/
def heldPayload (c : PluginCapture) (f : PluginCapturedFile) : List UInt8 :=
  (c.payloads.lookup f.val.path).getD []

/-- The directories of the candidate, in the order in which they are made. -/
def directoryNodes (skillName : PackageName) (c : PluginCapture) :
    List (List FileName × (PluginObservation ⊕ PluginDirectory)) :=
  (directoryPaths skillName c.directories c.files).map fun path => (namesOf path, .inr candidateDirectory)

/-- The files of the candidate, in the order in which they are written. -/
def fileNodes (host : CandidateHost) (manifest : List UInt8) (skillName : PackageName) (c : PluginCapture) :
    List (List FileName × (PluginObservation ⊕ PluginDirectory)) :=
  (namesOf pluginJson, .inl (candidateFile host manifest 0o644)) ::
    c.files.map fun f => (namesOf (wrappedText skillName f.val.path.val),
      .inl (candidateFile host (heldPayload c f) f.val.permissionMode))

/-- What the candidate consists of. -/
def candidateNodes (host : CandidateHost) (manifest : List UInt8) (skillName : PackageName) (c : PluginCapture) :
    List (List FileName × (PluginObservation ⊕ PluginDirectory)) :=
  directoryNodes skillName c ++ fileNodes host manifest skillName c

section

variable {sha256 : List UInt8 → Sha256} {source : PluginTree} {c : PluginCapture} {host : CandidateHost}
  {manifest : List UInt8} {skillName : PackageName}

theorem named_pluginJson : Named pluginJson := by
  have hall : ∀ s ∈ pluginJson.splitOn '/', isFileName (PyStr.ofText s) = true := by decide +kernel
  exact hall

theorem named_childPath (skillName : PackageName) : Named (childPath skillName.val) := by
  intro s hs
  rw [splitOn_childPath, List.mem_cons, List.mem_singleton] at hs
  rcases hs with rfl | rfl
  · decide
  · exact isFileName_packageName skillName

theorem named_wrappedText {r : Text} (hr : Named r) : Named (wrappedText skillName r) := by
  intro s hs
  rw [splitOn_wrappedText, List.mem_cons, List.mem_cons, ← or_assoc] at hs
  rcases hs with hs | hs
  · refine named_childPath skillName s ?_
    rw [splitOn_childPath, List.mem_cons, List.mem_singleton]
    exact hs
  · exact hr s hs

theorem namesOf_wrappedText {r : Text} :
    namesOf (wrappedText skillName r) = namesOf (childPath skillName.val) ++ namesOf r := by
  rw [namesOf, namesOf, namesOf, splitOn_wrappedText, splitOn_childPath, ← List.filterMap_append]
  rfl

theorem wrappedText_injective (skillName : PackageName) : Function.Injective (wrappedText skillName) := by
  intro r r' h
  rw [wrappedText, wrappedText] at h
  exact (List.cons.inj (List.append_cancel_left h)).2

/-- The directories are named. -/
theorem named_directoryPaths (h : capturePlugin sha256 source = .ok c) {path : Text}
    (hpath : path ∈ directoryPaths skillName c.directories c.files) : Named path := by
  rcases mem_directoryPaths.mp hpath with rfl | rfl | ⟨r, rfl, hr⟩
  · exact (named_childPath skillName).above ⟨skillName.val, rfl⟩ |>.1
  · exact named_childPath skillName
  · exact named_wrappedText (sourceDirectory_at h hr).1

/-! ### Their order -/

/-- Everything but the manifest is below `skills`. -/
theorem head?_of_mem_directoryPaths {path : Text} (hpath : path ∈ directoryPaths skillName c.directories c.files) :
    (path.splitOn '/').head? = some "skills".toList := by
  rcases mem_directoryPaths.mp hpath with rfl | rfl | ⟨r, rfl, -⟩
  · rw [List.splitOn_eq_singleton (by decide)]
    rfl
  · rw [splitOn_childPath]
    rfl
  · have hsplit := splitOn_wrappedText skillName r
    rw [wrappedText] at hsplit
    rw [hsplit]
    rfl

theorem pluginJson_head : (pluginJson.splitOn '/').head? ≠ some "skills".toList := by decide +kernel

/-- No file of the child is one of the directories. -/
theorem wrappedText_not_mem (h : capturePlugin sha256 source = .ok c) {f : PluginCapturedFile} (hf : f ∈ c.files) :
    wrappedText skillName f.val.path.val ∉ directoryPaths skillName c.directories c.files := by
  intro hmem
  have hlength := congrArg List.length (splitOn_wrappedText skillName f.val.path.val)
  have hpos := List.length_pos_iff.mpr (List.splitOn_ne_nil '/' f.val.path.val)
  rw [List.length_cons, List.length_cons] at hlength
  rcases mem_directoryPaths.mp hmem with heq | heq | ⟨r, heq, hr⟩
  · rw [heq, List.splitOn_eq_singleton (by decide), List.length_singleton] at hlength
    omega
  · rw [heq, splitOn_childPath, List.length_cons, List.length_singleton] at hlength
    omega
  · obtain rfl : f.val.path.val = r := wrappedText_injective skillName heq
    exact file_ne_directory h hf hr rfl

/-- The texts of the nodes. -/
def candidateTexts (skillName : PackageName) (c : PluginCapture) : List Text :=
  directoryPaths skillName c.directories c.files ++
    pluginJson :: c.files.map fun f => wrappedText skillName f.val.path.val

theorem candidateNodes_fst : (candidateNodes host manifest skillName c).map Prod.fst =
    (candidateTexts skillName c).map namesOf := by
  simp only [candidateNodes, directoryNodes, fileNodes, candidateTexts, List.map_append, List.map_cons, List.map_map]
  rfl

theorem named_candidateTexts (h : capturePlugin sha256 source = .ok c) {path : Text}
    (hpath : path ∈ candidateTexts skillName c) : Named path := by
  rcases List.mem_append.mp hpath with hpath | hpath
  · exact named_directoryPaths h hpath
  · rcases List.mem_cons.mp hpath with rfl | hpath
    · exact named_pluginJson
    · obtain ⟨f, hf, rfl⟩ := List.mem_map.mp hpath
      exact named_wrappedText (sourceFile_at h hf).1

theorem files_paths_nodup (h : capturePlugin sha256 source = .ok c) :
    (c.files.map fun f => f.val.path.val).Nodup := by
  rw [List.Nodup, List.pairwise_map]
  exact (capturePlugin_spec h).sorted.imp fun hlt => ne_of_lt hlt

theorem candidateTexts_nodup (h : capturePlugin sha256 source = .ok c) : (candidateTexts skillName c).Nodup := by
  have hdirs : (directoryPaths skillName c.directories c.files).Nodup :=
    (directoryPaths_creation_order skillName c.directories c.files).1
  have hwrapped : (c.files.map fun f => wrappedText skillName f.val.path.val).Nodup := by
    have hmap := (files_paths_nodup h).map (wrappedText_injective skillName)
    rwa [List.map_map] at hmap
  refine List.nodup_append.mpr ⟨hdirs, List.nodup_cons.mpr ⟨fun hmem => ?_, hwrapped⟩, ?_⟩
  · obtain ⟨f, -, heq⟩ := List.mem_map.mp hmem
    refine pluginJson_head ?_
    rw [← heq, splitOn_wrappedText]
    rfl
  · rintro path hpath path' hpath' rfl
    rcases List.mem_cons.mp hpath' with rfl | hpath'
    · exact pluginJson_head (head?_of_mem_directoryPaths hpath)
    · obtain ⟨f, hf, rfl⟩ := List.mem_map.mp hpath'
      exact wrappedText_not_mem h hf hpath

theorem candidateNodes_nodup (h : capturePlugin sha256 source = .ok c) :
    ((candidateNodes host manifest skillName c).map Prod.fst).Nodup := by
  rw [candidateNodes_fst]
  exact (candidateTexts_nodup h).map_on fun p hp q hq heq =>
    (named_candidateTexts h hp).namesOf_injective (named_candidateTexts h hq) heq

/-- What stands above the names of a path: the names of a directory above it. -/
theorem Named.exists_above {path : Text} (h : Named path) {q : List FileName} (hq : q ≠ [])
    (hleading : q <+: namesOf path) (hne : q ≠ namesOf path) : ∃ t, q = namesOf t ∧ Above '/' t path := by
  obtain ⟨rest, hrest⟩ := hleading
  have hval := congrArg (List.map Subtype.val) hrest
  rw [List.map_append, h.val_namesOf] at hval
  -- the segments of the names of `q`
  obtain ⟨front, back, hsplit, hfront, hback⟩ := List.map_eq_append_iff.mp hval.symm
  have hnamed : ∀ s ∈ front, isFileName (PyStr.ofText s) = true := fun s hs =>
    h s (hsplit ▸ List.mem_append_left back hs)
  have hfrontne : front ≠ [] := by
    rintro rfl
    exact hq (List.map_eq_nil_iff.mp hfront.symm)
  have hproper : front ≠ path.splitOn '/' := by
    intro heq
    rw [← heq] at hsplit
    have hnil : back = [] := by simpa using hsplit
    rw [hnil] at hback
    have hrestnil : rest = [] := List.map_eq_nil_iff.mp hback.symm
    rw [hrestnil, List.append_nil] at hrest
    exact hne hrest
  obtain ⟨t, ht, habove⟩ := above_of_prefix hfrontne ⟨back, hsplit.symm⟩ hproper
  refine ⟨t, List.map_injective_iff.mpr Subtype.val_injective ?_, habove⟩
  rw [(h.above habove).1.val_namesOf, ht, hfront]

theorem creatable_directoryNodes (h : capturePlugin sha256 source = .ok c) :
    Creatable ([] : List (List FileName × (PluginObservation ⊕ PluginDirectory))) (directoryNodes skillName c) := by
  have hnodup : ((directoryNodes skillName c).map Prod.fst).Nodup := by
    rw [directoryNodes, List.map_map]
    exact (directoryPaths_creation_order skillName c.directories c.files).1.map_on fun p hp q hq heq =>
      (named_directoryPaths h hp).namesOf_injective (named_directoryPaths h hq) heq
  refine ⟨hnodup, fun p hp => ?_, fun front p back heq q hq hleading hne => ?_⟩
  · obtain ⟨path, hpath, rfl⟩ := List.mem_map.mp hp
    exact (named_directoryPaths h hpath).namesOf_ne_nil
  · obtain ⟨front', rest, hlist, rfl, hrest⟩ := List.map_eq_append_iff.mp heq
    obtain ⟨path, back', rfl, rfl, rfl⟩ := List.map_eq_cons_iff.mp hrest
    have hmem : path ∈ directoryPaths skillName c.directories c.files := by
      rw [hlist]
      simp
    obtain ⟨t, rfl, habove⟩ := (named_directoryPaths h hmem).exists_above hq hleading hne
    exact ⟨candidateDirectory, List.mem_map_of_mem (above_mem_before hlist habove)⟩

theorem not_above_pluginJson {q : Text} : ¬ Above '/' q pluginJson := not_above_of_not_mem (by decide)

/-- What stands above a file of the candidate is one of its directories. -/
theorem creatable_fileNodes (h : capturePlugin sha256 source = .ok c) :
    Creatable (directoryNodes skillName c) (fileNodes host manifest skillName c) := by
  have hnodup : ((candidateNodes host manifest skillName c).map Prod.fst).Nodup := candidateNodes_nodup h
  rw [candidateNodes, List.map_append] at hnodup
  refine Creatable.of_parents hnodup (fun p hp => ?_) fun p hp q hq hleading hne => ?_
  · rcases List.mem_cons.mp hp with rfl | hp
    · exact named_pluginJson.namesOf_ne_nil
    · obtain ⟨f, hf, rfl⟩ := List.mem_map.mp hp
      exact (named_wrappedText (sourceFile_at h hf).1).namesOf_ne_nil
  · rcases List.mem_cons.mp hp with rfl | hp
    · obtain ⟨t, -, habove⟩ := named_pluginJson.exists_above hq hleading hne
      exact absurd habove not_above_pluginJson
    · obtain ⟨f, hf, rfl⟩ := List.mem_map.mp hp
      obtain ⟨t, rfl, habove⟩ := (named_wrappedText (sourceFile_at h hf).1).exists_above hq hleading hne
      refine ⟨candidateDirectory, List.mem_map_of_mem (mem_directoryPaths.mpr ?_)⟩
      rw [wrappedText, above_append_iff] at habove
      rcases habove with rfl | habove | ⟨w, rfl, habove⟩
      · exact Or.inr (Or.inl rfl)
      · exact Or.inl (above_childPath.mp habove)
      · exact Or.inr (Or.inr ⟨w, rfl, Or.inr ⟨f, hf, habove⟩⟩)

theorem creatable_candidateNodes (h : capturePlugin sha256 source = .ok c) :
    Creatable ([] : List (List FileName × (PluginObservation ⊕ PluginDirectory)))
      (candidateNodes host manifest skillName c) :=
  (creatable_directoryNodes h).append (creatable_fileNodes h)

/-! ### The writing -/

theorem mapError_bind {ε ε' : Type} {α β : Type} (x : Except ε α) (f : α → Except ε β) (g : ε → ε') :
    (x >>= f).mapError g = x.mapError g >>= fun a => (f a).mapError g := by
  rcases x with e | a
  · rfl
  · rfl

/-- The creation of nodes, each fault an `OSError`. -/
def makeNodes (host : CandidateHost) (es : PluginEntries)
    (nodes : List (List FileName × (PluginObservation ⊕ PluginDirectory))) : Except PyExc PluginEntries :=
  (createNodes NameBefore host.usable es nodes).mapError fun _ => PyExc.osError

theorem makeNodes_cons (es : PluginEntries) (p : List FileName × (PluginObservation ⊕ PluginDirectory))
    (nodes : List (List FileName × (PluginObservation ⊕ PluginDirectory))) :
    makeNodes host es (p :: nodes) =
      (createNode NameBefore host.usable (freshNode p.2) p.1 es).mapError (fun _ => PyExc.osError) >>=
        fun es => makeNodes host es nodes := by
  rw [makeNodes, createNodes_cons, mapError_bind]
  rfl

theorem makeNodes_append (es : PluginEntries)
    (nodes nodes' : List (List FileName × (PluginObservation ⊕ PluginDirectory))) :
    makeNodes host es (nodes ++ nodes') = makeNodes host es nodes >>= fun es => makeNodes host es nodes' := by
  rw [makeNodes, createNodes_append, mapError_bind]
  rfl

theorem Named.makeNode_eq {path : Text} (h : Named path) (node : PluginNode) (es : PluginEntries) :
    makeNode host node path es =
      (createNode NameBefore host.usable node (namesOf path) es).mapError fun _ => PyExc.osError := by
  rw [makeNode, h.pathNames_eq]
  rfl

theorem makeDirectories_eq {paths : List Text} (h : ∀ path ∈ paths, Named path) (es : PluginEntries) :
    makeDirectories host es paths =
      makeNodes host es (paths.map fun path => (namesOf path, .inr candidateDirectory)) := by
  induction paths generalizing es with
  | nil => rfl
  | cons path paths ih =>
    have hrest : ∀ es, makeDirectories host es paths = makeNodes host es _ :=
      ih fun q hq => h q (List.mem_cons_of_mem path hq)
    rw [List.map_cons, makeNodes_cons, makeDirectories, List.foldlM_cons, (h path List.mem_cons_self).makeNode_eq]
    exact congrArg _ (funext hrest)

theorem heldPayload_eq (h : capturePlugin sha256 source = .ok c) {f : PluginCapturedFile} (hf : f ∈ c.files) :
    c.payloads.lookup f.val.path = some (heldPayload c f) := by
  obtain ⟨-, -, payload, -, hlookup, -⟩ := sourceFile_at h hf
  rw [heldPayload, hlookup]
  rfl

theorem writeRecords_eq (h : capturePlugin sha256 source = .ok c) {files : List PluginCapturedFile}
    (hfiles : ∀ f ∈ files, f ∈ c.files) (es : PluginEntries) :
    files.foldlM (writeRecord host skillName c.payloads) es =
      makeNodes host es (files.map fun f => (namesOf (wrappedText skillName f.val.path.val),
        .inl (candidateFile host (heldPayload c f) f.val.permissionMode))) := by
  induction files generalizing es with
  | nil => rfl
  | cons f files ih =>
    have hf := hfiles f List.mem_cons_self
    have hwrite : writeRecord host skillName c.payloads es f =
        makeNode host (.leaf (candidateFile host (heldPayload c f) f.val.permissionMode))
          (wrappedText skillName f.val.path.val) es := by
      rw [writeRecord, heldPayload_eq h hf]
      rfl
    have hrest := ih fun g hg => hfiles g (List.mem_cons_of_mem f hg)
    rw [List.map_cons, makeNodes_cons, List.foldlM_cons, hwrite,
      (named_wrappedText (sourceFile_at h hf).1).makeNode_eq]
    exact congrArg _ (funext hrest)

/-- The writing makes the nodes of the candidate, one after another. -/
theorem writeCandidate_eq (h : capturePlugin sha256 source = .ok c) :
    writeCandidate host manifest skillName c.files c.payloads c.directories =
      makeNodes host .nil (candidateNodes host manifest skillName c) := by
  have hdirs : makeDirectories host .nil (directoryPaths skillName c.directories c.files) =
      makeNodes host .nil (directoryNodes skillName c) :=
    makeDirectories_eq (fun path hpath => named_directoryPaths h hpath) .nil
  have hrest : ∀ es, (writeFile host pluginJson manifest 0o644 es >>= fun es =>
      c.files.foldlM (writeRecord host skillName c.payloads) es) =
        makeNodes host es (fileNodes host manifest skillName c) := by
    intro es
    rw [fileNodes, makeNodes_cons, writeFile, named_pluginJson.makeNode_eq]
    exact congrArg _ (funext fun es => writeRecords_eq h (fun f hf => hf) es)
  rw [candidateNodes, makeNodes_append, writeCandidate, hdirs]
  exact congrArg _ (funext hrest)

/-- The host takes every name of the candidate. -/
def NamesUsable (host : CandidateHost) (skillName : PackageName) (c : PluginCapture) : Prop :=
  ∀ path ∈ candidateTexts skillName c, ∀ name ∈ namesOf path, host.usable name = true

theorem namesUsable_iff : NamesUsable host skillName c ↔
    ∀ p ∈ candidateNodes host manifest skillName c, ∀ name ∈ p.1, host.usable name = true := by
  have hfst : (candidateNodes host manifest skillName c).map Prod.fst = _ := candidateNodes_fst
  rw [NamesUsable, ← List.forall_mem_map (P := fun names => ∀ name ∈ names, host.usable name = true), ← hfst,
    List.forall_mem_map]

/-- **The candidate is written as a whole** when the host takes its names. -/
theorem writeCandidate_ok (h : capturePlugin sha256 source = .ok c) (husable : NamesUsable host skillName c) :
    ∃ es, writeCandidate host manifest skillName c.files c.payloads c.directories = .ok es ∧ es.Distinct ∧
      (listing es []).Perm (candidateNodes host manifest skillName c) := by
  have hcreatable : Creatable (listing (.nil : PluginEntries) []) (candidateNodes host manifest skillName c) :=
    creatable_candidateNodes h
  obtain ⟨es, hcreate, hdistinct, hlisting⟩ :=
    createNodes_ok NameBefore distinct_nil hcreatable (namesUsable_iff.mp husable)
  refine ⟨es, ?_, hdistinct, hlisting⟩
  rw [writeCandidate_eq h, makeNodes, hcreate]
  rfl

theorem writeCandidate_refused (h : capturePlugin sha256 source = .ok c) (hrefused : ¬ NamesUsable host skillName c) :
    writeCandidate host manifest skillName c.files c.payloads c.directories = .error .osError := by
  have hcreatable : Creatable (listing (.nil : PluginEntries) []) (candidateNodes host manifest skillName c) :=
    creatable_candidateNodes h
  have hcreate := createNodes_refused NameBefore distinct_nil hcreatable
    (fun p hp => absurd hp List.not_mem_nil) (mt namesUsable_iff.mpr hrefused)
  rw [writeCandidate_eq h, makeNodes, hcreate]
  rfl

end

end SkillsSdk

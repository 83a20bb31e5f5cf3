/-
SkillsSdk/PluginChildren.lean

A skill inside a plugin and the same skill on its own.

The plugin validator builds the result of a child from the capture of the whole
plugin (`childOf`); `validate_skill_package` scans the directory of the skill.
Of a tree that the plugin capture has taken the two make the same of every file
and directory, but for one thing: the capture has checked paths that start with
`skills/`, and the scan checks paths that start with the names in the skill
(`StrayName`).
-/
import SkillsSdk.PathSafety
import SkillsSdk.PluginCapture
import SkillsSdk.SkillHazards

namespace SkillsSdk

open NamedTree

/-! ### The child of a plugin -/

def skillDirectoryNameNotId : FindingText :=
  (invalidPackageRoot.1,
    literal "skill directory must use a portable package identifier" (by decide +kernel))

/-- A `ValidationError` is a value error to the handlers of the plugin validator. -/
def SkillRaised.toExc : SkillRaised → PyExc
  | .validationError _ => .valueError
  | .exc e => e

/-- `PackageManifestFile(…)` of a captured file, under its path inside the child. -/
def childRecord (f : PluginCapturedFile) (path : Text) : Except PyExc PackageManifestFile :=
  if h : isPortable path = true then .ok ⟨⟨path, h⟩, f.val.sha256, f.val.sizeBytes, fileRole path⟩
  else .error .valueError

/-- The records of the files below the directory. -/
def childRecords (directory : Text) (files : List PluginCapturedFile) :
    Except PyExc (List PackageManifestFile) :=
  (files.filterMap fun f => (relativeTo directory f.val.path.val).map (f, ·)).mapM fun c =>
    childRecord c.1 c.2

/-- The captured bytes below the directory.  A path that is not portable is left
out: its record has raised. -/
def childCaptured (directory : Text) (payloads : CapturedBytes) : CapturedBytes :=
  payloads.filterMap fun c => (relativeTo directory c.1.val).bind fun path =>
    if h : isPortable path = true then some (⟨path, h⟩, c.2) else none

/-- The name of `Path(path)`. -/
def pathName (path : Text) : Text := ((path.splitOn '/').getLast?).getD []

variable (parsers : Parsers) (sha256 : List UInt8 → Sha256)

/-- What `_child` finds in the captured bytes of a child. -/
def childFindings (name : Text) (captured : CapturedBytes) (skillMd : List UInt8) :
    Except PyExc (Option SkillIdentity × List SkillPackageFinding) := do
  let (identity, entrypoint) ← capturedSkillIdentity parsers (PyStr.ofText name) (some skillMd) {}
  let required ← (packagePolicyFindings parsers captured {}).mapError SkillRaised.toExc
  let named := if isIdentifier name then [] else [plainFinding skillDirectoryNameNotId]
  return (identity, entrypoint ++ required ++ named)

/-- The validation that `_child` builds. -/
def childValidation (name : Text) (revision : GitRevision) (records : List PackageManifestFile)
    (captured : CapturedBytes) (skillMd : List UInt8) : Except PyExc SkillPackageValidation := do
  let (identity, findings) ← childFindings parsers name captured skillMd
  let candidate ← (candidateOf sha256 (PyStr.ofText name) revision records).mapError SkillRaised.toExc
  (construct SkillPackageValidationData.validate
    { candidate := some candidate
      status := if findings = [] then .pass else .blocked
      identity := identity
      files := records
      findings := findings }).mapError fun _ => .valueError

/-- `_child`. -/
def childOf (path : PortablePath) (files : List PluginCapturedFile) (payloads : CapturedBytes)
    (revision : GitRevision) : Except PyExc PluginSkillBinding := do
  let records ← childRecords path.val files
  let captured := childCaptured path.val payloads
  match captured.lookup skillMdPath with
  | none => .error .keyError
  | some skillMd =>
    let validation ← childValidation parsers sha256 (pathName path.val) revision records captured skillMd
    (construct PluginSkillBindingData.validate ⟨path, validation⟩).mapError fun _ => .valueError

/-! ### The skill on its own -/

mutual

/-- The directory as a scan of it finds it, at rest. -/
def observedEntries : PluginEntries → PackageEntries
  | .nil => .nil
  | .cons name node rest => .cons name (observedNode node) (observedEntries rest)

def observedNode : PluginNode → PackageNode
  | .leaf (.regular _ _ (.ok payload)) => .leaf (.regular (.read payload true))
  | .leaf (.regular _ _ (.error _)) => .leaf (.regular .failed)
  | .leaf .other => .leaf .special
  | .dir _ entries => .dir false (observedEntries entries)

end

def skillsName : FileName := ⟨PyStr.lit "skills", by decide +kernel⟩

def skillMdName : FileName := ⟨PyStr.lit "SKILL.md", by decide +kernel⟩

/-- A skill of a captured plugin: a directory under `skills` with a regular SKILL.md. -/
structure CapturedSkill where
  tree : PluginTree
  capture : PluginCapture
  captured : capturePlugin sha256 tree = .ok capture
  skillsDirectory : PluginDirectory
  skills : PluginEntries
  under : tree.entries.Has skillsName (.dir skillsDirectory skills)
  name : FileName
  directory : PluginDirectory
  entries : PluginEntries
  child : skills.Has name (.dir directory entries)
  size : Nat
  mode : Nat
  skillMd : List UInt8
  entrypoint : entries.Has skillMdName (.leaf (.regular size mode (.ok skillMd)))
  /-- The path that the plugin validator gives the child. -/
  path : PortablePath
  path_eq : asPosix [skillsName, name] = PyStr.ofText path.val

variable {parsers} {sha256}

theorem names_observedEntries (es : PluginEntries) : (observedEntries es).names = es.names := by
  induction es using Entries.rec (motive_1 := fun _ => True) with
  | leaf => trivial
  | dir => trivial
  | nil => rfl
  | cons name node rest _ ih =>
    rw [observedEntries, Entries.names, Entries.names, ih]

mutual

theorem distinct_observedEntries : ∀ {es : PluginEntries}, es.Distinct → (observedEntries es).Distinct
  | .nil, _ => trivial
  | .cons _ _ rest, h => ⟨by rw [names_observedEntries]; exact h.1,
      distinct_observedNode h.2.1, distinct_observedEntries h.2.2⟩

theorem distinct_observedNode : ∀ {node : PluginNode}, node.Distinct → (observedNode node).Distinct
  | .leaf (.regular _ _ (.ok _)), _ => trivial
  | .leaf (.regular _ _ (.error _)), _ => trivial
  | .leaf .other, _ => trivial
  | .dir _ _, h => distinct_observedEntries h

end

theorem CapturedSkill.distinct (s : CapturedSkill sha256) : s.entries.Distinct := by
  have hskills : s.skills.Distinct := s.under.distinct s.tree.distinct
  exact s.child.distinct hskills

/-- The directory of the skill, as the standalone validator is given it. -/
def CapturedSkill.source (s : CapturedSkill sha256) : PackageSource where
  rootName := s.name.val
  isDirectory := .ok true
  hasSkillMd := .ok true
  root := .listed false (observedEntries s.entries)
  distinct := distinct_observedEntries s.distinct

/-- The child result and the standalone result are there and say the same. -/
def ChildAgrees (parsers : Parsers) (s : CapturedSkill sha256) (revision : GitRevision) : Prop :=
  ∃ r b, validateSkillPackage parsers sha256 s.source (PyStr.ofText revision.val) = .ok r ∧
    childOf parsers sha256 s.path s.capture.files s.capture.payloads revision = .ok b ∧
    b.val.validation.val.candidate = r.val.candidate ∧
    b.val.validation.val.identity = r.val.identity ∧
    b.val.validation.val.files = r.val.files ∧
    (b.val.validation.val.status = .pass ↔ r.val.status = .pass)

/-! ### Portable names -/

/-- The name is a text without a backslash or a line break. -/
def PlainName (n : FileName) : Prop :=
  ∃ t, n.val = PyStr.ofText t ∧ ∀ c ∈ t, c ≠ '\\' ∧ c ≠ '\r' ∧ c ≠ '\n'

/-- At the front of a path the name has a drive, or is blank. -/
def StrayName (n : FileName) : Prop := PyChar.scalar ':' ∈ n.val ∨ n.val.strip = []

/-- The texts of plain names. -/
theorem texts_of_plain {path : List FileName} (h : ∀ n ∈ path, PlainName n) :
    ∃ ts : List Text, path.map Subtype.val = ts.map PyStr.ofText ∧
      ∀ t ∈ ts, ∀ c ∈ t, c ≠ '\\' ∧ c ≠ '\r' ∧ c ≠ '\n' := by
  induction path with
  | nil => exact ⟨[], rfl, by simp⟩
  | cons n path ih =>
    obtain ⟨t, ht, hletters⟩ := h n List.mem_cons_self
    obtain ⟨ts, hts, hall⟩ := ih fun m hm => h m (List.mem_cons_of_mem n hm)
    exact ⟨t :: ts, by rw [List.map_cons, List.map_cons, ht, hts], List.forall_mem_cons.mpr ⟨hletters, hall⟩⟩

theorem asPosix_eq_text {path : List FileName} {ts : List Text} (hne : path ≠ [])
    (h : path.map Subtype.val = ts.map PyStr.ofText) :
    asPosix path = PyStr.ofText (List.intercalate ['/'] ts) := by
  rcases path with - | ⟨n, path⟩
  · exact absurd rfl hne
  · rw [ofText_intercalate, ← h]
    rfl

/-- The text of a name is a segment of a path. -/
theorem segment_of_name {n : FileName} {t : Text} (h : n.val = PyStr.ofText t) :
    GoodSegment t ∧ '/' ∉ t := by
  have hname := n.2
  simp only [isFileName, Bool.and_eq_true, bne_iff_ne, Bool.not_eq_true', h] at hname
  obtain ⟨⟨⟨⟨hempty, hdot⟩, hdots⟩, hslash⟩, -⟩ := hname
  refine ⟨⟨?_, ?_, ?_⟩, ?_⟩
  · rintro rfl
    exact hempty rfl
  · rintro rfl
    exact hdot rfl
  · rintro rfl
    exact hdots rfl
  · intro hmem
    have hmem' : PyChar.scalar '/' ∈ PyStr.ofText t := List.mem_map_of_mem hmem
    simp [hmem'] at hslash

theorem splitOn_texts {path : List FileName} {ts : List Text} (hne : path ≠ [])
    (h : path.map Subtype.val = ts.map PyStr.ofText) :
    (List.intercalate ['/'] ts).splitOn '/' = ts ∧ ∀ t ∈ ts, GoodSegment t := by
  have hsegment : ∀ t ∈ ts, GoodSegment t ∧ '/' ∉ t := by
    intro t ht
    have hmem : PyStr.ofText t ∈ path.map Subtype.val := h ▸ List.mem_map_of_mem ht
    obtain ⟨n, -, hn⟩ := List.mem_map.mp hmem
    exact segment_of_name hn
  refine ⟨List.splitOn_intercalate _ (fun t ht => (hsegment t ht).2) ?_, fun t ht => (hsegment t ht).1⟩
  rintro rfl
  exact hne (List.map_eq_nil_iff.mp h)

/-- The names of a portable path are plain, and the first has no drive. -/
theorem plain_of_portable {path : List FileName} {p : PortablePath} (hne : path ≠ [])
    (h : portable? (asPosix path) = some p) :
    (∀ n ∈ path, PlainName n) ∧ ∀ n ∈ path.head?, PyChar.scalar ':' ∉ n.val := by
  have hportable := portable_iff.mp p.2
  have htexts := (segments_eq hne h).symm
  constructor
  · intro n hn
    have hmem : n.val ∈ (p.val.splitOn '/').map PyStr.ofText := htexts ▸ List.mem_map_of_mem hn
    obtain ⟨t, ht, hnt⟩ := List.mem_map.mp hmem
    refine ⟨t, hnt.symm, fun c hc => hportable.letters c ?_⟩
    -- a name has no slash, so its letters are letters of the path
    have hslash : c ≠ '/' := by
      rintro rfl
      exact Segments.not_mem_of_mem_splitOn ht hc
    exact (Segments.mem_iff_of_splitOn hslash).mpr ⟨t, ht, hc⟩
  · intro n hn hcolon
    rcases path with - | ⟨m, path⟩
    · cases hn
    · obtain rfl : m = n := Option.some.inj hn
      rcases hsegments : p.val.splitOn '/' with - | ⟨t, ts⟩
      · exact List.splitOn_ne_nil _ _ hsegments
      · rw [hsegments] at htexts
        have hm : m.val = PyStr.ofText t := (List.cons.inj htexts).1
        rw [hm] at hcolon
        obtain ⟨c, hc, hceq⟩ := List.mem_map.mp hcolon
        obtain rfl := PyChar.scalar.inj hceq
        exact hportable.drive t (by rw [hsegments]; rfl) hc

/-- A name that is portable on its own is not stray. -/
theorem not_stray_of_portable {n : FileName} {p : PortablePath} (h : portable? (asPosix [n]) = some p) :
    ¬ StrayName n := by
  rintro (hcolon | hblank)
  · exact (plain_of_portable (List.cons_ne_nil n []) h).2 n rfl hcolon
  · obtain ⟨c, hc, hspace⟩ := (portable_iff.mp p.2).notBlank
    have htext : n.val = PyStr.ofText p.val := by
      have := portable?_eq_some_iff.mp h
      simpa [asPosix] using this
    have hall : ∀ d ∈ n.val, isSpacePy d = true := by
      have hdrop : (n.val.dropWhile isSpacePy) = [] := by
        by_contra hne
        have hhead := List.head_dropWhile_not isSpacePy hne
        rw [PyStr.strip, List.rdropWhile_eq_nil_iff] at hblank
        have := hblank _ (List.head_mem hne)
        rw [hhead] at this
        cases this
      exact List.dropWhile_eq_nil_iff.mp hdrop
    have := hall (.scalar c) (htext ▸ List.mem_map_of_mem hc)
    rw [isSpacePy, hspace] at this
    cases this

/-- Below a name that is not stray every path of plain names is portable. -/
theorem portable_of_plain {n : FileName} {tail : List FileName} (hplain : ∀ m ∈ n :: tail, PlainName m)
    (hstray : ¬ StrayName n) : ∃ p, portable? (asPosix (n :: tail)) = some p := by
  obtain ⟨ts, hts, hletters⟩ := texts_of_plain hplain
  obtain ⟨hsplit, hsegments⟩ := splitOn_texts (List.cons_ne_nil n tail) hts
  rw [StrayName, not_or] at hstray
  have hportable : Portable (List.intercalate ['/'] ts) := by
    rcases ts with - | ⟨t, ts⟩
    · cases hts
    have hn : n.val = PyStr.ofText t := (List.cons.inj hts).1
    refine ⟨?_, ?_, by rwa [hsplit], ?_⟩
    · by_contra hall
      push Not at hall
      apply hstray.2
      -- a path that is blank as a whole begins with a blank name
      have hblank : ∀ d ∈ n.val, isSpacePy d = true := by
        intro d hd
        rw [hn] at hd
        obtain ⟨c, hc, rfl⟩ := List.mem_map.mp hd
        have hslash : c ≠ '/' := by
          rintro rfl
          exact (segment_of_name hn).2 hc
        have hspace := hall c ((Segments.mem_iff_of_splitOn hslash).mpr
          ⟨t, by rw [hsplit]; exact List.mem_cons_self, hc⟩)
        simpa [isSpacePy] using hspace
      rw [PyStr.strip, List.dropWhile_eq_nil_iff.mpr hblank]
      rfl
    · intro c hc
      by_cases hslash : c = '/'
      · rw [hslash]
        decide
      · obtain ⟨u, hu, hcu⟩ := (Segments.mem_iff_of_splitOn hslash).mp hc
        exact hletters u (hsplit ▸ hu) c hcu
    · intro s hs
      rw [hsplit] at hs
      obtain rfl : t = s := Option.some.inj hs
      intro hcolon
      exact hstray.1 (hn ▸ List.mem_map_of_mem hcolon)
  refine ⟨⟨_, portable_iff.mpr hportable⟩, portable?_eq_some_iff.mpr ?_⟩
  exact asPosix_eq_text (List.cons_ne_nil n tail) hts

/-! ### The tree of the skill -/

theorem has_observedEntries_iff {es : PluginEntries} {name : FileName} {x : PackageNode} :
    (observedEntries es).Has name x ↔ ∃ node, es.Has name node ∧ x = observedNode node := by
  induction es using Entries.rec (motive_1 := fun _ => True) with
  | leaf => trivial
  | dir => trivial
  | nil => exact iff_of_false not_false fun ⟨_, h, _⟩ => h
  | cons m first rest _ ih =>
    rw [observedEntries, Entries.Has, ih]
    constructor
    · rintro (⟨rfl, rfl⟩ | ⟨node, h, rfl⟩)
      · exact ⟨first, Or.inl ⟨rfl, rfl⟩, rfl⟩
      · exact ⟨node, Or.inr h, rfl⟩
    · rintro ⟨node, ⟨rfl, rfl⟩ | h, rfl⟩
      · exact Or.inl ⟨rfl, rfl⟩
      · exact Or.inr ⟨node, h, rfl⟩

/-- A listed directory of the scan is a directory of the plugin, at rest. -/
theorem observedNode_eq_dir {node : PluginNode} {changed : Bool} {sub : PackageEntries}
    (h : observedNode node = .dir changed sub) :
    changed = false ∧ ∃ d entries, node = .dir d entries ∧ sub = observedEntries entries := by
  rcases node with (⟨size, mode, read⟩ | -) | ⟨d, entries⟩
  · rcases read with e | payload
    · cases h
    · cases h
  · cases h
  · rw [observedNode] at h
    cases h
    exact ⟨rfl, d, entries, rfl, rfl⟩

theorem observedNode_eq_read {node : PluginNode} {payload : List UInt8}
    (h : observedNode node = .leaf (.regular (.read payload true))) :
    ∃ size mode, node = .leaf (.regular size mode (.ok payload)) := by
  rcases node with (⟨size, mode, read⟩ | -) | ⟨d, entries⟩
  · rcases read with e | payload'
    · cases h
    · cases h
      exact ⟨size, mode, rfl⟩
  · cases h
  · cases h

/-- The scan finds the entries of the plugin, under the same paths. -/
theorem at_observedEntries_iff {es : PluginEntries} {path : List FileName} {x : PackageNode} :
    At (observedEntries es) path x ↔ ∃ node, At es path node ∧ x = observedNode node := by
  constructor
  · intro h
    generalize hobserved : observedEntries es = entries at h
    induction h generalizing es with
    | entry h =>
      subst hobserved
      obtain ⟨node, hnode, hx⟩ := has_observedEntries_iff.mp h
      exact ⟨node, .entry hnode, hx⟩
    | under h _ ih =>
      subst hobserved
      obtain ⟨node, hnode, hdir⟩ := has_observedEntries_iff.mp h
      obtain ⟨-, d, entries, rfl, hsub⟩ := observedNode_eq_dir hdir.symm
      obtain ⟨x, hx, heq⟩ := ih hsub.symm
      exact ⟨x, .under hnode hx, heq⟩
  · rintro ⟨node, h, rfl⟩
    induction h with
    | entry h => exact .entry (has_observedEntries_iff.mpr ⟨_, h, rfl⟩)
    | under h _ ih =>
      exact .under (d := false) (has_observedEntries_iff.mpr ⟨_, h, by rw [observedNode]⟩) ih

/-- On the way to an entry there are directories. -/
theorem at_directory {es : PluginEntries} {pre post : List FileName} {n : FileName} {node : PluginNode}
    (h : At es (pre ++ n :: post) node) (hpost : post ≠ []) :
    ∃ d sub, At es (pre ++ [n]) (.dir d sub) := by
  induction pre generalizing es with
  | nil =>
    cases h with
    | entry _ => exact absurd rfl hpost
    | under h _ => exact ⟨_, _, .entry h⟩
  | cons m pre ih =>
    rw [List.cons_append] at h
    generalize hpath : m :: (pre ++ n :: post) = path at h
    cases h with
    | entry _ => simp at hpath
    | under h hbelow =>
      obtain ⟨rfl, rfl⟩ := List.cons.inj hpath
      obtain ⟨d, sub, hat⟩ := ih hbelow
      exact ⟨d, sub, .under h hat⟩

namespace CapturedSkill

variable (s : CapturedSkill sha256)

/-- What is below the skill is below the root of the plugin. -/
theorem at_tree_iff {path : List FileName} {node : PluginNode} (hpath : path ≠ []) :
    At s.tree.entries (skillsName :: s.name :: path) node ↔ At s.entries path node := by
  have hskills : s.skills.Distinct := s.under.distinct s.tree.distinct
  rw [at_under_iff s.tree.distinct s.under (List.cons_ne_nil _ _), at_under_iff hskills s.child hpath]

theorem accepted {path : List FileName} {node : PluginNode} (h : At s.entries path node) :
    Admitted (skillsName :: s.name :: path) ∧ Taken (skillsName :: s.name :: path) node :=
  (capturePlugin_spec s.captured).accepted _ _ ((s.at_tree_iff h.ne_nil).mpr h)

/-- The checks that an entry of the skill has passed under its path in the plugin. -/
theorem admitted {parent : List FileName} {name : FileName} {node : PluginNode}
    (h : At s.entries (parent ++ [name]) node) :
    (∀ n ∈ parent ++ [name], PlainName n) ∧ name.val.lower ∉ unsafePackageDirectories ∧
      unsafePackageFileReason name.val = none := by
  obtain ⟨above, last, p, hpath, hp⟩ := (s.accepted h).1
  obtain ⟨hportable, hdirectory, hfile⟩ := admitName_eq_ok hp
  rw [← List.cons_append, ← List.cons_append] at hpath
  obtain ⟨rfl, hlast⟩ := List.append_inj' hpath rfl
  obtain rfl : name = last := by simpa using hlast
  refine ⟨fun n hn => ?_, hdirectory, hfile⟩
  refine (plain_of_portable (List.append_ne_nil_of_right_ne_nil _ (List.cons_ne_nil _ _)) hportable).1 n ?_
  simp only [List.cons_append, List.mem_cons]
  exact Or.inr (Or.inr hn)

/-- Unless its first name is stray, the path of an entry inside the skill is portable. -/
theorem portable {parent : List FileName} {name : FileName} {node : PluginNode}
    (h : At s.entries (parent ++ [name]) node) (hstray : ∀ n ∈ (parent ++ [name]).head?, ¬ StrayName n) :
    ∃ p, portable? (asPosix (parent ++ [name])) = some p := by
  have hplain := (s.admitted h).1
  rcases hpath : parent ++ [name] with - | ⟨n, tail⟩
  · simp at hpath
  · rw [hpath] at hplain hstray
    exact portable_of_plain hplain (hstray n rfl)

/-- The scan enters a directory of the skill. -/
theorem enters {parent : List FileName} {name : FileName} {d : PluginDirectory} {sub : PluginEntries}
    (h : At s.entries (parent ++ [name]) (.dir d sub))
    (hstray : ∀ n ∈ (parent ++ [name]).head?, ¬ StrayName n) : Enters parent name := by
  obtain ⟨p, hp⟩ := s.portable h hstray
  refine ⟨by rw [hp]; exact Option.some_ne_none p, (s.admitted h).2.1, ?_⟩
  cases (s.accepted h).2 with
  | directory _ _ _ hdepth =>
    simp only [List.length_cons, List.length_append, List.length_nil] at hdepth
    show parent.length < 64
    have : maxPluginDepth = 64 := rfl
    omega

end CapturedSkill

/-! ### The scan of the skill -/

/-- What lies deeper than the walked directory is below one that was entered. -/
theorem Met.head_entered {es : PackageEntries} {relative parent : List FileName} {name : FileName}
    {node : PackageNode} (h : Met es relative parent name node) :
    parent = relative ∨ ∃ n tail, parent = relative ++ n :: tail ∧ Enters relative n := by
  cases h with
  | here _ => exact Or.inl rfl
  | inside _ hround hmet =>
    obtain ⟨dirs, hparent, -⟩ := hmet.entered
    rw [List.append_assoc, List.singleton_append] at hparent
    exact Or.inr ⟨_, dirs, hparent, enters_of_round hround⟩

/-- An entry that the loop meets below the first level is under a name that is not stray. -/
theorem Met.head_not_stray {es : PackageEntries} {parent : List FileName} {name : FileName}
    {node : PackageNode} (h : Met es [] parent name node) (hparent : parent ≠ []) :
    ∀ n ∈ (parent ++ [name]).head?, ¬ StrayName n := by
  obtain ⟨m, tail, rfl, henters⟩ := h.head_entered.resolve_left hparent
  obtain ⟨p, hp⟩ := Option.ne_none_iff_exists'.mp henters.portable
  intro n hn
  obtain rfl : m = n := by simpa using hn
  exact not_stray_of_portable hp

theorem regularFile_of_safe {path : List FileName} {name : FileName} {p : PortablePath}
    (hp : portable? (asPosix path) = some p) (hsafe : unsafePackageFileReason name.val = none)
    (payload : List UInt8) :
    regularFile sha256 path name (.regular (.read payload true)) =
      .ok { files := [fileRecord sha256 p payload], captured := [(p, payload)] } := by
  rw [regularFile, hp]
  dsimp only
  rw [if_neg (not_not.mpr hsafe)]
  rfl

section

variable {policy : SkillValidationPolicy}

mutual

/-- A walk of directories at rest in which nothing causes a finding makes none. -/
theorem visitEntries_quiet (hdepth : policy.maxReferenceDepth = none) :
    ∀ (es : PackageEntries) (relative : List FileName) (scan : Scan),
      (∀ parent m x, Met es relative parent m x → ∀ f, ¬ Causes sha256 parent m x f) →
      (∀ path changed sub, At es path (.dir changed sub) → changed = false) →
      visitEntries sha256 policy es relative relative.length = .ok scan → scan.findings = []
  | .nil => by
    intro relative scan _ _ h
    rw [visitEntries] at h
    obtain rfl := Except.ok.inj h
    rfl
  | .cons name node rest => by
    intro relative scan hcauses hrest h
    rw [visitEntries] at h
    obtain ⟨first, hfirst, h⟩ := bind_eq_ok_iff.mp h
    obtain ⟨others, hothers, hscan⟩ := bind_eq_ok_iff.mp h
    obtain rfl := Except.ok.inj hscan
    have hnone : first.findings = [] := by
      refine visitEntry_quiet hdepth node name relative first ?_ ?_ ?_ hfirst
      · exact hcauses relative name node (met_cons_iff.mpr (Or.inl ⟨rfl, rfl, rfl⟩))
      · intro changed sub hnode hround parent m x hmet
        exact hcauses parent m x (met_cons_iff.mpr (Or.inr (Or.inl ⟨changed, sub, hnode, hround, hmet⟩)))
      · intro changed sub hnode
        refine ⟨hrest _ _ _ (at_cons_iff.mpr (Or.inl ⟨rfl, hnode.symm⟩)), fun path c x hat => ?_⟩
        exact hrest _ _ _ (at_cons_iff.mpr (Or.inr (Or.inl ⟨changed, sub, path, hnode, rfl, hat⟩)))
    have hnone' : others.findings = [] := by
      refine visitEntries_quiet hdepth rest relative others (fun parent m x hmet => ?_)
        (fun path c x hat => ?_) hothers
      · exact hcauses parent m x (met_cons_iff.mpr (Or.inr (Or.inr hmet)))
      · exact hrest _ _ _ (at_cons_iff.mpr (Or.inr (Or.inr hat)))
    show first.findings ++ others.findings = []
    rw [hnone, hnone', List.append_nil]
  termination_by structural es => es

theorem visitEntry_quiet (hdepth : policy.maxReferenceDepth = none) :
    ∀ (node : PackageNode) (name : FileName) (relative : List FileName) (scan : Scan),
      (∀ f, ¬ Causes sha256 relative name node f) →
      (∀ changed sub, node = .dir changed sub → round relative name relative.length node = .descend →
        ∀ parent m x, Met sub (relative ++ [name]) parent m x → ∀ f, ¬ Causes sha256 parent m x f) →
      (∀ changed sub, node = .dir changed sub → changed = false ∧
        ∀ path c x, At sub path (.dir c x) → c = false) →
      visitEntry sha256 policy node name relative relative.length = .ok scan → scan.findings = []
  | .leaf o => by
    intro name relative scan hcauses _ _ h
    rw [visitEntry] at h
    rcases hround : round relative name relative.length (.leaf o) with ⟨text, refs⟩ | - | -
    · obtain ⟨f, hf, -⟩ := finding_of_refuse hround
      exact absurd (.refused hround hf) (hcauses f)
    · obtain ⟨path, hp⟩ := portable_of_round hround (by simp)
      exact absurd (.unreadable rfl hround (finding_of_portable hp _)) (hcauses _)
    · rw [hround] at h
      dsimp only at h
      obtain ⟨nested, hnested, h⟩ := bind_eq_ok_iff.mp h
      obtain ⟨taken, htaken, h⟩ := bind_eq_ok_iff.mp h
      obtain rfl := Except.ok.inj h
      -- no limit is set, so no depth is reported
      rw [referenceDepthFindings, hdepth] at hnested
      obtain rfl := Except.ok.inj hnested
      show [] ++ taken.findings = []
      rw [List.nil_append, List.eq_nil_iff_forall_not_mem]
      exact fun f hf => hcauses f (.file rfl hround htaken hf)
  | .dir changed sub => by
    intro name relative scan hcauses hbelow hrest h
    rw [visitEntry] at h
    rcases hround : round relative name relative.length (.dir changed sub) with ⟨text, refs⟩ | - | -
    · obtain ⟨f, hf, -⟩ := finding_of_refuse hround
      exact absurd (.refused hround hf) (hcauses f)
    · rw [hround] at h
      dsimp only at h
      obtain ⟨inside, hinside, h⟩ := bind_eq_ok_iff.mp h
      obtain ⟨drift, hdrift, h⟩ := bind_eq_ok_iff.mp h
      obtain rfl := Except.ok.inj h
      obtain ⟨rfl, hat⟩ := hrest changed sub rfl
      obtain rfl := Except.ok.inj hdrift
      have hlength : (relative ++ [name]).length = relative.length + 1 := by simp
      rw [← hlength] at hinside
      have hnone := visitEntries_quiet hdepth sub (relative ++ [name]) inside (hbelow false sub rfl hround)
        hat hinside
      show inside.findings ++ [] = []
      rw [hnone, List.append_nil]
    · exact absurd hround round_dir_ne_file
  termination_by structural node => node

end

end

namespace CapturedSkill

variable (s : CapturedSkill sha256)

/-- A stray name at the first level of the skill. -/
def HasStray : Prop := ∃ n ∈ s.entries.names, StrayName n

/-- Under a name that is not stray the loop takes every entry. -/
theorem not_causes {parent : List FileName} {name : FileName} {x : PackageNode}
    (hmet : Met (observedEntries s.entries) [] parent name x)
    (hstray : ∀ n ∈ (parent ++ [name]).head?, ¬ StrayName n) (f : SkillPackageFinding) :
    ¬ Causes sha256 parent name x f := by
  obtain ⟨path, hpath, hat⟩ := hmet.at
  rw [List.nil_append] at hpath
  subst hpath
  obtain ⟨node, hnode, rfl⟩ := at_observedEntries_iff.mp hat
  obtain ⟨p, hp⟩ := s.portable hnode hstray
  obtain ⟨-, hdirectory, hfile⟩ := s.admitted hnode
  intro hcauses
  cases (s.accepted hnode).2 with
  | @file size mode payload _ _ =>
    have hround : round parent name parent.length
        (observedNode (.leaf (.regular size mode (.ok payload)))) = .file := by
      rw [round, if_neg (by rw [hp]; exact Option.some_ne_none p), if_neg hdirectory]
      rfl
    cases hcauses with
    | refused h _ => exact absurd (hround.symm.trans h) (by simp)
    | unreadable _ h _ => exact absurd (hround.symm.trans h) (by simp)
    | file hleaf _ hscan hf =>
      rw [observedNode] at hleaf
      obtain rfl := Node.leaf.inj hleaf
      rw [regularFile_of_safe hp hfile] at hscan
      obtain rfl := Except.ok.inj hscan
      cases hf
  | @directory d sub _ _ _ _ =>
    have hround : round parent name parent.length (.dir false (observedEntries sub)) = .descend :=
      round_of_enters (s.enters hnode hstray) false (observedEntries sub)
    rw [observedNode] at hcauses
    cases hcauses with
    | refused h _ => exact absurd (hround.symm.trans h) (by simp)
    | unreadable hleaf _ _ => cases hleaf
    | file hleaf _ _ _ => cases hleaf

/-- The loop meets the entries under a name that is not stray. -/
theorem met {parent : List FileName} {name : FileName} {node : PluginNode}
    (h : At s.entries (parent ++ [name]) node) (hstray : ∀ n ∈ (parent ++ [name]).head?, ¬ StrayName n) :
    Met (observedEntries s.entries) [] parent name (observedNode node) := by
  have hat : At (observedEntries s.entries) (parent ++ [name]) (observedNode node) :=
    at_observedEntries_iff.mpr ⟨node, h, rfl⟩
  refine met_of_at hat rfl fun pre n post hsplit => ?_
  rw [List.nil_append]
  rw [hsplit, List.append_assoc, List.cons_append] at h
  obtain ⟨d, sub, hdir⟩ := at_directory h (by simp)
  refine s.enters hdir fun m hm => hstray m ?_
  rw [hsplit]
  rcases pre with - | ⟨l, pre⟩
  · simpa using hm
  · simpa using hm

/-- **The scan captures** the files of the skill that are not under a stray name. -/
theorem scan_captured_iff {scan : Scan} (h : Complete sha256 (observedEntries s.entries) scan)
    (p : PortablePath) (payload : List UInt8) :
    (p, payload) ∈ scan.captured ↔ ∃ g ∈ filesBelow s.entries [], asPosix g.path = PyStr.ofText p.val ∧
      g.payload = payload ∧ ∀ n ∈ g.path.head?, ¬ StrayName n := by
  rw [h.captured_iff]
  constructor
  · rintro ⟨parent, name, x, hmet, hc⟩
    obtain ⟨path, hpath, hat⟩ := hmet.at
    rw [List.nil_append] at hpath
    subst hpath
    obtain ⟨node, hnode, rfl⟩ := at_observedEntries_iff.mp hat
    obtain ⟨size, mode, rfl⟩ := observedNode_eq_read hc.regular
    refine ⟨⟨parent ++ [name], mode, payload⟩, mem_filesBelow.mpr ⟨_, size, rfl, hnode⟩,
      portable?_eq_some_iff.mp hc.path_eq, rfl, ?_⟩
    by_cases hparent : parent = []
    · subst hparent
      intro n hn
      obtain rfl : name = n := by simpa using hn
      exact not_stray_of_portable hc.path_eq
    · exact hmet.head_not_stray hparent
  · rintro ⟨g, hg, hpath, rfl, hstray⟩
    obtain ⟨path, size, heq, hat⟩ := mem_filesBelow.mp hg
    rw [List.nil_append] at heq
    rw [← heq] at hat
    obtain ⟨parent, name, hsplit⟩ : ∃ parent name, g.path = parent ++ [name] := by
      rcases List.eq_nil_or_concat g.path with h | ⟨parent, name, h⟩
      · exact absurd h hat.ne_nil
      · exact ⟨parent, name, by simpa using h⟩
    rw [hsplit] at hat hstray hpath
    refine ⟨parent, name, _, s.met hat hstray, captures_of_safeNames g.payload
      (portable?_eq_some_iff.mpr hpath) ⟨fun n hn => ?_, (s.admitted hat).2.2⟩⟩
    -- every name on the way is that of an entry
    obtain ⟨pre, post, hn⟩ := List.append_of_mem hn
    by_cases hpost : post = []
    · rw [hn, hpost] at hat
      exact (s.admitted hat).2.1
    · rw [hn] at hat
      obtain ⟨d, sub, hdir⟩ := at_directory hat hpost
      exact (s.admitted hdir).2.1

/-- **The scan finds something** exactly when a name at the first level is stray. -/
theorem scan_findings_iff {scan : Scan} (hcomplete : Complete sha256 (observedEntries s.entries) scan)
    (hscan : scanFiles sha256 {} s.source.root = .ok scan) :
    scan.findings = [] ↔ ¬ s.HasStray := by
  constructor
  · rintro hnone ⟨n, hn, hstray⟩
    rw [← names_observedEntries] at hn
    obtain ⟨x, hx⟩ := Entries.exists_has hn
    have hmet : Met (observedEntries s.entries) [] [] n x := .here hx
    -- a stray name stands in no portable path
    have hnot : portable? (asPosix ([] ++ [n])) = none := by
      by_contra hne
      obtain ⟨p, hp⟩ := Option.ne_none_iff_exists'.mp hne
      exact not_stray_of_portable hp hstray
    have hround : round [] n 0 x = .refuse invalidPackagePath [] := by
      rw [round]
      exact if_pos hnot
    have hmem := hcomplete.reported [] n x _ hmet (.refused hround (finding_nil _))
    rw [hnone] at hmem
    cases hmem
  · intro hnone
    rw [scanFiles] at hscan
    obtain ⟨visited, hvisited, hscan⟩ := bind_eq_ok_iff.mp hscan
    obtain rfl := Except.ok.inj hscan
    rw [source, visitRoot] at hvisited
    obtain ⟨inside, hinside, hvisited⟩ := bind_eq_ok_iff.mp hvisited
    obtain ⟨drift, hdrift, hvisited⟩ := bind_eq_ok_iff.mp hvisited
    obtain rfl := Except.ok.inj hvisited
    obtain rfl := Except.ok.inj hdrift
    show inside.findings ++ [] = []
    rw [List.append_nil]
    refine visitEntries_quiet rfl (observedEntries s.entries) [] inside (fun parent m x hmet => ?_)
      (fun path changed sub hat => ?_) hinside
    -- a stray path begins at a stray name of the root
    · apply s.not_causes hmet
      intro n hn hstray
      obtain ⟨name, hname, hleading⟩ := hmet.extends
      obtain ⟨tail, htail⟩ := hleading
      rw [← htail] at hn
      obtain rfl : name = n := by simpa using hn
      exact hnone ⟨name, names_observedEntries s.entries ▸ hname, hstray⟩
    · obtain ⟨node, -, hnode⟩ := at_observedEntries_iff.mp hat
      exact (observedNode_eq_dir hnode.symm).1

end CapturedSkill

end SkillsSdk

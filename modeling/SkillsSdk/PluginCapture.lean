/-
SkillsSdk/PluginCapture.lean

The capture of a whole plugin: `capture_plugin_source`.

The plugin is given as it is observed, a tree with the entries of a directory in
the order of `sorted(names)`.  The capture walks it with running counters and
gives up at the first entry that it does not accept, so a capture that returns
has taken every entry of the tree: what it holds is the list of the files below
the root (`filesBelow`) and of the directories (`directoriesBelow`), in the order
of the walk (`visitNames_spec`).
-/
import SkillsSdk.Models.Plugin
import SkillsSdk.Raising

namespace SkillsSdk

open NamedTree

/-! ### What is observed -/

/-- An entry of a plugin that is no directory. -/
inductive PluginObservation where
  /-- The size that `os.stat` gives, the permission bits, and what reading the
  file to the end returns. -/
  | regular (size mode : Nat) (read : Except PyExc (List UInt8))
  | other

structure PluginDirectory where
  /-- What opening or listing the directory raises. -/
  failure : Option PyExc
  /-- A special permission bit is set. -/
  special : Bool
  /-- The directory changed while it was visited. -/
  changed : Bool

abbrev PluginNode := Node FileName PluginObservation PluginDirectory

abbrev PluginEntries := Entries FileName PluginObservation PluginDirectory

structure PluginTree where
  directory : PluginDirectory
  entries : PluginEntries
  distinct : entries.Distinct
  /-- Every entry is found again as it was captured. -/
  settled : Bool

/-! ### The capture -/

def maxPluginFileBytes : Nat := 16 * 1024 * 1024
def maxPluginTotalBytes : Nat := 64 * 1024 * 1024
def maxPluginFiles : Nat := 1024
def maxPluginResources : Nat := 2048
def maxPluginDepth : Nat := 64

/-- The counters and the lists that a capture fills. -/
structure CaptureState where
  resources : Nat := 0
  totalSize : Nat := 0
  files : List PluginCapturedFile := []
  payloads : CapturedBytes := []
  directories : List PortablePath := []

/-- A special permission bit, of the set-user, set-group and sticky ones. -/
def hasSpecialBit (mode : Nat) : Bool := decide (0o777 < mode)

/-- The checks of a name, and the path that it gives. -/
def admitName (relative : List FileName) (name : FileName) : Except PyExc PortablePath :=
  match portable? (asPosix (relative ++ [name])) with
  | none => .error .valueError
  | some path =>
    if name.val.lower ∈ unsafePackageDirectories ∨ unsafePackageFileReason name.val ≠ none then
      .error .valueError
    else .ok path

/-- The beginning of `visit`: the directory is opened and its entries are counted. -/
def enterDirectory (d : PluginDirectory) (entries : PluginEntries) (depth : Nat) (s : CaptureState) :
    Except PyExc CaptureState :=
  if maxPluginDepth < depth ∨ d.special = true then .error .valueError
  else
    match d.failure with
    | some e => .error e
    | none =>
      if maxPluginResources < s.resources + entries.names.length then .error .valueError
      else .ok { s with resources := s.resources + entries.names.length }

/-- The end of `visit`. -/
def leaveDirectory (d : PluginDirectory) (s : CaptureState) : Except PyExc CaptureState :=
  if d.changed then .error .valueError else .ok s

variable (sha256 : List UInt8 → Sha256)

/-- `_read_file`. -/
def readPluginFile (mode : Nat) (read : Except PyExc (List UInt8)) : Except PyExc (List UInt8) := do
  let payload ← read
  if hasSpecialBit mode ∨ maxPluginFileBytes < payload.length then .error .valueError else .ok payload

/-- The record and the bytes of a file that is captured. -/
def captureFile (path : PortablePath) (o : PluginObservation) (s : CaptureState) :
    Except PyExc CaptureState :=
  match o with
  | .other => .error .valueError
  | .regular size mode read =>
    if maxPluginFiles ≤ s.files.length ∨ maxPluginTotalBytes < s.totalSize + size then .error .valueError
    else do
      let payload ← readPluginFile mode read
      if maxPluginTotalBytes < s.totalSize + payload.length then .error .valueError
      else
        let file ← (construct PluginCapturedFileData.validate
          ⟨path, sha256 payload, payload.length, mode⟩).mapError fun _ => PyExc.valueError
        return { s with
          totalSize := s.totalSize + payload.length
          files := s.files ++ [file]
          payloads := s.payloads ++ [(path, payload)] }

mutual

/-- The loop of `visit` over the names of a directory. -/
def visitNames : PluginEntries → List FileName → CaptureState → Except PyExc CaptureState
  | .nil, _, s => .ok s
  | .cons name node rest, relative, s => do
    let s ← visitName node name relative s
    visitNames rest relative s

/-- One round of the loop. -/
def visitName : PluginNode → FileName → List FileName → CaptureState → Except PyExc CaptureState
  | .leaf o, name, relative, s => do
    let path ← admitName relative name
    captureFile sha256 path o s
  | .dir d entries, name, relative, s => do
    let path ← admitName relative name
    let s ← enterDirectory d entries (relative.length + 1)
      { s with directories := s.directories ++ [path] }
    let s ← visitNames entries (relative ++ [name]) s
    leaveDirectory d s

end

/-- The files, the bytes and the directories of a captured plugin. -/
structure PluginCapture where
  files : List PluginCapturedFile
  payloads : CapturedBytes
  directories : List PortablePath

/-- The order of captured files by path. -/
def CapturedLe (a b : PluginCapturedFile) : Prop := a.val.path.val ≤ b.val.path.val

instance : DecidableRel CapturedLe := fun a b =>
  inferInstanceAs (Decidable (a.val.path.val ≤ b.val.path.val))

/-- `capture_plugin_source`, of a root that opens. -/
def capturePlugin (tree : PluginTree) : Except PyExc PluginCapture := do
  let s ← enterDirectory tree.directory tree.entries 0 {}
  let s ← visitNames sha256 tree.entries [] s
  let s ← leaveDirectory tree.directory s
  if tree.settled then
    return ⟨s.files.insertionSort CapturedLe, s.payloads,
      s.directories.insertionSort fun a b => a.val ≤ b.val⟩
  else throw .valueError

/-! ### What is below a directory -/

/-- A file below a directory: its path, its permission bits and its bytes. -/
structure FileBelow where
  path : List FileName
  mode : Nat
  payload : List UInt8

mutual

/-- The files below the entries of the directory, in the order of the walk. -/
def filesBelow : PluginEntries → List FileName → List FileBelow
  | .nil, _ => []
  | .cons name node rest, relative => nodeFiles node (relative ++ [name]) ++ filesBelow rest relative

def nodeFiles : PluginNode → List FileName → List FileBelow
  | .leaf (.regular _ mode (.ok payload)), path => [⟨path, mode, payload⟩]
  | .leaf _, _ => []
  | .dir _ entries, path => filesBelow entries path

end

mutual

/-- The directories below the entries, in the order of the walk. -/
def directoriesBelow : PluginEntries → List FileName → List (List FileName)
  | .nil, _ => []
  | .cons name node rest, relative =>
    nodeDirectories node (relative ++ [name]) ++ directoriesBelow rest relative

def nodeDirectories : PluginNode → List FileName → List (List FileName)
  | .leaf _, _ => []
  | .dir _ entries, path => path :: directoriesBelow entries path

end

/-- What is recorded of a captured file. -/
def PluginCapturedFileData.described (f : PluginCapturedFileData) : PyStr × Sha256 × Nat × Nat :=
  (PyStr.ofText f.path.val, f.sha256, f.sizeBytes, f.permissionMode)

def FileBelow.described (f : FileBelow) : PyStr × Sha256 × Nat × Nat :=
  (asPosix f.path, sha256 f.payload, f.payload.length, f.mode)

/-- The name under a directory is admitted by the checks of the capture. -/
def Admitted (path : List FileName) : Prop :=
  ∃ parent name p, path = parent ++ [name] ∧ admitName parent name = .ok p

/-- The node is one that a capture takes. -/
inductive Taken (path : List FileName) : PluginNode → Prop
  | file {size mode : Nat} {payload : List UInt8} : hasSpecialBit mode = false →
      payload.length ≤ maxPluginFileBytes → Taken path (.leaf (.regular size mode (.ok payload)))
  | directory {d : PluginDirectory} {entries : PluginEntries} : d.failure = none → d.special = false →
      d.changed = false → path.length ≤ maxPluginDepth → Taken path (.dir d entries)

variable {sha256}

/-! ### The entries of a directory -/

theorem admitName_eq_ok {relative : List FileName} {name : FileName} {p : PortablePath}
    (h : admitName relative name = .ok p) :
    portable? (asPosix (relative ++ [name])) = some p ∧ name.val.lower ∉ unsafePackageDirectories ∧
      unsafePackageFileReason name.val = none := by
  rw [admitName] at h
  rcases hportable : portable? (asPosix (relative ++ [name])) with - | path
  · rw [hportable] at h
    cases h
  · rw [hportable] at h
    dsimp only at h
    split_ifs at h with hunsafe
    obtain rfl := Except.ok.inj h
    push Not at hunsafe
    exact ⟨rfl, hunsafe.1, hunsafe.2⟩

theorem enterDirectory_eq_ok {d : PluginDirectory} {entries : PluginEntries} {depth : Nat}
    {s s' : CaptureState} (h : enterDirectory d entries depth s = .ok s') :
    (depth ≤ maxPluginDepth ∧ d.special = false ∧ d.failure = none ∧
      s.resources + entries.names.length ≤ maxPluginResources) ∧
      s' = { s with resources := s.resources + entries.names.length } := by
  rw [enterDirectory] at h
  by_cases hdepth : maxPluginDepth < depth ∨ d.special = true
  · rw [if_pos hdepth] at h
    cases h
  · rw [if_neg hdepth] at h
    push Not at hdepth
    rcases hfailure : d.failure with - | e
    · rw [hfailure] at h
      by_cases hcount : maxPluginResources < s.resources + entries.names.length
      · rw [if_pos hcount] at h
        cases h
      · rw [if_neg hcount] at h
        exact ⟨⟨hdepth.1, by simpa using hdepth.2, rfl, Nat.not_lt.mp hcount⟩, (Except.ok.inj h).symm⟩
    · rw [hfailure] at h
      cases h

theorem leaveDirectory_eq_ok {d : PluginDirectory} {s s' : CaptureState}
    (h : leaveDirectory d s = .ok s') : d.changed = false ∧ s' = s := by
  rw [leaveDirectory] at h
  split_ifs at h with hchanged
  exact ⟨by simpa using hchanged, (Except.ok.inj h).symm⟩

/-- A file is captured with its bytes, below the bounds of the capture. -/
theorem captureFile_eq_ok {path : PortablePath} {o : PluginObservation} {s s' : CaptureState}
    (h : captureFile sha256 path o s = .ok s') :
    ∃ size mode payload file, o = .regular size mode (.ok payload) ∧
      (hasSpecialBit mode = false ∧ payload.length ≤ maxPluginFileBytes) ∧
      (s.files.length < maxPluginFiles ∧ s.totalSize + payload.length ≤ maxPluginTotalBytes) ∧
      file.val = (⟨path, sha256 payload, payload.length, mode⟩ : PluginCapturedFileData) ∧
      s' = { s with
        totalSize := s.totalSize + payload.length
        files := s.files ++ [file]
        payloads := s.payloads ++ [(path, payload)] } := by
  cases o with
  | other => cases h
  | regular size mode read =>
    rw [captureFile] at h
    split_ifs at h with hbudget
    obtain ⟨payload, hread, h⟩ := bind_eq_ok_iff.mp h
    split_ifs at h with htotal
    obtain ⟨file, hfile, h⟩ := bind_eq_ok_iff.mp h
    rw [readPluginFile] at hread
    obtain ⟨bytes, hbytes, hread⟩ := bind_eq_ok_iff.mp hread
    split_ifs at hread with hbits
    obtain rfl := Except.ok.inj hread
    push Not at hbudget hbits
    exact ⟨size, mode, bytes, file, by rw [hbytes], ⟨by simpa using hbits.1, hbits.2⟩,
      ⟨hbudget.1, Nat.not_lt.mp htotal⟩, construct_eq_ok_iff.mp (mapError_eq_ok_iff.mp hfile),
      (Except.ok.inj h).symm⟩

/-- What a part of the walk adds to the lists. -/
structure Collects (sha256 : List UInt8 → Sha256) (files : List FileBelow)
    (directories : List (List FileName)) (s s' : CaptureState) : Prop where
  files_eq : s'.files.map (·.val.described) =
    s.files.map (·.val.described) ++ files.map (FileBelow.described sha256)
  payloads_eq : s'.payloads.map (fun c => (PyStr.ofText c.1.val, c.2)) =
    s.payloads.map (fun c => (PyStr.ofText c.1.val, c.2)) ++ files.map fun f => (asPosix f.path, f.payload)
  directories_eq : s'.directories.map (PyStr.ofText ·.val) =
    s.directories.map (PyStr.ofText ·.val) ++ directories.map asPosix

theorem Collects.refl (s : CaptureState) : Collects sha256 [] [] s s :=
  ⟨by simp, by simp, by simp⟩

theorem Collects.trans {files files' : List FileBelow} {directories directories' : List (List FileName)}
    {s s' s'' : CaptureState} (h : Collects sha256 files directories s s')
    (h' : Collects sha256 files' directories' s' s'') :
    Collects sha256 (files ++ files') (directories ++ directories') s s'' where
  files_eq := by rw [h'.files_eq, h.files_eq, List.map_append, List.append_assoc]
  payloads_eq := by rw [h'.payloads_eq, h.payloads_eq, List.map_append, List.append_assoc]
  directories_eq := by rw [h'.directories_eq, h.directories_eq, List.map_append, List.append_assoc]

/-- The path of a portable name is the text of its path. -/
theorem asPosix_of_portable {path : List FileName} {p : PortablePath} (h : portable? (asPosix path) = some p) :
    asPosix path = PyStr.ofText p.val := portable?_eq_some_iff.mp h

mutual

/-- **A walk that returns has taken every entry below the directory.** -/
theorem visitNames_spec : ∀ (es : PluginEntries) (relative : List FileName) (s s' : CaptureState),
    visitNames sha256 es relative s = .ok s' →
    Collects sha256 (filesBelow es relative) (directoriesBelow es relative) s s' ∧
      ∀ path node, At es path node → Admitted (relative ++ path) ∧ Taken (relative ++ path) node
  | .nil => by
    intro relative s s' h
    rw [visitNames] at h
    obtain rfl := Except.ok.inj h
    exact ⟨Collects.refl s, fun path node hat => absurd hat not_at_nil⟩
  | .cons name node rest => by
    intro relative s s' h
    rw [visitNames] at h
    obtain ⟨middle, hfirst, hrest⟩ := bind_eq_ok_iff.mp h
    obtain ⟨hcollects, hself, hbelow⟩ := visitName_spec node name relative s middle hfirst
    obtain ⟨hcollects', hothers⟩ := visitNames_spec rest relative middle s' hrest
    refine ⟨hcollects.trans hcollects', fun path x hat => ?_⟩
    rcases at_cons_iff.mp hat with ⟨rfl, rfl⟩ | ⟨d, sub, tail, hdir, rfl, htail⟩ | hrest
    · exact hself
    · have hx := hbelow d sub hdir tail x htail
      rwa [List.append_assoc, List.singleton_append] at hx
    · exact hothers path x hrest

/-- A round that returns has taken the entry and what is below it. -/
theorem visitName_spec : ∀ (node : PluginNode) (name : FileName) (relative : List FileName)
    (s s' : CaptureState), visitName sha256 node name relative s = .ok s' →
    Collects sha256 (nodeFiles node (relative ++ [name])) (nodeDirectories node (relative ++ [name])) s s' ∧
      (Admitted (relative ++ [name]) ∧ Taken (relative ++ [name]) node) ∧
      ∀ d sub, node = .dir d sub → ∀ path x, At sub path x →
        Admitted (relative ++ [name] ++ path) ∧ Taken (relative ++ [name] ++ path) x
  | .leaf o => by
    intro name relative s s' h
    rw [visitName] at h
    obtain ⟨p, hp, h⟩ := bind_eq_ok_iff.mp h
    obtain ⟨size, mode, payload, file, rfl, ⟨hbits, hlength⟩, -, hfile, rfl⟩ := captureFile_eq_ok h
    have hpath := asPosix_of_portable (admitName_eq_ok hp).1
    refine ⟨⟨?_, ?_, ?_⟩, ⟨⟨relative, name, p, rfl, hp⟩, .file hbits hlength⟩, fun d sub hdir => ?_⟩
    · rw [nodeFiles, List.map_append, List.map_singleton, List.map_singleton, hfile, FileBelow.described, hpath]
      rfl
    · rw [nodeFiles, List.map_append, List.map_singleton, List.map_singleton, hpath]
    · rw [nodeDirectories, List.map_nil, List.append_nil]
    · cases hdir
  | .dir d entries => by
    intro name relative s s' h
    rw [visitName] at h
    obtain ⟨p, hp, hsteps⟩ := bind_eq_ok_iff.mp h
    obtain ⟨entered, henter, hinside⟩ := bind_eq_ok_iff.mp hsteps
    obtain ⟨walked, hwalk, hleave⟩ := bind_eq_ok_iff.mp hinside
    obtain ⟨⟨hdepth, hspecial, hfailure, -⟩, rfl⟩ := enterDirectory_eq_ok henter
    obtain ⟨hchanged, rfl⟩ := leaveDirectory_eq_ok hleave
    obtain ⟨hcollects, hbelow⟩ := visitNames_spec entries (relative ++ [name]) _ _ hwalk
    have hpath := asPosix_of_portable (admitName_eq_ok hp).1
    have hlength : (relative ++ [name]).length ≤ maxPluginDepth := by
      rw [List.length_append, List.length_singleton]
      exact hdepth
    refine ⟨⟨hcollects.files_eq, hcollects.payloads_eq, ?_⟩,
      ⟨⟨relative, name, p, rfl, hp⟩, .directory hfailure hspecial hchanged hlength⟩, fun d' sub hdir => ?_⟩
    · rw [hcollects.directories_eq, nodeDirectories, List.map_append, List.map_singleton, List.map_cons,
        hpath, List.append_assoc, List.singleton_append]
    · cases hdir
      exact hbelow

end

/-! ### The files of a captured tree -/

mutual

theorem mem_filesBelow : ∀ {es : PluginEntries} {relative : List FileName} {f : FileBelow},
    f ∈ filesBelow es relative ↔
      ∃ path size, f.path = relative ++ path ∧ At es path (.leaf (.regular size f.mode (.ok f.payload)))
  | .nil, relative, f => by
    rw [filesBelow]
    exact iff_of_false List.not_mem_nil fun ⟨_, _, _, hat⟩ => not_at_nil hat
  | .cons name node rest, relative, f => by
    rw [filesBelow, List.mem_append, mem_nodeFiles, mem_filesBelow]
    constructor
    · rintro ((⟨size, rfl, hpath⟩ | ⟨d, sub, tail, size, rfl, hpath, hat⟩) | ⟨path, size, hpath, hat⟩)
      · exact ⟨[name], size, hpath, at_cons_iff.mpr (Or.inl ⟨rfl, rfl⟩)⟩
      · refine ⟨name :: tail, size, ?_, at_cons_iff.mpr (Or.inr (Or.inl ⟨d, sub, tail, rfl, rfl, hat⟩))⟩
        rw [hpath, List.append_assoc, List.singleton_append]
      · exact ⟨path, size, hpath, at_cons_iff.mpr (Or.inr (Or.inr hat))⟩
    · rintro ⟨path, size, hpath, hat⟩
      rcases at_cons_iff.mp hat with ⟨rfl, hnode⟩ | ⟨d, sub, tail, hnode, rfl, htail⟩ | hrest
      · exact Or.inl (Or.inl ⟨size, hnode.symm, hpath⟩)
      · refine Or.inl (Or.inr ⟨d, sub, tail, size, hnode, ?_, htail⟩)
        rw [hpath, List.append_assoc, List.singleton_append]
      · exact Or.inr ⟨path, size, hpath, hrest⟩

theorem mem_nodeFiles : ∀ {node : PluginNode} {path : List FileName} {f : FileBelow},
    f ∈ nodeFiles node path ↔
      (∃ size, node = .leaf (.regular size f.mode (.ok f.payload)) ∧ f.path = path) ∨
        ∃ d sub tail size, node = .dir d sub ∧ f.path = path ++ tail ∧
          At sub tail (.leaf (.regular size f.mode (.ok f.payload)))
  | .leaf (.regular size mode (.ok payload)), path, f => by
    rw [nodeFiles, List.mem_singleton]
    constructor
    · rintro rfl
      exact Or.inl ⟨size, rfl, rfl⟩
    · rintro (⟨size', hnode, hpath⟩ | ⟨d, sub, tail, size', hnode, -⟩)
      · obtain ⟨path', mode', payload'⟩ := f
        cases hnode
        cases hpath
        rfl
      · cases hnode
  | .leaf (.regular size mode (.error e)), path, f => by
    show f ∈ ([] : List FileBelow) ↔ _
    refine iff_of_false List.not_mem_nil ?_
    rintro (⟨size', hnode, -⟩ | ⟨d, sub, tail, size', hnode, -⟩)
    · cases hnode
    · cases hnode
  | .leaf .other, path, f => by
    show f ∈ ([] : List FileBelow) ↔ _
    refine iff_of_false List.not_mem_nil ?_
    rintro (⟨size', hnode, -⟩ | ⟨d, sub, tail, size', hnode, -⟩)
    · cases hnode
    · cases hnode
  | .dir d sub, path, f => by
    rw [nodeFiles, mem_filesBelow]
    constructor
    · rintro ⟨tail, size, hpath, hat⟩
      exact Or.inr ⟨d, sub, tail, size, rfl, hpath, hat⟩
    · rintro (⟨size', hnode, -⟩ | ⟨d', sub', tail, size, hnode, hpath, hat⟩)
      · cases hnode
      · cases hnode
        exact ⟨tail, size, hpath, hat⟩

end

mutual

/-- No path is that of two files. -/
theorem filesBelow_nodup : ∀ (es : PluginEntries) (relative : List FileName), es.Distinct →
    ((filesBelow es relative).map (·.path)).Nodup
  | .nil => fun _ _ => List.nodup_nil
  | .cons name node rest => by
    rintro relative ⟨hname, hnode, hrest⟩
    rw [filesBelow, List.map_append, List.nodup_append]
    refine ⟨nodeFiles_nodup node _ hnode, filesBelow_nodup rest relative hrest, ?_⟩
    -- what is below the first entry starts with its name
    rintro path hfirst path' hothers rfl
    obtain ⟨f, hf, rfl⟩ := List.mem_map.mp hfirst
    obtain ⟨g, hg, hpath⟩ := List.mem_map.mp hothers
    obtain ⟨tail, size, htail, hat⟩ := mem_filesBelow.mp hg
    obtain ⟨head, rest', rfl, hhead⟩ := hat.head_mem
    have hleading : ∃ t, f.path = relative ++ name :: t := by
      rcases mem_nodeFiles.mp hf with ⟨-, -, h⟩ | ⟨-, -, t, -, -, h, -⟩
      · exact ⟨[], h⟩
      · exact ⟨t, by rw [h, List.append_assoc, List.singleton_append]⟩
    obtain ⟨t, ht⟩ := hleading
    rw [← hpath, htail] at ht
    obtain ⟨rfl, -⟩ := List.cons.inj (List.append_cancel_left ht)
    exact hname hhead

theorem nodeFiles_nodup : ∀ (node : PluginNode) (path : List FileName), node.Distinct →
    ((nodeFiles node path).map (·.path)).Nodup
  | .leaf (.regular _ _ (.ok _)) => fun _ _ => List.nodup_singleton _
  | .leaf (.regular _ _ (.error _)) => fun _ _ => List.nodup_nil
  | .leaf .other => fun _ _ => List.nodup_nil
  | .dir _ sub => fun path h => filesBelow_nodup sub path h

end

/-! ### The whole capture -/

/-- What a capture that returns holds of the tree. -/
structure Captured (sha256 : List UInt8 → Sha256) (tree : PluginTree) (c : PluginCapture) : Prop where
  accepted : ∀ path node, At tree.entries path node → Admitted path ∧ Taken path node
  /-- In order of path, each path once. -/
  sorted : c.files.Pairwise fun a b => a.val.path.val < b.val.path.val
  files_iff : ∀ d, (∃ f ∈ c.files, f.val.described = d) ↔
    ∃ g ∈ filesBelow tree.entries [], g.described sha256 = d
  payloads_iff : ∀ path payload, (path, payload) ∈ c.payloads ↔
    ∃ g ∈ filesBelow tree.entries [], asPosix g.path = PyStr.ofText path.val ∧ g.payload = payload
  keys_nodup : (c.payloads.map Prod.fst).Nodup
  directories_iff : ∀ path, path ∈ c.directories ↔
    ∃ d ∈ directoriesBelow tree.entries [], asPosix d = PyStr.ofText path.val

instance : Std.Total CapturedLe := ⟨fun a b => le_total a.val.path.val b.val.path.val⟩

instance : IsTrans PluginCapturedFile CapturedLe := ⟨fun _ _ _ h h' => le_trans h h'⟩

/-- Sorting captured files with different paths puts the paths in strict order. -/
theorem capturedFiles_pairwise {files : List PluginCapturedFile}
    (h : (files.map (·.val.path)).Nodup) :
    (files.insertionSort CapturedLe).Pairwise fun a b => a.val.path.val < b.val.path.val := by
  have hsorted := List.pairwise_insertionSort CapturedLe files
  have hnodup : ((files.insertionSort CapturedLe).map (·.val.path)).Nodup :=
    ((List.perm_insertionSort CapturedLe files).map _).nodup_iff.mpr h
  rw [List.Nodup, List.pairwise_map] at hnodup
  refine List.Pairwise.imp₂ (fun a b hle hne => ?_) hsorted hnodup
  exact lt_of_le_of_ne hle fun heq => hne (Subtype.ext heq)

/-- The texts of different paths of files are different. -/
theorem filesBelow_texts_nodup {es : PluginEntries} (h : es.Distinct) :
    ((filesBelow es []).map fun f => asPosix f.path).Nodup := by
  have hpaths := filesBelow_nodup es [] h
  rw [List.Nodup, List.pairwise_map] at hpaths ⊢
  refine List.Pairwise.imp_of_mem (fun {f g} hf hg hne htext => hne ?_) hpaths
  obtain ⟨path, size, hpath, hat⟩ := mem_filesBelow.mp hf
  obtain ⟨path', size', hpath', hat'⟩ := mem_filesBelow.mp hg
  rw [List.nil_append] at hpath hpath'
  exact asPosix_injective (hpath ▸ hat.ne_nil) (hpath' ▸ hat'.ne_nil) htext

/-- **A capture that returns holds exactly the files and directories of the tree.** -/
theorem capturePlugin_spec {tree : PluginTree} {c : PluginCapture} (h : capturePlugin sha256 tree = .ok c) :
    Captured sha256 tree c := by
  rw [capturePlugin] at h
  obtain ⟨entered, henter, hinside⟩ := bind_eq_ok_iff.mp h
  obtain ⟨walked, hwalk, hend⟩ := bind_eq_ok_iff.mp hinside
  obtain ⟨left, hleave, hresult⟩ := bind_eq_ok_iff.mp hend
  obtain ⟨-, rfl⟩ := enterDirectory_eq_ok henter
  obtain ⟨-, rfl⟩ := leaveDirectory_eq_ok hleave
  split_ifs at hresult
  obtain rfl := Except.ok.inj hresult
  obtain ⟨hcollects, haccepted⟩ := visitNames_spec tree.entries [] _ _ hwalk
  have hfiles : left.files.map (·.val.described) =
      (filesBelow tree.entries []).map (FileBelow.described sha256) := hcollects.files_eq
  have hpayloads : left.payloads.map (fun c => (PyStr.ofText c.1.val, c.2)) =
      (filesBelow tree.entries []).map fun f => (asPosix f.path, f.payload) := hcollects.payloads_eq
  have hdirectories : left.directories.map (PyStr.ofText ·.val) =
      (directoriesBelow tree.entries []).map asPosix := hcollects.directories_eq
  -- different files have different texts, so no path is recorded twice
  have htexts := filesBelow_texts_nodup tree.distinct
  have hkeys : (left.payloads.map fun c => PyStr.ofText c.1.val).Nodup := by
    have heq := congrArg (List.map Prod.fst) hpayloads
    rw [List.map_map, List.map_map] at heq
    exact heq ▸ htexts
  have hpaths : (left.files.map fun f => PyStr.ofText f.val.path.val).Nodup := by
    have heq := congrArg (List.map Prod.fst) hfiles
    rw [List.map_map, List.map_map] at heq
    exact heq ▸ htexts
  refine ⟨haccepted, capturedFiles_pairwise ?_, fun d => ?_, fun path payload => ?_, ?_, fun path => ?_⟩
  · have hmap : left.files.map (fun f => PyStr.ofText f.val.path.val) =
        (left.files.map (·.val.path)).map fun p => PyStr.ofText p.val := by
      rw [List.map_map]
      rfl
    exact List.Nodup.of_map _ (hmap ▸ hpaths)
  -- sorting keeps the members
  · have hperm := List.perm_insertionSort CapturedLe left.files
    have hmem : d ∈ left.files.map (·.val.described) ↔
        d ∈ (filesBelow tree.entries []).map (FileBelow.described sha256) := by rw [hfiles]
    rw [List.mem_map, List.mem_map] at hmem
    simp only [hperm.mem_iff]
    exact hmem
  · have hmem : (PyStr.ofText path.val, payload) ∈
          left.payloads.map (fun c => (PyStr.ofText c.1.val, c.2)) ↔
        (PyStr.ofText path.val, payload) ∈
          (filesBelow tree.entries []).map fun f => (asPosix f.path, f.payload) := by rw [hpayloads]
    rw [List.mem_map, List.mem_map] at hmem
    constructor
    · intro hc
      obtain ⟨g, hg, heq⟩ := hmem.mp ⟨(path, payload), hc, rfl⟩
      obtain ⟨hpath, hbytes⟩ := Prod.mk.inj heq
      exact ⟨g, hg, hpath, hbytes⟩
    · rintro ⟨g, hg, hpath, rfl⟩
      obtain ⟨⟨path', payload'⟩, hc, heq⟩ := hmem.mpr ⟨g, hg, by rw [hpath]⟩
      obtain ⟨hpath', hbytes⟩ := Prod.mk.inj heq
      obtain rfl : path' = path := Subtype.ext (PyStr.ofText_injective hpath')
      exact hbytes ▸ hc
  · have hmap : left.payloads.map (fun c => PyStr.ofText c.1.val) =
        (left.payloads.map Prod.fst).map fun p => PyStr.ofText p.val := by
      rw [List.map_map]
      rfl
    exact List.Nodup.of_map _ (hmap ▸ hkeys)
  · have hperm := List.perm_insertionSort (fun a b : PortablePath => a.val ≤ b.val) left.directories
    have hmem : PyStr.ofText path.val ∈ left.directories.map (PyStr.ofText ·.val) ↔
        PyStr.ofText path.val ∈ (directoriesBelow tree.entries []).map asPosix := by rw [hdirectories]
    rw [List.mem_map, List.mem_map] at hmem
    rw [hperm.mem_iff, ← hmem]
    constructor
    · exact fun hd => ⟨path, hd, rfl⟩
    · rintro ⟨path', hd, heq⟩
      obtain rfl : path' = path := Subtype.ext (PyStr.ofText_injective heq)
      exact hd

end SkillsSdk

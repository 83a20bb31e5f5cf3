/-
SkillsSdk/PluginAcceptance.lean

What the capture of a plugin accepts.

The capture counts as it walks and gives up at the first entry that is too much.
The counters only grow, so it is the whole tree that decides: a walk returns when
every entry below the directory is admitted and taken and the entries, the files
and their bytes are within the bounds together (`capturePlugin_ok_iff`), as long
as the size of a file is that of its bytes.
-/
import SkillsSdk.Lib.TreeCreation
import SkillsSdk.PluginCapture

namespace SkillsSdk

open NamedTree

variable {sha256 : List UInt8 → Sha256}

/-! ### Files and directories of a listing -/

/-- The file that an entry of a listing is. -/
def listedFile : List FileName × (PluginObservation ⊕ PluginDirectory) → Option FileBelow
  | (path, .inl (.regular _ mode (.ok payload))) => some ⟨path, mode, payload⟩
  | _ => none

/-- The path of a directory of a listing. -/
def listedDirectory : List FileName × (PluginObservation ⊕ PluginDirectory) → Option (List FileName)
  | (path, .inr _) => some path
  | _ => none

mutual

theorem filesBelow_eq : ∀ (es : PluginEntries) (relative : List FileName),
    filesBelow es relative = (listing es relative).filterMap listedFile
  | .nil, _ => rfl
  | .cons name node rest, relative => by
    rw [filesBelow, listing, List.filterMap_append, nodeFiles_eq, filesBelow_eq]

theorem nodeFiles_eq : ∀ (node : PluginNode) (path : List FileName),
    nodeFiles node path = (nodeListing node path).filterMap listedFile
  | .leaf (.regular _ _ (.ok _)), _ => rfl
  | .leaf (.regular _ _ (.error _)), _ => rfl
  | .leaf .other, _ => rfl
  | .dir d entries, path => by
    rw [nodeFiles, nodeListing, filesBelow_eq]
    rfl

end

mutual

theorem directoriesBelow_eq : ∀ (es : PluginEntries) (relative : List FileName),
    directoriesBelow es relative = (listing es relative).filterMap listedDirectory
  | .nil, _ => rfl
  | .cons name node rest, relative => by
    rw [directoriesBelow, listing, List.filterMap_append, nodeDirectories_eq, directoriesBelow_eq]

theorem nodeDirectories_eq : ∀ (node : PluginNode) (path : List FileName),
    nodeDirectories node path = (nodeListing node path).filterMap listedDirectory
  | .leaf _, _ => rfl
  | .dir d entries, path => by
    rw [nodeDirectories, nodeListing, directoriesBelow_eq]
    rfl

end

/-! ### The counters -/

/-- The bytes of the files together. -/
def totalBytes (files : List FileBelow) : Nat := (files.map fun f => f.payload.length).sum

theorem totalBytes_append (files files' : List FileBelow) :
    totalBytes (files ++ files') = totalBytes files + totalBytes files' := by
  rw [totalBytes, List.map_append, List.sum_append]
  rfl

/-- The counters have not gone over their bounds. -/
structure CaptureState.Within (s : CaptureState) : Prop where
  resources : s.resources ≤ maxPluginResources
  files : s.files.length ≤ maxPluginFiles
  totalSize : s.totalSize ≤ maxPluginTotalBytes

/-- What a part of the walk adds to the counters: `entries` of them were counted before. -/
structure Counts (entries : Nat) (nodes : Nat) (files : List FileBelow) (s s' : CaptureState) : Prop where
  resources : s'.resources + entries = s.resources + nodes
  count : s'.files.length = s.files.length + files.length
  totalSize : s'.totalSize = s.totalSize + totalBytes files
  within : s.Within → s'.Within

mutual

theorem visitNames_counts : ∀ (es : PluginEntries) (relative : List FileName) (s s' : CaptureState),
    visitNames sha256 es relative s = .ok s' →
    Counts es.names.length (listing es relative).length (filesBelow es relative) s s'
  | .nil => by
    intro relative s s' h
    rw [visitNames] at h
    obtain rfl := Except.ok.inj h
    exact ⟨rfl, rfl, rfl, id⟩
  | .cons name node rest => by
    intro relative s s' h
    rw [visitNames] at h
    obtain ⟨middle, hfirst, hrest⟩ := bind_eq_ok_iff.mp h
    have hnode := visitName_counts node name relative s middle hfirst
    have hothers := visitNames_counts rest relative middle s' hrest
    have hresources := hnode.resources
    have hresources' := hothers.resources
    refine ⟨?_, ?_, ?_, fun hs => hothers.within (hnode.within hs)⟩
    · rw [Entries.names, listing, List.length_cons, List.length_append]
      omega
    · rw [hothers.count, hnode.count, filesBelow, List.length_append, Nat.add_assoc]
    · rw [hothers.totalSize, hnode.totalSize, filesBelow, totalBytes_append, Nat.add_assoc]

theorem visitName_counts : ∀ (node : PluginNode) (name : FileName) (relative : List FileName)
    (s s' : CaptureState), visitName sha256 node name relative s = .ok s' →
    Counts 1 (nodeListing node (relative ++ [name])).length (nodeFiles node (relative ++ [name])) s s'
  | .leaf o => by
    intro name relative s s' h
    rw [visitName] at h
    obtain ⟨p, -, h⟩ := bind_eq_ok_iff.mp h
    obtain ⟨size, mode, payload, file, rfl, -, ⟨hfiles, htotal⟩, -, rfl⟩ := captureFile_eq_ok h
    refine ⟨rfl, List.length_append, rfl, fun hs => ⟨hs.resources, ?_, htotal⟩⟩
    show (s.files ++ [file]).length ≤ maxPluginFiles
    rw [List.length_append, List.length_singleton]
    exact hfiles
  | .dir d entries => by
    intro name relative s s' h
    rw [visitName] at h
    obtain ⟨p, -, hsteps⟩ := bind_eq_ok_iff.mp h
    obtain ⟨entered, henter, hinside⟩ := bind_eq_ok_iff.mp hsteps
    obtain ⟨walked, hwalk, hleave⟩ := bind_eq_ok_iff.mp hinside
    obtain ⟨⟨-, -, -, hcount⟩, rfl⟩ := enterDirectory_eq_ok henter
    obtain ⟨-, rfl⟩ := leaveDirectory_eq_ok hleave
    have hentries := visitNames_counts entries (relative ++ [name]) _ _ hwalk
    have hresources : s'.resources + entries.names.length =
        s.resources + entries.names.length + (listing entries (relative ++ [name])).length := hentries.resources
    refine ⟨?_, hentries.count, hentries.totalSize, fun hs => hentries.within ⟨hcount, hs.files, hs.totalSize⟩⟩
    rw [nodeListing, List.length_cons]
    omega

end

/-! ### What a walk accepts -/

theorem validate_capturedFile {f : PluginCapturedFileData} (hsize : f.sizeBytes ≤ 16 * 1024 * 1024)
    (hmode : f.permissionMode ≤ 0o777) : f.validate = .ok () := by
  rw [PluginCapturedFileData.validate, validateWith_eq_ok]
  refine ⟨?_, by simp⟩
  rw [check_eq_nil.mpr (decide_eq_true hsize), check_eq_nil.mpr (decide_eq_true hmode)]
  rfl

theorem admitName_of_admitted {relative : List FileName} {name : FileName} (h : Admitted (relative ++ [name])) :
    ∃ p, admitName relative name = .ok p := by
  obtain ⟨parent, name', p, heq, hp⟩ := h
  obtain ⟨rfl, hlast⟩ := List.append_inj' heq rfl
  obtain rfl : name = name' := by simpa using hlast
  exact ⟨p, hp⟩

/-- An entry that the capture accepts, and whose size is that of its bytes. -/
structure Acceptable (path : List FileName) (node : PluginNode) : Prop where
  admitted : Admitted path
  taken : Taken path node
  size_eq : ∀ size mode payload, node = .leaf (.regular size mode (.ok payload)) → size = payload.length

/-- The nodes and files that are left fit into what is left of the bounds. -/
structure Budget (entries nodes : Nat) (files : List FileBelow) (s : CaptureState) : Prop where
  resources : s.resources + nodes ≤ maxPluginResources + entries
  count : s.files.length + files.length ≤ maxPluginFiles
  totalSize : s.totalSize + totalBytes files ≤ maxPluginTotalBytes

theorem captureFile_ok {path : List FileName} {p : PortablePath} {o : PluginObservation} {s : CaptureState}
    (h : Acceptable path (.leaf o)) (hbudget : Budget 1 1 (nodeFiles (.leaf o) path) s) :
    ∃ s', captureFile sha256 p o s = .ok s' := by
  obtain ⟨-, htaken, hsize⟩ := h
  cases htaken with
  | @file size mode payload hbits hlength =>
    -- the size that stat says is that of the bytes
    obtain rfl : size = payload.length := hsize size mode payload rfl
    have hfiles : s.files.length + 1 ≤ maxPluginFiles := hbudget.count
    have htotal : s.totalSize + payload.length ≤ maxPluginTotalBytes := hbudget.totalSize
    have hread : readPluginFile mode (.ok payload) = .ok payload := by
      have hno : ¬ (hasSpecialBit mode = true ∨ maxPluginFileBytes < payload.length) := by
        rw [hbits]
        simpa using hlength
      exact if_neg hno
    have hmode : mode ≤ 0o777 := Nat.not_lt.mp (of_decide_eq_false hbits)
    have hvalid : PluginCapturedFileData.validate ⟨p, sha256 payload, payload.length, mode⟩ = .ok () :=
      validate_capturedFile hlength hmode
    have hfile : construct PluginCapturedFileData.validate ⟨p, sha256 payload, payload.length, mode⟩ =
        .ok ⟨_, hvalid⟩ := construct_eq_ok_iff.mpr rfl
    refine ⟨{ s with
      totalSize := s.totalSize + payload.length
      files := s.files ++ [⟨_, hvalid⟩]
      payloads := s.payloads ++ [(p, payload)] }, ?_⟩
    rw [captureFile, if_neg (by omega), hread]
    show (if maxPluginTotalBytes < s.totalSize + payload.length then _ else _) = _
    rw [if_neg (by omega), hfile]
    rfl

mutual

theorem visitNames_ok : ∀ (es : PluginEntries) (relative : List FileName) (s : CaptureState),
    (∀ path node, At es path node → Acceptable (relative ++ path) node) →
    Budget es.names.length (listing es relative).length (filesBelow es relative) s →
    ∃ s', visitNames sha256 es relative s = .ok s'
  | .nil => fun relative s _ _ => ⟨s, rfl⟩
  | .cons name node rest => by
    intro relative s h hbudget
    have hresources := hbudget.resources
    have hfiles := hbudget.count
    have htotal := hbudget.totalSize
    rw [Entries.names, listing, List.length_cons, List.length_append] at hresources
    rw [filesBelow, List.length_append] at hfiles
    rw [filesBelow, totalBytes_append] at htotal
    -- each entry of the others was counted, and is in the listing
    have hcounted := names_length_le rest relative
    obtain ⟨middle, hfirst⟩ := visitName_ok node name relative s (h [name] node (at_cons_iff.mpr (Or.inl ⟨rfl, rfl⟩)))
      (fun d sub hdir path x hat => by
        have hx := h (name :: path) x (at_cons_iff.mpr (Or.inr (Or.inl ⟨d, sub, path, hdir, rfl, hat⟩)))
        rwa [List.append_assoc, List.singleton_append])
      ⟨by omega, by omega, by omega⟩
    have hcounts := visitName_counts node name relative s middle hfirst
    have hmiddle := hcounts.resources
    obtain ⟨s', hrest⟩ := visitNames_ok rest relative middle
      (fun path x hat => h path x (at_cons_iff.mpr (Or.inr (Or.inr hat))))
      ⟨by omega, by rw [hcounts.count]; omega, by rw [hcounts.totalSize]; omega⟩
    exact ⟨s', by rw [visitNames, hfirst]; exact hrest⟩

theorem visitName_ok : ∀ (node : PluginNode) (name : FileName) (relative : List FileName) (s : CaptureState),
    Acceptable (relative ++ [name]) node →
    (∀ d sub, node = .dir d sub → ∀ path x, At sub path x → Acceptable (relative ++ [name] ++ path) x) →
    Budget 1 (nodeListing node (relative ++ [name])).length (nodeFiles node (relative ++ [name])) s →
    ∃ s', visitName sha256 node name relative s = .ok s'
  | .leaf o => by
    intro name relative s h _ hbudget
    obtain ⟨p, hp⟩ := admitName_of_admitted h.admitted
    obtain ⟨s', hs'⟩ := captureFile_ok (p := p) h hbudget
    exact ⟨s', by rw [visitName, hp]; exact hs'⟩
  | .dir d entries => by
    intro name relative s h hbelow hbudget
    obtain ⟨p, hp⟩ := admitName_of_admitted h.admitted
    have hresources := hbudget.resources
    rw [nodeListing, List.length_cons] at hresources
    have hcounted := names_length_le entries (relative ++ [name])
    cases h.taken with
    | directory hfailure hspecial hchanged hdepth =>
      rw [List.length_append, List.length_singleton] at hdepth
      have henter : enterDirectory d entries (relative.length + 1) { s with directories := s.directories ++ [p] } =
          .ok { s with
            directories := s.directories ++ [p]
            resources := s.resources + entries.names.length } := by
        -- an acceptable directory is shallow and of no special mode
        have hopens : ¬ (maxPluginDepth < relative.length + 1 ∨ d.special = true) := by
          rw [hspecial]
          rintro (hdeep | hbit)
          · omega
          · cases hbit
        rw [enterDirectory, if_neg hopens, hfailure]
        exact if_neg (show ¬ maxPluginResources < s.resources + entries.names.length by omega)
      obtain ⟨walked, hwalk⟩ := visitNames_ok entries (relative ++ [name])
        { s with directories := s.directories ++ [p], resources := s.resources + entries.names.length }
        (hbelow d entries rfl)
        ⟨show s.resources + entries.names.length + _ ≤ _ by omega, hbudget.count, hbudget.totalSize⟩
      refine ⟨walked, ?_⟩
      rw [visitName, hp]
      show (enterDirectory _ _ _ _ >>= _) = _
      rw [henter]
      show (visitNames sha256 entries (relative ++ [name]) _ >>= _) = _
      rw [hwalk]
      exact if_neg (by simp [hchanged])

end

/-! ### The whole capture -/

/-- The size of every file is that of the bytes that are read. -/
def SizesAgree (es : PluginEntries) : Prop :=
  ∀ path size mode payload, At es path (.leaf (.regular size mode (.ok payload))) → size = payload.length

/-- A tree that the capture accepts: at rest, every entry admitted and taken, and all of
them together within the bounds. -/
structure AcceptedTree (tree : PluginTree) : Prop where
  settled : tree.settled = true
  root : tree.directory = ⟨none, false, false⟩
  nodes : ∀ path node, At tree.entries path node → Admitted path ∧ Taken path node
  resources : (listing tree.entries []).length ≤ maxPluginResources
  count : (filesBelow tree.entries []).length ≤ maxPluginFiles
  totalSize : totalBytes (filesBelow tree.entries []) ≤ maxPluginTotalBytes

/-- **What a capture accepts.** -/
theorem capturePlugin_ok_iff {tree : PluginTree} (hsizes : SizesAgree tree.entries) :
    (∃ c, capturePlugin sha256 tree = .ok c) ↔ AcceptedTree tree := by
  constructor
  · rintro ⟨c, h⟩
    have haccepted := (capturePlugin_spec h).accepted
    rw [capturePlugin] at h
    obtain ⟨entered, henter, hinside⟩ := bind_eq_ok_iff.mp h
    obtain ⟨walked, hwalk, hend⟩ := bind_eq_ok_iff.mp hinside
    obtain ⟨left, hleave, hresult⟩ := bind_eq_ok_iff.mp hend
    obtain ⟨⟨-, hspecial, hfailure, hcount⟩, rfl⟩ := enterDirectory_eq_ok henter
    obtain ⟨hchanged, rfl⟩ := leaveDirectory_eq_ok hleave
    split_ifs at hresult with hsettled
    have hcounts := visitNames_counts tree.entries [] _ _ hwalk
    have hresources : left.resources + tree.entries.names.length =
        0 + tree.entries.names.length + (listing tree.entries []).length := hcounts.resources
    have hfiles : left.files.length = 0 + (filesBelow tree.entries []).length := hcounts.count
    have htotal : left.totalSize = 0 + totalBytes (filesBelow tree.entries []) := hcounts.totalSize
    -- the counters only grow, so a bound on the whole is a bound on the way
    obtain ⟨hwithin, hwithin', hwithin''⟩ := hcounts.within ⟨hcount, Nat.zero_le _, Nat.zero_le _⟩
    refine ⟨hsettled, ?_, haccepted, by omega, by omega, by omega⟩
    obtain ⟨⟨failure, special, changed⟩, entries, distinct, settled⟩ := tree
    obtain rfl : failure = none := hfailure
    obtain rfl : special = false := hspecial
    obtain rfl : changed = false := hchanged
    rfl
  · rintro ⟨hsettled, hroot, hnodes, hresources, hfiles, htotal⟩
    have hcounted := names_length_le tree.entries []
    have henter : enterDirectory tree.directory tree.entries 0 {} =
        .ok { resources := 0 + tree.entries.names.length } := by
      rw [hroot, enterDirectory, if_neg (by simp)]
      exact if_neg (show ¬ maxPluginResources < 0 + tree.entries.names.length by omega)
    obtain ⟨walked, hwalk⟩ : ∃ walked,
        visitNames sha256 tree.entries [] { resources := 0 + tree.entries.names.length } = .ok walked :=
      visitNames_ok tree.entries [] _ (fun path node hat => by
        obtain ⟨hadmitted, htaken⟩ := hnodes path node hat
        refine ⟨hadmitted, htaken, fun size mode payload hnode => ?_⟩
        subst hnode
        exact hsizes path size mode payload hat)
      ⟨show 0 + tree.entries.names.length + _ ≤ _ by omega, show 0 + _ ≤ _ by omega, show 0 + _ ≤ _ by omega⟩
    have hleave : leaveDirectory tree.directory walked = .ok walked := by
      rw [hroot]
      rfl
    refine ⟨⟨walked.files.insertionSort CapturedLe, walked.payloads,
      walked.directories.insertionSort fun a b => a.val ≤ b.val⟩, ?_⟩
    rw [capturePlugin, henter]
    show (visitNames sha256 tree.entries [] _ >>= _) = _
    rw [hwalk]
    show (leaveDirectory tree.directory walked >>= _) = _
    rw [hleave]
    exact if_pos hsettled

/-- The directories of a capture are those of the walk, sorted. -/
theorem capturePlugin_directories {tree : PluginTree} {c : PluginCapture} (h : capturePlugin sha256 tree = .ok c) :
    ∃ ds : List PortablePath, c.directories = ds.insertionSort (fun a b => a.val ≤ b.val) ∧
      ds.map (fun d => PyStr.ofText d.val) = (directoriesBelow tree.entries []).map asPosix := by
  rw [capturePlugin] at h
  obtain ⟨entered, henter, hinside⟩ := bind_eq_ok_iff.mp h
  obtain ⟨walked, hwalk, hend⟩ := bind_eq_ok_iff.mp hinside
  obtain ⟨left, hleave, hresult⟩ := bind_eq_ok_iff.mp hend
  obtain ⟨-, rfl⟩ := enterDirectory_eq_ok henter
  obtain ⟨-, rfl⟩ := leaveDirectory_eq_ok hleave
  split_ifs at hresult
  obtain rfl := Except.ok.inj hresult
  exact ⟨left.directories, rfl, (visitNames_spec tree.entries [] _ _ hwalk).1.directories_eq⟩

end SkillsSdk

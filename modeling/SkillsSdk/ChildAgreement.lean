/-
SkillsSdk/ChildAgreement.lean

When a child of a plugin is what the skill is on its own.

The child holds a record for each file of the skill (`mem_records`), the scan
one for each file that is not under a stray name (`scan_captured_iff`).  The
findings of the two differ only by what the scan reports of stray names, so the
results agree exactly under `childAgrees_iff`.
-/
import SkillsSdk.PluginChildren

namespace SkillsSdk

open NamedTree

variable {parsers : Parsers} {sha256 : List UInt8 → Sha256}

/-! ### The records of the child -/

theorem relativeTo_eq_some_iff {directory path rest : Text} :
    relativeTo directory path = some rest ↔ path = directory ++ '/' :: rest := by
  rw [relativeTo]
  dsimp only
  constructor
  · intro h
    split_ifs at h with hleading
    obtain ⟨tail, rfl⟩ := List.isPrefixOf_iff_prefix.mp hleading
    obtain rfl := Option.some.inj h
    simp [List.drop_append]
  · rintro rfl
    have hleading : (directory ++ ['/']).isPrefixOf (directory ++ '/' :: rest) = true :=
      List.isPrefixOf_iff_prefix.mpr ⟨rest, by simp⟩
    rw [if_pos hleading]
    simp [List.drop_append]

theorem childRecord_eq_ok {f : PluginCapturedFile} {path : Text} {m : PackageManifestFile}
    (h : childRecord f path = .ok m) : m.path.val = path ∧
      m = ⟨m.path, f.val.sha256, f.val.sizeBytes, fileRole m.path.val⟩ := by
  rw [childRecord] at h
  split_ifs at h with hportable
  obtain rfl := Except.ok.inj h
  exact ⟨rfl, rfl⟩

/-- The records of a child are there when the paths of its files are portable. -/
theorem raises_childRecords_iff {directory : Text} {files : List PluginCapturedFile} :
    Raises (childRecords directory files) ↔
      ∃ f ∈ files, ∃ path, relativeTo directory f.val.path.val = some path ∧ isPortable path = false := by
  rw [childRecords, raises_mapM_iff]
  constructor
  · rintro ⟨⟨f, path⟩, hmem, e, he⟩
    obtain ⟨f', hf', hpath⟩ := List.mem_filterMap.mp hmem
    obtain ⟨path', hrelative, heq⟩ := Option.map_eq_some_iff.mp hpath
    obtain ⟨rfl, rfl⟩ := Prod.mk.inj heq
    refine ⟨f', hf', path', hrelative, ?_⟩
    rw [childRecord] at he
    split_ifs at he with hportable
    simpa using hportable
  · rintro ⟨f, hf, path, hrelative, hportable⟩
    refine ⟨(f, path), List.mem_filterMap.mpr ⟨f, hf, ?_⟩, .valueError, ?_⟩
    · rw [hrelative]
      rfl
    · exact dif_neg (by rw [hportable]; exact Bool.false_ne_true)

theorem mem_childRecords {directory : Text} {files : List PluginCapturedFile}
    {records : List PackageManifestFile} (h : childRecords directory files = .ok records)
    (m : PackageManifestFile) :
    m ∈ records ↔ ∃ f ∈ files, f.val.path.val = directory ++ '/' :: m.path.val ∧
      m = ⟨m.path, f.val.sha256, f.val.sizeBytes, fileRole m.path.val⟩ := by
  constructor
  · intro hm
    obtain ⟨⟨f, path⟩, hmem, hrecord⟩ := mem_of_mapM_eq_ok h m hm
    obtain ⟨f', hf', hpath⟩ := List.mem_filterMap.mp hmem
    obtain ⟨path', hrelative, heq⟩ := Option.map_eq_some_iff.mp hpath
    obtain ⟨rfl, rfl⟩ := Prod.mk.inj heq
    obtain ⟨rfl, hm⟩ := childRecord_eq_ok hrecord
    exact ⟨f', hf', relativeTo_eq_some_iff.mp hrelative, hm⟩
  · rintro ⟨f, hf, hpath, hm⟩
    have hmem : (f, m.path.val) ∈
        files.filterMap fun f => (relativeTo directory f.val.path.val).map (f, ·) := by
      refine List.mem_filterMap.mpr ⟨f, hf, ?_⟩
      rw [relativeTo_eq_some_iff.mpr hpath]
      rfl
    obtain ⟨m', hm', hrecord⟩ := exists_of_mapM_eq_ok h _ hmem
    obtain ⟨hsame, heq⟩ := childRecord_eq_ok hrecord
    obtain rfl : m = m' := by
      rw [hm, heq, Subtype.ext hsame]
    exact hm'

/-- The records keep the order of the captured files. -/
theorem childRecords_sorted {directory : Text} {files : List PluginCapturedFile}
    {records : List PackageManifestFile} (h : childRecords directory files = .ok records)
    (hsorted : files.Pairwise fun a b => a.val.path.val < b.val.path.val) :
    records.Pairwise fun a b => a.path.val < b.path.val := by
  have hpaths : records.map (·.path.val) =
      files.filterMap fun f => relativeTo directory f.val.path.val := by
    have hpairs := mapM_eq_ok_iff.mp h
    have hlength := congrArg List.length hpairs
    simp only [List.length_map] at hlength
    have hsnd : records.map (·.path.val) =
        (files.filterMap fun f => (relativeTo directory f.val.path.val).map (f, ·)).map Prod.snd := by
      refine List.ext_getElem (by rw [List.length_map, List.length_map, hlength]) fun i hi hi' => ?_
      rw [List.getElem_map, List.getElem_map]
      have hat := congrArg (fun l => l[i]?) hpairs
      simp only [List.length_map] at hi hi'
      simp only [List.getElem?_map, List.getElem?_eq_getElem hi, List.getElem?_eq_getElem hi',
        Option.map_some, Option.some.injEq] at hat
      exact (childRecord_eq_ok hat).1
    -- the records stand in the order of the captured files
    rw [hsnd, List.map_filterMap]
    simp
  rw [← List.pairwise_map (f := fun m : PackageManifestFile => m.path.val) (R := (· < ·)), hpaths,
    List.pairwise_filterMap]
  refine hsorted.imp fun {a b} hlt u hu v hv => ?_
  rw [relativeTo_eq_some_iff] at hu hv
  rw [hu, hv] at hlt
  -- paths below one directory are ordered like what follows it
  by_contra hnot
  rcases (not_lt.mp hnot).lt_or_eq with hgt | rfl
  · have htails : '/' :: v < '/' :: u := List.cons_lt_cons_self.mpr hgt
    have hpaths' : directory ++ '/' :: v < directory ++ '/' :: u := List.append_left_lt htails
    exact lt_asymm hlt hpaths'
  · exact lt_irrefl _ hlt

theorem asPosix_under {a b : FileName} {tail : List FileName} (h : tail ≠ []) :
    asPosix (a :: b :: tail) = asPosix [a, b] ++ .scalar '/' :: asPosix tail := by
  rcases tail with - | ⟨c, tail⟩
  · exact absurd rfl h
  · simp [asPosix, List.intercalate_cons_cons]

namespace CapturedSkill

variable (s : CapturedSkill sha256)

/-- The paths of the plugin under that of the skill are those of its entries. -/
theorem path_under_iff {path : List FileName} (hpath : path ≠ []) {rest : Text} :
    asPosix path = PyStr.ofText (s.path.val ++ '/' :: rest) ↔
      ∃ tail, tail ≠ [] ∧ path = skillsName :: s.name :: tail ∧ asPosix tail = PyStr.ofText rest := by
  have htext : PyStr.ofText (s.path.val ++ '/' :: rest) =
      asPosix [skillsName, s.name] ++ .scalar '/' :: PyStr.ofText rest := by
    rw [s.path_eq]
    simp [PyStr.ofText]
  rw [htext]
  constructor
  · intro h
    -- both sides are split at the slashes: the skill directory has two names
    have hsplit := congrArg (List.splitOn (.scalar '/')) h
    rw [splitOn_asPosix hpath, List.splitOn_append_cons_self, splitOn_asPosix (List.cons_ne_nil _ _)] at hsplit
    rcases path with - | ⟨a, - | ⟨b, tail⟩⟩
    · exact absurd rfl hpath
    · simp at hsplit
    · simp only [List.map_cons, List.map_nil, List.cons_append, List.nil_append, List.cons.injEq] at hsplit
      obtain ⟨ha, hb, htail⟩ := hsplit
      obtain rfl := Subtype.ext ha
      obtain rfl := Subtype.ext hb
      have hne : tail ≠ [] := by
        rintro rfl
        exact List.splitOn_ne_nil _ _ htail.symm
      refine ⟨tail, hne, rfl, ?_⟩
      rw [asPosix_under hne] at h
      exact (List.cons.inj (List.append_cancel_left h)).2
  · rintro ⟨tail, hne, rfl, htail⟩
    rw [asPosix_under hne, htail]

/-- The files of the plugin under the path of the skill are its files. -/
theorem below_iff {rest : Text} {mode : Nat} {payload : List UInt8} :
    (∃ g ∈ filesBelow s.tree.entries [], asPosix g.path = PyStr.ofText (s.path.val ++ '/' :: rest) ∧
        g.mode = mode ∧ g.payload = payload) ↔
      ∃ g ∈ filesBelow s.entries [], asPosix g.path = PyStr.ofText rest ∧ g.mode = mode ∧
        g.payload = payload := by
  constructor
  · rintro ⟨g, hg, hpath, rfl, rfl⟩
    obtain ⟨path, size, heq, hat⟩ := mem_filesBelow.mp hg
    rw [List.nil_append] at heq
    rw [← heq] at hat
    obtain ⟨tail, hne, hunder, htail⟩ := (s.path_under_iff hat.ne_nil).mp hpath
    rw [hunder, s.at_tree_iff hne] at hat
    exact ⟨⟨tail, g.mode, g.payload⟩, mem_filesBelow.mpr ⟨tail, size, rfl, hat⟩, htail, rfl, rfl⟩
  · rintro ⟨g, hg, hpath, rfl, rfl⟩
    obtain ⟨path, size, heq, hat⟩ := mem_filesBelow.mp hg
    rw [List.nil_append] at heq
    rw [← heq] at hat
    refine ⟨⟨skillsName :: s.name :: g.path, g.mode, g.payload⟩,
      mem_filesBelow.mpr ⟨_, size, rfl, (s.at_tree_iff hat.ne_nil).mpr hat⟩, ?_, rfl, rfl⟩
    exact (s.path_under_iff (List.cons_ne_nil _ _)).mpr ⟨g.path, hat.ne_nil, rfl, hpath⟩

/-- The captured files under the path of the skill. -/
theorem file_iff {rest : Text} {digest : Sha256} {size : Nat} :
    (∃ f ∈ s.capture.files, f.val.path.val = s.path.val ++ '/' :: rest ∧ f.val.sha256 = digest ∧
        f.val.sizeBytes = size) ↔
      ∃ g ∈ filesBelow s.entries [], asPosix g.path = PyStr.ofText rest ∧ sha256 g.payload = digest ∧
        g.payload.length = size := by
  have hfiles := (capturePlugin_spec s.captured).files_iff
  constructor
  · rintro ⟨f, hf, hpath, rfl, rfl⟩
    obtain ⟨g, hg, hdescribed⟩ := (hfiles _).mp ⟨f, hf, rfl⟩
    simp only [FileBelow.described, PluginCapturedFileData.described, Prod.mk.injEq] at hdescribed
    obtain ⟨hgpath, hdigest, hsize, -⟩ := hdescribed
    rw [hpath] at hgpath
    obtain ⟨g', hg', hrest, -, hpayload⟩ := s.below_iff.mp ⟨g, hg, hgpath, rfl, rfl⟩
    exact ⟨g', hg', hrest, by rw [hpayload, hdigest], by rw [hpayload, hsize]⟩
  · rintro ⟨g, hg, hpath, rfl, rfl⟩
    obtain ⟨g', hg', hpath', hmode, hpayload⟩ := s.below_iff.mpr ⟨g, hg, hpath, rfl, rfl⟩
    obtain ⟨f, hf, hdescribed⟩ := (hfiles _).mpr ⟨g', hg', rfl⟩
    simp only [FileBelow.described, PluginCapturedFileData.described, Prod.mk.injEq] at hdescribed
    obtain ⟨hfpath, hdigest, hsize, -⟩ := hdescribed
    rw [hpath'] at hfpath
    exact ⟨f, hf, PyStr.ofText_injective hfpath, by rw [hdigest, hpayload], by rw [hsize, hpayload]⟩

/-- **The records of the child** are those of the files of the skill. -/
theorem mem_records {records : List PackageManifestFile}
    (h : childRecords s.path.val s.capture.files = .ok records) (m : PackageManifestFile) :
    m ∈ records ↔ ∃ g ∈ filesBelow s.entries [], asPosix g.path = PyStr.ofText m.path.val ∧
      m = fileRecord sha256 m.path g.payload := by
  rw [mem_childRecords h]
  constructor
  · rintro ⟨f, hf, hpath, hm⟩
    obtain ⟨g, hg, hgpath, hdigest, hsize⟩ := s.file_iff.mp ⟨f, hf, hpath, rfl, rfl⟩
    refine ⟨g, hg, hgpath, ?_⟩
    rw [fileRecord, hdigest, hsize]
    exact hm
  · rintro ⟨g, hg, hgpath, hm⟩
    obtain ⟨f, hf, hpath, hdigest, hsize⟩ := s.file_iff.mpr ⟨g, hg, hgpath, rfl, rfl⟩
    refine ⟨f, hf, hpath, ?_⟩
    rw [hdigest, hsize]
    exact hm

/-- The records of the child are there when the paths inside the skill are portable. -/
theorem raises_records_iff :
    Raises (childRecords s.path.val s.capture.files) ↔
      ∃ g ∈ filesBelow s.entries [], portable? (asPosix g.path) = none := by
  have hportable : ∀ t : Text, portable? (PyStr.ofText t) = none ↔ isPortable t = false := by
    intro t
    rw [portable?, PyStr.encode?_ofText, Option.bind_some]
    split_ifs with h
    · simp [h]
    · simpa using h
  rw [raises_childRecords_iff]
  constructor
  · rintro ⟨f, hf, rest, hrelative, hnot⟩
    obtain ⟨g, hg, hpath, -⟩ := s.file_iff.mp ⟨f, hf, relativeTo_eq_some_iff.mp hrelative, rfl, rfl⟩
    exact ⟨g, hg, by rwa [hpath, hportable]⟩
  · rintro ⟨g, hg, hnot⟩
    obtain ⟨path, size, heq, hat⟩ := mem_filesBelow.mp hg
    rw [List.nil_append] at heq
    rw [← heq] at hat
    -- the capture admitted the path, so its names are plain text
    obtain ⟨parent, name, hsplit⟩ : ∃ parent name, g.path = parent ++ [name] := by
      rcases List.eq_nil_or_concat g.path with h | ⟨parent, name, h⟩
      · exact absurd h hat.ne_nil
      · exact ⟨parent, name, by simpa using h⟩
    have hplain : ∀ n ∈ g.path, PlainName n := by
      rw [hsplit] at hat ⊢
      exact (s.admitted hat).1
    obtain ⟨ts, hts, -⟩ := texts_of_plain hplain
    have htext := asPosix_eq_text hat.ne_nil hts
    obtain ⟨f, hf, hpath, -⟩ := s.file_iff.mpr ⟨g, hg, htext, rfl, rfl⟩
    refine ⟨f, hf, _, relativeTo_eq_some_iff.mpr hpath, ?_⟩
    rwa [htext, hportable] at hnot

end CapturedSkill

/-! ### What an entrypoint finds -/

theorem finding_blocker {text : FindingText} {refs : List PyStr} {f : SkillPackageFinding}
    (h : finding text refs = .ok f) : f.severity = .blocker := by
  rw [finding, newFinding] at h
  split at h
  · rw [← Except.ok.inj h]
  · cases h

theorem handledFinding_blocker {code : BlockerCode} {message : PyStr} {refs : List PyStr}
    {f : SkillPackageFinding} (h : handledFinding (findingSaying code message refs) = .ok f) :
    f.severity = .blocker := by
  have hfinding := mapError_eq_ok_iff.mp h
  rw [findingSaying] at hfinding
  split at hfinding
  · exact finding_blocker hfinding
  · cases hfinding

theorem unknownKeyFindings_blockers {ir : SkillIR} {policy : SkillValidationPolicy}
    {fs : List SkillPackageFinding} (h : unknownKeyFindings ir policy = .ok fs) :
    ∀ f ∈ fs, f.severity = .blocker := by
  rw [unknownKeyFindings] at h
  dsimp only at h
  split_ifs at h
  · obtain rfl := Except.ok.inj h
    simp
  · obtain ⟨f, hf, h⟩ := bind_eq_ok_iff.mp h
    obtain rfl := Except.ok.inj h
    simpa using handledFinding_blocker hf

theorem lineBudgetFindings_blockers {text : Text} {policy : SkillValidationPolicy}
    {fs : List SkillPackageFinding} (h : lineBudgetFindings text policy = .ok fs) :
    ∀ f ∈ fs, f.severity = .blocker := by
  rw [lineBudgetFindings] at h
  split at h
  · obtain rfl := Except.ok.inj h
    simp
  · dsimp only at h
    split_ifs at h
    · obtain ⟨shown, -, h⟩ := bind_eq_ok_iff.mp h
      obtain ⟨f, hf, h⟩ := bind_eq_ok_iff.mp h
      obtain rfl := Except.ok.inj h
      simpa using handledFinding_blocker hf
    · obtain rfl := Except.ok.inj h
      simp

theorem declaredIdentity_blockers (rootName : PyStr) (ir : SkillIR) :
    ∀ f ∈ (declaredIdentity rootName ir).2, f.severity = .blocker := by
  rw [declaredIdentity]
  split
  · split
    · simp
    · simp [findingAt]
  · simp

/-- What reading an entrypoint finds blocks. -/
theorem capturedSkillIdentity_blockers {rootName : PyStr} {payload : Option (List UInt8)}
    {policy : SkillValidationPolicy} {result : Option SkillIdentity × List SkillPackageFinding}
    (h : capturedSkillIdentity parsers rootName payload policy = .ok result) :
    ∀ f ∈ result.2, f.severity = .blocker := by
  have hhandled : ∀ text : FindingText, ∀ f ∈ [findingAt text skillMdPath], f.severity = .blocker := by
    simp [findingAt]
  rw [capturedSkillIdentity] at h
  split at h
  · rename_i read hread
    obtain rfl := Except.ok.inj h
    unfold readSkillIdentity at hread
    split at hread
    · cases hread
    · split at hread
      · cases hread
      · obtain ⟨fm, -, hread⟩ := bind_eq_ok_iff.mp hread
        split_ifs at hread
        · obtain rfl := Except.ok.inj hread
          exact hhandled unclosedFrontmatter
        · obtain ⟨ir, -, hread⟩ := bind_eq_ok_iff.mp hread
          rw [validateIr] at hread
          obtain ⟨unknown, hunknown, hread⟩ := bind_eq_ok_iff.mp hread
          obtain ⟨budget, hbudget, hread⟩ := bind_eq_ok_iff.mp hread
          obtain rfl := Except.ok.inj hread
          intro f hf
          simp only [List.mem_append] at hf
          -- the five groups of findings, in the order of the source
          rcases hf with (((hf | hf) | hf) | hf) | hf
          · split_ifs at hf
            · exact hhandled missingName f hf
            · exact hhandled nameMismatch f hf
            · cases hf
          · split_ifs at hf
            · exact hhandled missingDescription f hf
            · cases hf
          · exact unknownKeyFindings_blockers hunknown f hf
          · exact lineBudgetFindings_blockers hbudget f hf
          · exact declaredIdentity_blockers rootName ir f hf
  -- an exception that is handled becomes one finding
  all_goals first
    | (obtain rfl := Except.ok.inj h; exact hhandled _)
    | cases h

/-! ### The two results -/

namespace CapturedSkill

variable (s : CapturedSkill sha256)

/-- The name of the skill is a text, the last part of its path. -/
theorem name_eq : s.name.val = PyStr.ofText (pathName s.path.val) ∧ isDirectSkill s.path.val = true := by
  have hsegments := segments_eq (List.cons_ne_nil skillsName [s.name]) (portable?_eq_some_iff.mpr s.path_eq)
  rcases hsplit : s.path.val.splitOn '/' with - | ⟨u, - | ⟨v, - | ⟨w, rest⟩⟩⟩
  all_goals rw [hsplit] at hsegments
  · cases hsegments
  · simp at hsegments
  · simp only [List.map_cons, List.map_nil, List.cons.injEq, and_true] at hsegments
    obtain ⟨hu, hv⟩ := hsegments
    obtain rfl : u = "skills".toList := PyStr.ofText_injective hu
    refine ⟨?_, ?_⟩
    · rw [pathName, hsplit]
      exact hv.symm
    · rw [isDirectSkill, hsplit]
      rfl
  · simp at hsegments

/-- The entrypoint is among the files of the skill. -/
theorem skillMd_mem : (⟨[skillMdName], s.mode, s.skillMd⟩ : FileBelow) ∈ filesBelow s.entries [] :=
  mem_filesBelow.mpr ⟨[skillMdName], s.size, rfl, .entry s.entrypoint⟩

theorem asPosix_skillMd : asPosix [skillMdName] = PyStr.ofText skillMdPath.val := rfl

/-- The child has the bytes of the entrypoint. -/
theorem lookup_childCaptured :
    (childCaptured s.path.val s.capture.payloads).lookup skillMdPath = some s.skillMd := by
  have hcaptured := capturePlugin_spec s.captured
  have hkeys : ((childCaptured s.path.val s.capture.payloads).map Prod.fst).Nodup := by
    rw [List.Nodup, List.pairwise_map, childCaptured, List.pairwise_filterMap]
    refine (List.pairwise_map.mp hcaptured.keys_nodup).imp ?_
    intro a b hne c hc d hd heq
    obtain ⟨t, ht, hc⟩ := Option.bind_eq_some_iff.mp hc
    obtain ⟨u, hu, hd⟩ := Option.bind_eq_some_iff.mp hd
    split_ifs at hc hd
    obtain rfl := Option.some.inj hc
    obtain rfl := Option.some.inj hd
    obtain rfl : t = u := congrArg Subtype.val heq
    apply hne
    rw [relativeTo_eq_some_iff] at ht hu
    exact Subtype.ext (ht.trans hu.symm)
  rw [KeyedList.lookup_eq_some_iff_mem hkeys]
  obtain ⟨g, hg, hpath, -, hpayload⟩ := s.below_iff.mpr
    ⟨_, s.skillMd_mem, asPosix_skillMd, rfl, rfl⟩
  obtain ⟨file, hfile, hfilePath, -⟩ := s.file_iff.mpr ⟨_, s.skillMd_mem, asPosix_skillMd, rfl, rfl⟩
  have hmem : (file.val.path, s.skillMd) ∈ s.capture.payloads :=
    (hcaptured.payloads_iff _ _).mpr ⟨g, hg, by rw [hpath, hfilePath], hpayload⟩
  refine List.mem_filterMap.mpr ⟨_, hmem, Option.bind_eq_some_iff.mpr ⟨skillMdPath.val, ?_, ?_⟩⟩
  · exact relativeTo_eq_some_iff.mpr hfilePath
  · exact dif_pos isPortable_skillMd

/-- The findings about the name of the skill directory. -/
def childNameFindings : List SkillPackageFinding :=
  if isIdentifier (pathName s.path.val) then [] else [plainFinding skillDirectoryNameNotId]

/-- **The child**: it is refused when a record is, or at a hazard of the
entrypoint, and else holds the records and what the entrypoint gives. -/
theorem childOf_cases (parsers : Parsers) (revision : GitRevision) :
    ((Raises (childRecords s.path.val s.capture.files) ∨
          EntrypointHazard parsers s.name.val (some s.skillMd)) ∧
        Raises (childOf parsers sha256 s.path s.capture.files s.capture.payloads revision)) ∨
      (¬ EntrypointHazard parsers s.name.val (some s.skillMd) ∧
        ∃ records result candidate b, childRecords s.path.val s.capture.files = .ok records ∧
          capturedSkillIdentity parsers s.name.val (some s.skillMd) {} = .ok result ∧
          candidateOf sha256 s.name.val revision records = .ok candidate ∧
          childOf parsers sha256 s.path s.capture.files s.capture.payloads revision = .ok b ∧
          b.val.validation.val = resultOf (PyStr.ofText revision.val)
            ⟨records, result.1, result.2 ++ s.childNameFindings⟩ (some candidate)) := by
  obtain ⟨hname, hdirect⟩ := s.name_eq
  rcases hrecords : childRecords s.path.val s.capture.files with e | records
  · refine Or.inl ⟨Or.inl ⟨e, rfl⟩, e, ?_⟩
    rw [childOf, hrecords]
    rfl
  -- the SKILL.md that `_child` looks up is the one that the skill was captured with
  have hchild : childOf parsers sha256 s.path s.capture.files s.capture.payloads revision = (do
      let validation ← childValidation parsers sha256 (pathName s.path.val) revision records
        (childCaptured s.path.val s.capture.payloads) s.skillMd
      (construct PluginSkillBindingData.validate ⟨s.path, validation⟩).mapError fun _ => .valueError) := by
    unfold childOf
    rw [hrecords]
    dsimp only [bind, Except.bind]
    rw [s.lookup_childCaptured]
  rw [hchild]
  rcases capturedSkillIdentity_cases parsers s.name.val (some s.skillMd) {} with
    ⟨hhazard, e, he⟩ | ⟨hnone, result, hresult, hidentified⟩
  · refine Or.inl ⟨Or.inr hhazard, e, ?_⟩
    rw [childValidation, childFindings, ← hname, he]
    rfl
  obtain ⟨hbytes, -⟩ | ⟨-, candidate, hcandidate, hrevision, hcontent, hid⟩ :=
    candidateOf_cases sha256 s.name.val revision records
  · rw [hname] at hbytes
    exact absurd hbytes (encodeEscaped?_ofText _)
  right
  have hblockers : ∀ f ∈ result.2 ++ s.childNameFindings, f.severity = .blocker := by
    intro f hf
    rcases List.mem_append.mp hf with hf | hf
    · exact capturedSkillIdentity_blockers hresult f hf
    · rw [childNameFindings] at hf
      split_ifs at hf
      · cases hf
      · rw [List.mem_singleton.mp hf]
        rfl
  have hresolved : Resolved sha256 s.name.val revision
      ⟨records, result.1, result.2 ++ s.childNameFindings⟩ candidate := by
    refine ⟨⟨hidentified.1, fun h => ?_, fun _ => ?_, ?_⟩, hrevision, hcontent,
      fun identity h => (hid _ (hidentified.1 identity h)).symm⟩
    · obtain ⟨f, hf, hblocker⟩ := hidentified.2 h
      exact ⟨f, List.mem_append_left _ hf, hblocker⟩
    · exact List.ne_nil_of_mem ((s.mem_records hrecords (fileRecord sha256 skillMdPath s.skillMd)).mpr
        ⟨_, s.skillMd_mem, asPosix_skillMd, rfl⟩)
    · exact childRecords_sorted hrecords (capturePlugin_spec s.captured).sorted
  -- every finding blocks, so the two ways to compute the status agree
  have hdata : (⟨some candidate, if result.2 ++ s.childNameFindings = [] then .pass else .blocked, result.1,
      records, result.2 ++ s.childNameFindings⟩ : SkillPackageValidationData) =
      resultOf (PyStr.ofText revision.val) ⟨records, result.1, result.2 ++ s.childNameFindings⟩
        (some candidate) := by
    have hrevised : revisionFindings (PyStr.ofText revision.val) = [] := by
      rw [revisionFindings, revision?_ofText]
      rfl
    rw [resultOf, hrevised, List.nil_append]
    by_cases hempty : result.2 ++ s.childNameFindings = []
    · rw [hempty]
      rfl
    · obtain ⟨f, hf⟩ := List.exists_mem_of_ne_nil _ hempty
      have hany : (result.2 ++ s.childNameFindings).any (·.severity = .blocker) = true :=
        List.any_eq_true.mpr ⟨f, hf, by simpa using hblockers f hf⟩
      rw [if_neg hempty, if_pos hany]
  refine ⟨hnone, records, result, candidate, ?_⟩
  have hvalid : (resultOf (PyStr.ofText revision.val)
      ⟨records, result.1, result.2 ++ s.childNameFindings⟩ (some candidate)).validate = .ok () :=
    hresolved.validate_eq_ok
  have hvalidation : childValidation parsers sha256 (pathName s.path.val) revision records
      (childCaptured s.path.val s.capture.payloads) s.skillMd =
      .ok ⟨_, hvalid⟩ := by
    have hfindings : childFindings parsers (pathName s.path.val)
        (childCaptured s.path.val s.capture.payloads) s.skillMd =
        .ok (result.1, result.2 ++ s.childNameFindings) := by
      rw [childFindings, ← hname, hresult]
      show Except.ok (result.1, result.2 ++ [] ++ s.childNameFindings) = _
      rw [List.append_nil]
    rw [childValidation, hfindings]
    show (candidateOf sha256 (PyStr.ofText (pathName s.path.val)) revision records).mapError _ >>= _ = _
    rw [← hname, hcandidate]
    show (construct SkillPackageValidationData.validate _).mapError _ = _
    rw [hdata, construct_of_ok hvalid]
    rfl
  rw [hvalidation]
  have hbinding : PluginSkillBindingData.validate ⟨s.path, ⟨_, hvalid⟩⟩ = .ok () := by
    rw [PluginSkillBindingData.validate, hdirect]
    rfl
  refine ⟨⟨_, hbinding⟩, rfl, hresult, hcandidate, ?_, rfl⟩
  show (construct PluginSkillBindingData.validate _).mapError _ = _
  rw [construct_of_ok hbinding]
  rfl

/-- **The standalone validation**: it raises at a hazard of the entrypoint, and
else holds the records of the scan and what the entrypoint gives. -/
theorem standalone_cases (parsers : Parsers) (revision : GitRevision) :
    (EntrypointHazard parsers s.name.val (some s.skillMd) ∧
        Raises (validateSkillPackage parsers sha256 s.source (PyStr.ofText revision.val))) ∨
      (¬ EntrypointHazard parsers s.name.val (some s.skillMd) ∧
        ∃ scan result candidate r, scanFiles sha256 {} s.source.root = .ok scan ∧
          Complete sha256 (observedEntries s.entries) scan ∧
          capturedSkillIdentity parsers s.name.val (some s.skillMd) {} = .ok result ∧
          candidateOf sha256 s.name.val revision scan.files = .ok candidate ∧
          validateSkillPackage parsers sha256 s.source (PyStr.ofText revision.val) = .ok r ∧
          r.val = resultOf (PyStr.ofText revision.val) ⟨scan.files, result.1,
            rootNameFindings s.name.val ++ (scan.findings ++ result.2)⟩ (some candidate)) := by
  obtain ⟨scan, hscan, hcomplete, -⟩ : ∃ scan, scanFiles sha256 {} s.source.root = .ok scan ∧
      Complete sha256 (observedEntries s.entries) scan ∧ _ :=
    scanFiles_listed false s.source.distinct (RootObservation.not_unprintable_of_none rfl _)
  -- SKILL.md is a portable path, so the scan captures it
  have hmem : (skillMdPath, s.skillMd) ∈ scan.captured := by
    refine (s.scan_captured_iff hcomplete _ _).mpr ⟨_, s.skillMd_mem, asPosix_skillMd, rfl, ?_⟩
    intro n hn
    obtain rfl : skillMdName = n := Option.some.inj hn
    exact not_stray_of_portable (portable?_eq_some_iff.mpr asPosix_skillMd)
  have hlookup : scan.captured.lookup skillMdPath = some s.skillMd :=
    (KeyedList.lookup_eq_some_iff_mem hcomplete.keys_nodup).mpr hmem
  have hinspect : inspectPackage parsers sha256 s.source {} = (do
      let read ← (capturedSkillIdentity parsers s.name.val (some s.skillMd) {}).mapError SkillRaised.exc
      return ⟨scan.files, read.1, scan.findings ++ [] ++ read.2⟩) := by
    rw [inspectPackage, hscan, ← hlookup]
    rfl
  have hvalidate : validateSkillPackage parsers sha256 s.source (PyStr.ofText revision.val) = (do
      let i ← inspectRoot parsers sha256 s.source {}
      let candidate ← candidate? sha256 s.source.rootName (PyStr.ofText revision.val) i.files
      modelCall (construct SkillPackageValidationData.validate
        (resultOf (PyStr.ofText revision.val) i candidate))) := validateSkillPackage_eq rfl
  have hroot : inspectRoot parsers sha256 s.source {} = (do
      let inspected ← inspectPackage parsers sha256 s.source {}
      return { inspected with findings := rootNameFindings s.name.val ++ inspected.findings }) := rfl
  rw [hvalidate, hroot, hinspect]
  rcases capturedSkillIdentity_cases parsers s.name.val (some s.skillMd) {} with
    ⟨hhazard, e, he⟩ | ⟨hnone, result, hresult, hidentified⟩
  · refine Or.inl ⟨hhazard, .exc e, ?_⟩
    rw [he]
    rfl
  obtain ⟨hbytes, -⟩ | ⟨-, candidate, hcandidate, hrevision, hcontent, hid⟩ :=
    candidateOf_cases sha256 s.name.val revision scan.files
  · rw [s.name_eq.1] at hbytes
    exact absurd hbytes (encodeEscaped?_ofText _)
  have hresolved : Resolved sha256 s.name.val revision ⟨scan.files, result.1,
      rootNameFindings s.name.val ++ (scan.findings ++ result.2)⟩ candidate := by
    refine ⟨⟨hidentified.1, fun h => ?_, fun _ => ?_, hcomplete.sorted⟩, hrevision, hcontent,
      fun identity h => (hid _ (hidentified.1 identity h)).symm⟩
    · obtain ⟨f, hf, hblocker⟩ := hidentified.2 h
      exact ⟨f, List.mem_append_right _ (List.mem_append_right _ hf), hblocker⟩
    · exact List.ne_nil_of_mem ((hcomplete.files_iff _).mpr ⟨_, _, hmem, rfl⟩)
  have hvalid : (resultOf (PyStr.ofText revision.val) ⟨scan.files, result.1,
      rootNameFindings s.name.val ++ (scan.findings ++ result.2)⟩ (some candidate)).validate = .ok () :=
    hresolved.validate_eq_ok
  have hcandidate? : candidate? sha256 s.name.val (PyStr.ofText revision.val) scan.files =
      .ok (some candidate) := by
    rw [candidate?_of_revision (revision?_ofText revision), hcandidate]
    rfl
  refine Or.inr ⟨hnone, scan, result, candidate, ⟨_, hvalid⟩, hscan, hcomplete, hresult, hcandidate, ?_, rfl⟩
  rw [hresult]
  show candidate? sha256 s.name.val (PyStr.ofText revision.val) scan.files >>= _ = _
  rw [hcandidate?]
  show modelCall (construct SkillPackageValidationData.validate (resultOf _ ⟨scan.files, result.1,
    rootNameFindings s.name.val ++ (scan.findings ++ [] ++ result.2)⟩ (some candidate))) = _
  rw [List.append_nil, construct_of_ok hvalid]
  rfl

/-! ### Agreement -/

/-- No file of the skill is at or below a stray name. -/
def NoStrayFile : Prop := ∀ g ∈ filesBelow s.entries [], ∀ n ∈ g.path.head?, ¬ StrayName n

/-- The name or the entrypoint blocks the skill. -/
def BlockedAnyway (parsers : Parsers) : Prop :=
  isIdentifier (pathName s.path.val) = false ∨
    ∃ result, capturedSkillIdentity parsers s.name.val (some s.skillMd) {} = .ok result ∧ result.2 ≠ []

/-- Below names that are not stray every path is portable. -/
theorem portable_of_file {g : FileBelow} (hg : g ∈ filesBelow s.entries [])
    (hstray : ∀ n ∈ g.path.head?, ¬ StrayName n) : ∃ p, portable? (asPosix g.path) = some p := by
  obtain ⟨path, size, heq, hat⟩ := mem_filesBelow.mp hg
  rw [List.nil_append] at heq
  rw [← heq] at hat
  rcases List.eq_nil_or_concat g.path with h | ⟨parent, name, h⟩
  · exact absurd h hat.ne_nil
  · rw [List.concat_eq_append] at h
    rw [h] at hat hstray ⊢
    exact s.portable hat hstray

/-- The records of the child are those of the scan when no file is under a stray name. -/
theorem records_eq_iff {records : List PackageManifestFile} {scan : Scan}
    (hrecords : childRecords s.path.val s.capture.files = .ok records)
    (hcomplete : Complete sha256 (observedEntries s.entries) scan) :
    records = scan.files ↔ s.NoStrayFile := by
  constructor
  · rintro heq g hg n hn hstray
    -- a stray file has a record, yet the scan refuses it
    obtain ⟨p, hp⟩ : ∃ p, portable? (asPosix g.path) = some p := by
      by_contra hnone
      have hraises : Raises (childRecords s.path.val s.capture.files) :=
        s.raises_records_iff.mpr ⟨g, hg, Option.eq_none_iff_forall_ne_some.mpr fun p hp => hnone ⟨p, hp⟩⟩
      rw [hrecords] at hraises
      exact not_raises_ok hraises
    have hmem : fileRecord sha256 p g.payload ∈ records :=
      (s.mem_records hrecords _).mpr ⟨g, hg, portable?_eq_some_iff.mp hp, rfl⟩
    rw [heq, hcomplete.files_iff] at hmem
    obtain ⟨p', payload, hcaptured, hsame⟩ := hmem
    obtain rfl : p = p' := congrArg PackageManifestFile.path hsame
    obtain ⟨g', hg', hpath, -, hnot⟩ := (s.scan_captured_iff hcomplete _ _).mp hcaptured
    have hne : ∀ {g : FileBelow}, g ∈ filesBelow s.entries [] → g.path ≠ [] := by
      intro g hg
      obtain ⟨path, size, heq, hat⟩ := mem_filesBelow.mp hg
      rw [heq, List.nil_append]
      exact hat.ne_nil
    have hsame : g'.path = g.path :=
      asPosix_injective (hne hg') (hne hg) (hpath.trans (portable?_eq_some_iff.mp hp).symm)
    exact hnot n (hsame ▸ hn) hstray
  · intro hnone
    -- both lists are strictly sorted, so they agree when they have the same members
    have hsorted := childRecords_sorted hrecords (capturePlugin_spec s.captured).sorted
    have hnodup : ∀ {files : List PackageManifestFile},
        (files.Pairwise fun a b => a.path.val < b.path.val) → files.Nodup := fun h =>
      h.imp fun hlt heq => absurd (congrArg (fun m : PackageManifestFile => m.path.val) heq) (ne_of_lt hlt)
    have hperm : records.Perm scan.files := by
      rw [List.perm_ext_iff_of_nodup (hnodup hsorted) (hnodup hcomplete.sorted)]
      intro m
      rw [s.mem_records hrecords, hcomplete.files_iff]
      constructor
      · rintro ⟨g, hg, hpath, hm⟩
        exact ⟨_, _, (s.scan_captured_iff hcomplete _ _).mpr ⟨g, hg, hpath, rfl, hnone g hg⟩, hm⟩
      · rintro ⟨p, payload, hcaptured, rfl⟩
        obtain ⟨g, hg, hpath, rfl, -⟩ := (s.scan_captured_iff hcomplete _ _).mp hcaptured
        exact ⟨g, hg, hpath, rfl⟩
    exact hperm.eq_of_pairwise (fun a b _ _ hlt hgt => absurd hgt (lt_asymm hlt)) hsorted hcomplete.sorted

/-- A result of a valid revision whose findings all block passes when there are none. -/
theorem status_eq_pass_iff {revision : GitRevision} {i : Inspected} {candidate : Option PackageCandidateIdentity}
    (h : ∀ f ∈ i.findings, f.severity = .blocker) :
    (resultOf (PyStr.ofText revision.val) i candidate).status = .pass ↔ i.findings = [] := by
  have hrevised : revisionFindings (PyStr.ofText revision.val) = [] := by
    rw [revisionFindings, revision?_ofText]
    rfl
  rw [resultOf, hrevised, List.nil_append]
  constructor
  · intro hpass
    by_contra hne
    obtain ⟨f, hf⟩ := List.exists_mem_of_ne_nil _ hne
    have hany : i.findings.any (·.severity = .blocker) = true :=
      List.any_eq_true.mpr ⟨f, hf, by simpa using h f hf⟩
    dsimp only at hpass
    rw [if_pos hany] at hpass
    cases hpass
  · intro hnone
    rw [hnone]
    rfl

theorem rootNameFindings_eq_nil_iff :
    rootNameFindings s.name.val = [] ↔ isIdentifier (pathName s.path.val) = true := by
  rw [s.name_eq.1, rootNameFindings, PyStr.encode?_ofText, Option.filter_some]
  by_cases h : isIdentifier (pathName s.path.val) = true
  · simp [h]
  · simp [h]

theorem rootNameFindings_blockers (rootName : PyStr) :
    ∀ f ∈ rootNameFindings rootName, f.severity = .blocker := by
  intro f hf
  rw [rootNameFindings] at hf
  rcases List.mem_append.mp hf with hf | hf
  · split_ifs at hf
    · rw [List.mem_singleton.mp hf]
      rfl
    · cases hf
  · split_ifs at hf
    · rw [List.mem_singleton.mp hf]
      rfl
    · cases hf

theorem childNameFindings_eq_nil_iff :
    s.childNameFindings = [] ↔ isIdentifier (pathName s.path.val) = true := by
  by_cases h : isIdentifier (pathName s.path.val) = true
  · rw [childNameFindings, if_pos h]
    exact iff_of_true rfl h
  · rw [childNameFindings, if_neg h]
    exact iff_of_false (List.cons_ne_nil _ _) h

/-- Of the two results, when both are there: the files are the same when none is
under a stray name, and the statuses when no stray name blocks only the scan. -/
theorem results_agree_iff {parsers : Parsers} {records : List PackageManifestFile} {scan : Scan}
    {result : Option SkillIdentity × List SkillPackageFinding} (revision : GitRevision)
    (candidate candidate' : Option PackageCandidateIdentity)
    (hscan : scanFiles sha256 {} s.source.root = .ok scan)
    (hcomplete : Complete sha256 (observedEntries s.entries) scan)
    (hresult : capturedSkillIdentity parsers s.name.val (some s.skillMd) {} = .ok result) :
    ((resultOf (PyStr.ofText revision.val) ⟨records, result.1, result.2 ++ s.childNameFindings⟩
          candidate).status = .pass ↔
      (resultOf (PyStr.ofText revision.val) ⟨scan.files, result.1,
          rootNameFindings s.name.val ++ (scan.findings ++ result.2)⟩ candidate').status = .pass) ↔
    (s.HasStray → s.BlockedAnyway parsers) := by
  -- every finding blocks, so a result passes when it has no finding
  have hentrypoint := capturedSkillIdentity_blockers hresult
  have hchild : ∀ f ∈ result.2 ++ s.childNameFindings, f.severity = .blocker := by
    intro f hf
    rcases List.mem_append.mp hf with hf | hf
    · exact hentrypoint f hf
    · rw [childNameFindings] at hf
      split_ifs at hf
      · cases hf
      · rw [List.mem_singleton.mp hf]
        rfl
  have hstandalone : ∀ f ∈ rootNameFindings s.name.val ++ (scan.findings ++ result.2),
      f.severity = .blocker := by
    intro f hf
    rcases List.mem_append.mp hf with hf | hf
    · exact rootNameFindings_blockers _ f hf
    · rcases List.mem_append.mp hf with hf | hf
      · exact hcomplete.blockers f hf
      · exact hentrypoint f hf
  have hblocked : s.BlockedAnyway parsers ↔
      ¬ (isIdentifier (pathName s.path.val) = true ∧ result.2 = []) := by
    rw [BlockedAnyway, not_and_or, Bool.not_eq_true]
    refine or_congr Iff.rfl ⟨?_, fun h => ⟨result, hresult, h⟩⟩
    rintro ⟨result', hresult', h⟩
    obtain rfl := Except.ok.inj (hresult.symm.trans hresult')
    exact h
  rw [status_eq_pass_iff hchild, status_eq_pass_iff hstandalone, List.append_eq_nil_iff,
    List.append_eq_nil_iff, List.append_eq_nil_iff, s.childNameFindings_eq_nil_iff,
    s.rootNameFindings_eq_nil_iff, s.scan_findings_iff hcomplete hscan, hblocked]
  tauto

/-- Both results are there and agree only if no file is under a stray name. -/
theorem noStrayFile_of_agrees {parsers : Parsers} {revision : GitRevision}
    (h : ChildAgrees parsers s revision) : s.NoStrayFile ∧ (s.HasStray → s.BlockedAnyway parsers) ∧
      ¬ EntrypointHazard parsers s.name.val (some s.skillMd) := by
  obtain ⟨r, b, hr, hb, -, -, hfiles, hstatus⟩ := h
  rcases s.standalone_cases parsers revision with ⟨-, e, he⟩ | ⟨hnone, scan, result, candidate, r', hscan,
    hcomplete, hresult, -, hr', hrval⟩
  · exact absurd (hr.symm.trans he) (by simp)
  rcases s.childOf_cases parsers revision with ⟨-, e, he⟩ | ⟨-, records, result', candidate', b', hrecords,
    hresult', -, hb', hbval⟩
  · exact absurd (hb.symm.trans he) (by simp)
  obtain rfl := Except.ok.inj (hr.symm.trans hr')
  obtain rfl := Except.ok.inj (hb.symm.trans hb')
  obtain rfl := Except.ok.inj (hresult.symm.trans hresult')
  rw [hrval, hbval] at hfiles hstatus
  exact ⟨(s.records_eq_iff hrecords hcomplete).mp hfiles,
    (s.results_agree_iff revision _ _ hscan hcomplete hresult).mp hstatus, hnone⟩

end CapturedSkill

/-- The plugin validator's child and the standalone validation of the same skill
agree exactly when reading the entrypoint raises nothing that its handlers do
not list, no file is under a name of the first level that only the longer path
makes portable, and a skill that has such a name, of an empty directory, is
blocked anyway. -/
theorem childAgrees_iff (parsers : Parsers) {sha256 : List UInt8 → Sha256} (s : CapturedSkill sha256)
    (revision : GitRevision) :
    ChildAgrees parsers s revision ↔ s.NoStrayFile ∧ (s.HasStray → s.BlockedAnyway parsers) ∧
      ¬ EntrypointHazard parsers s.name.val (some s.skillMd) := by
  refine ⟨s.noStrayFile_of_agrees, fun ⟨hfiles, hstatus, hnone⟩ => ?_⟩
  rcases s.standalone_cases parsers revision with ⟨hhazard, -⟩ | ⟨-, scan, result, candidate, r, hscan,
    hcomplete, hresult, hcandidate, hr, hrval⟩
  · exact absurd hhazard hnone
  rcases s.childOf_cases parsers revision with ⟨hraises | hhazard, -⟩ | ⟨-, records, result', candidate', b,
    hrecords, hresult', hcandidate', hb, hbval⟩
  · obtain ⟨g, hg, hnot⟩ := s.raises_records_iff.mp hraises
    obtain ⟨p, hp⟩ := s.portable_of_file hg (hfiles g hg)
    exact absurd (hnot.symm.trans hp) (by simp)
  · exact absurd hhazard hnone
  obtain rfl := Except.ok.inj (hresult.symm.trans hresult')
  obtain rfl := (s.records_eq_iff hrecords hcomplete).mpr hfiles
  obtain rfl := Except.ok.inj (hcandidate.symm.trans hcandidate')
  refine ⟨r, b, hr, hb, ?_⟩
  rw [hrval, hbval]
  exact ⟨rfl, rfl, rfl, (s.results_agree_iff revision _ _ hscan hcomplete hresult).mpr hstatus⟩

/-! ### A skill with a directory named `a:b` -/

theorem eq_ok_get {ε α : Type*} {x : Except ε α} (h : x.toOption.isSome = true) :
    x = .ok (x.toOption.get h) := by
  rcases x with e | a
  · cases h
  · rfl

namespace ColonDirectory

def skillMd : List UInt8 := utf8 "---\nname: demo\ndescription: sample\n---\n".toList

def demoParsers : Parsers where
  load _ _ := .ok (.dict [(some (PyStr.lit "name"), .str (PyStr.lit "demo")),
    (some (PyStr.lit "description"), .str (PyStr.lit "sample"))] (.error .other))
  parse _ := ([], none)
  jsonLoads _ := .valueError

def quiet : PluginDirectory := ⟨none, false, false⟩

def demo : FileName := ⟨PyStr.lit "demo", by decide +kernel⟩

def colon : FileName := ⟨PyStr.lit "a:b", by decide +kernel⟩

/-- The SKILL.md and an empty directory. -/
def entries : PluginEntries :=
  .cons skillMdName (.leaf (.regular skillMd.length 0o644 (.ok skillMd)))
    (.cons colon (.dir quiet .nil) .nil)

def tree : PluginTree where
  directory := quiet
  entries := .cons skillsName (.dir quiet (.cons demo (.dir quiet entries) .nil)) .nil
  distinct := by
    simp [entries, Entries.Distinct, Node.Distinct, Entries.names]
    decide +kernel
  settled := true

theorem isSome_capture : (capturePlugin hashlibSha256 tree).toOption.isSome = true := by decide +kernel

def skill : CapturedSkill hashlibSha256 where
  tree := tree
  capture := (capturePlugin hashlibSha256 tree).toOption.get isSome_capture
  captured := eq_ok_get isSome_capture
  skillsDirectory := quiet
  skills := .cons demo (.dir quiet entries) .nil
  under := Or.inl ⟨rfl, rfl⟩
  name := demo
  directory := quiet
  entries := entries
  child := Or.inl ⟨rfl, rfl⟩
  size := skillMd.length
  mode := 0o644
  skillMd := skillMd
  entrypoint := Or.inl ⟨rfl, rfl⟩
  path := literal "skills/demo" (by decide +kernel)
  path_eq := by decide +kernel

theorem not_blocked : ¬ skill.BlockedAnyway demoParsers := by
  have hfound : (capturedSkillIdentity demoParsers demo.val (some skillMd) {}).toOption.map (·.2) = some [] := by
    decide +kernel
  rintro (hname | ⟨result, hresult, hne⟩)
  · exact absurd hname (by decide +kernel)
  · have hsame : capturedSkillIdentity demoParsers demo.val (some skillMd) {} = .ok result := hresult
    rw [hsame] at hfound
    exact hne (Option.some.inj hfound)

end ColonDirectory

open ColonDirectory in
/-- A skill with an empty directory named `a:b` is a child that passes, and is
blocked on its own: the scan refuses a first name with a drive. -/
theorem colonDirectory_disagrees :
    ¬ ChildAgrees demoParsers skill ⟨List.replicate 40 '0', by decide +kernel⟩ := by
  intro h
  obtain ⟨-, hstatus, -⟩ := skill.noStrayFile_of_agrees h
  refine not_blocked (hstatus ⟨colon, ?_, Or.inl ?_⟩)
  · exact List.mem_cons_of_mem _ List.mem_cons_self
  · decide +kernel

end SkillsSdk

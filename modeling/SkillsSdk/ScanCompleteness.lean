/-
SkillsSdk/ScanCompleteness.lean

The scan of a package directory loses no entry.

Unless a finding would print a limit of too many digits, the scan returns, and
each entry is descended into or captured, or it or a directory above it is behind
a blocker finding (`scan_complete_iff`).  A validation that passes therefore
records the regular files of the tree and no others, and the tree holds nothing
but these files and the directories that were walked.
-/
import SkillsSdk.SkillTotality

namespace SkillsSdk

open NamedTree

variable {sha256 : List UInt8 → Sha256} {policy : SkillValidationPolicy}

/-! ### Rounds and the tree -/

/-- What the loop meets is in the tree. -/
theorem Met.at {es : PackageEntries} {relative parent : List FileName} {name : FileName}
    {node : PackageNode} (h : Met es relative parent name node) :
    ∃ path, parent ++ [name] = relative ++ path ∧ At es path node := by
  induction h with
  | here h => exact ⟨_, rfl, .entry h⟩
  | inside h _ _ ih =>
    obtain ⟨path, hpath, hat⟩ := ih
    refine ⟨_, ?_, .under h hat⟩
    rw [hpath, List.append_assoc, List.singleton_append]

/-- The bytes of the regular file at the end of the path. -/
def RegularAt (entries : PackageEntries) (path : List FileName) (payload : List UInt8) : Prop :=
  At entries path (.leaf (.regular (.read payload true)))

/-- The loop walks the directory at the end of the path. -/
def Walked (entries : PackageEntries) (path : List FileName) (node : PackageNode) : Prop :=
  ∃ parent name, parent ++ [name] = path ∧ Met entries [] parent name node ∧
    Descends parent name node

/-- The entry at the end of the path is behind a finding of the list that blocks. -/
def Blamed (sha256 : List UInt8 → Sha256) (entries : PackageEntries)
    (findings : List SkillPackageFinding) (path : List FileName) : Prop :=
  ∃ parent name node f, parent ++ [name] <+: path ∧ Met entries [] parent name node ∧
    Causes sha256 parent name node f ∧ f ∈ findings ∧ f.severity = .blocker

/-- Captured bytes are those of a regular file under its own path. -/
theorem Captures.regularAt {entries : PackageEntries} {parent : List FileName} {name : FileName}
    {node : PackageNode} {path : PortablePath} {payload : List UInt8}
    (hmet : Met entries [] parent name node) (h : Captures parent name node path payload) :
    ∃ names, RegularAt entries names payload ∧ PyStr.ofText path.val = asPosix names := by
  obtain ⟨names, hnames, hat⟩ := hmet.at
  rw [List.nil_append] at hnames
  refine ⟨names, ?_, ?_⟩
  · show At entries names _
    rw [← h.regular]
    exact hat
  · rw [← hnames]
    exact (portable?_eq_some_iff.mp h.path_eq).symm

/-- No entry of the tree is lost. -/
theorem Complete.accounted {entries : PackageEntries} {scan : Scan}
    (h : Complete sha256 entries scan) {path : List FileName} {node : PackageNode}
    (hat : At entries path node) :
    Walked entries path node ∨
      (∃ p payload, node = .leaf (.regular (.read payload true)) ∧
        PyStr.ofText p.val = asPosix path ∧ (p, payload) ∈ scan.captured) ∨
      Blamed sha256 entries scan.findings path := by
  obtain ⟨parent, name, x, hmet, hext, hx⟩ := at_accounted sha256 hat []
  rw [List.nil_append] at hext hx
  rcases hx with ⟨hpath, rfl, hd | ⟨p, payload, hc⟩⟩ | ⟨f, hf⟩
  · exact Or.inl ⟨parent, name, hpath, hmet, hd⟩
  · refine Or.inr (Or.inl ⟨p, payload, hc.regular, ?_, ?_⟩)
    · rw [← hpath]
      exact (portable?_eq_some_iff.mp hc.path_eq).symm
    · exact (h.captured_iff p payload).mpr ⟨parent, name, x, hmet, hc⟩
  · have hmem := h.reported parent name x f hmet hf
    exact Or.inr (Or.inr ⟨parent, name, x, f, hext, hmet, hf, hmem, h.blockers f hmem⟩)

/-! ### The result that passes -/

/-- A result that passes holds the records of a scan without findings. -/
theorem validateSkillPackage_pass {parsers : Parsers} {source : PackageSource} {sourceRevision : PyStr}
    {r : SkillPackageValidation}
    (h : validateSkillPackage parsers sha256 source sourceRevision policy = .ok r)
    (hpass : r.val.status = .pass) :
    ∃ scan, scanFiles sha256 policy source.root = .ok scan ∧ r.val.files = scan.files ∧
      ∀ f ∈ scan.findings, f.severity ≠ .blocker := by
  by_cases hpolicy : policyFindings policy = []
  · obtain ⟨i, candidate, hi, -, hr⟩ := validateSkillPackage_eq_ok hpolicy h
    obtain ⟨hblockers, ⟨-, -, hfiles⟩, -⟩ :=
      (SkillPackageValidationData.validate_pass_iff hpass).mp r.2
    rw [hr] at hfiles
    rcases inspectRoot_eq_ok hi with ⟨hnone, -⟩ | ⟨-, -, inspected, hinspected, rfl⟩
    · exact absurd hnone hfiles
    · obtain ⟨scan, required, identity, entrypoint, hscan, -, -, rfl⟩ := inspectPackage_eq_ok hinspected
      refine ⟨scan, hscan, by rw [hr]; rfl, fun f hf hblocker => ?_⟩
      have hmem : f ∈ r.val.findings := by
        rw [hr]
        simp [resultOf, hf]
      have : f ∈ r.val.blockers := List.mem_filter.mpr ⟨hmem, by simpa using hblocker⟩
      rw [hblockers] at this
      cases this
  · obtain ⟨r', hr', hblocked, -⟩ : ∃ r', validateSkillPackage parsers sha256 source sourceRevision policy =
        .ok r' ∧ r'.val.status = .blocked ∧ r'.val.candidate = none :=
      validateSkillPackage_of_policy hpolicy
    rw [h] at hr'
    obtain rfl := Except.ok.inj hr'
    rw [hpass] at hblocked
    cases hblocked

/-- **The scan of a tree is complete**: it captures each regular file at most once and
accounts for every entry, and its records are sorted and are those of the captured bytes,
exactly when no reference lies below a limit of more digits than an integer is written
with.  A validation of the tree that passes holds the records of its regular files and no
others. -/
theorem scan_complete_iff (parsers : Parsers) (sha256 : List UInt8 → Sha256)
    (policy : SkillValidationPolicy) (changed : Bool)
    (entries : { entries : PackageEntries // entries.Distinct }) :
    ((∃ scan, scanFiles sha256 policy (.listed changed entries.val) = .ok scan ∧
      (scan.captured.map Prod.fst).Nodup ∧
      (scan.files.Pairwise fun a b => a.path.val < b.path.val) ∧
      (∀ path, path ∈ scan.files.map (·.path) ↔ path ∈ scan.captured.map Prod.fst) ∧
      (∀ f ∈ scan.files, ∃ payload, (f.path, payload) ∈ scan.captured ∧
        f.sha256 = sha256 payload ∧ f.sizeBytes = payload.length) ∧
      (∀ p payload, (p, payload) ∈ scan.captured →
        ∃ path, RegularAt entries.val path payload ∧ PyStr.ofText p.val = asPosix path) ∧
      ∀ path node, At entries.val path node →
        Walked entries.val path node ∨
          (∃ p payload, node = .leaf (.regular (.read payload true)) ∧
            PyStr.ofText p.val = asPosix path ∧ (p, payload) ∈ scan.captured) ∨
          Blamed sha256 entries.val scan.findings path) ↔
      ¬ (RootObservation.listed changed entries.val).Unprintable policy) ∧
    ∀ (source : PackageSource) (sourceRevision : PyStr) (r : SkillPackageValidation),
      source.root = .listed changed entries.val →
      validateSkillPackage parsers sha256 source sourceRevision policy = .ok r →
      r.val.status = .pass →
      (∀ f, f ∈ r.val.files ↔ ∃ path p payload, RegularAt entries.val path payload ∧
        PyStr.ofText p.val = asPosix path ∧ f = fileRecord sha256 p payload) ∧
      ∀ path node, At entries.val path node →
        Walked entries.val path node ∨ ∃ p payload, node = .leaf (.regular (.read payload true)) ∧
          PyStr.ofText p.val = asPosix path ∧ fileRecord sha256 p payload ∈ r.val.files := by
  constructor
  · constructor
    · rintro ⟨scan, hscan, -⟩
      exact not_unprintable_of_eq_ok hscan
    intro hprints
    obtain ⟨scan, hscan, hcomplete, -⟩ : ∃ scan, scanFiles sha256 policy (.listed changed entries.val) =
        .ok scan ∧ Complete sha256 entries.val scan ∧ (changed = true → scan.findings ≠ []) :=
      scanFiles_listed changed entries.2 hprints
    refine ⟨scan, hscan, hcomplete.keys_nodup, hcomplete.sorted, fun path => ?_, fun f hf => ?_,
      fun p payload hmem => ?_, fun path node hat => hcomplete.accounted hat⟩
    · constructor
      · intro hpath
        obtain ⟨f, hf, rfl⟩ := List.mem_map.mp hpath
        obtain ⟨p, payload, hmem, rfl⟩ := (hcomplete.files_iff f).mp hf
        exact List.mem_map.mpr ⟨_, hmem, rfl⟩
      · intro hpath
        obtain ⟨⟨p, payload⟩, hmem, rfl⟩ := List.mem_map.mp hpath
        exact List.mem_map.mpr ⟨_, (hcomplete.files_iff _).mpr ⟨p, payload, hmem, rfl⟩, rfl⟩
    · obtain ⟨p, payload, hmem, rfl⟩ := (hcomplete.files_iff f).mp hf
      exact ⟨payload, hmem, rfl, rfl⟩
    · obtain ⟨parent, name, node, hmet, hc⟩ := (hcomplete.captured_iff p payload).mp hmem
      exact hc.regularAt hmet
  · intro source sourceRevision r hroot hr hpass
    obtain ⟨scan, hscan, hfiles, hquiet⟩ := validateSkillPackage_pass hr hpass
    rw [hroot] at hscan
    have hcomplete := complete_of_scanFiles entries.2 hscan
    -- nothing is blamed, so every entry is walked or captured
    have haccounted : ∀ path node, At entries.val path node → Walked entries.val path node ∨
        ∃ p payload, node = .leaf (.regular (.read payload true)) ∧
          PyStr.ofText p.val = asPosix path ∧ (p, payload) ∈ scan.captured := by
      intro path node hat
      rcases hcomplete.accounted hat with hw | hc | ⟨_, _, _, f, -, -, -, hf, hblocker⟩
      · exact Or.inl hw
      · exact Or.inr hc
      · exact absurd hblocker (hquiet f hf)
    refine ⟨fun f => ?_, fun path node hat => ?_⟩
    · rw [hfiles, hcomplete.files_iff]
      constructor
      · rintro ⟨p, payload, hmem, rfl⟩
        obtain ⟨parent, name, node, hmet, hc⟩ := (hcomplete.captured_iff p payload).mp hmem
        obtain ⟨path, hat, hpath⟩ := hc.regularAt hmet
        exact ⟨path, p, payload, hat, hpath, rfl⟩
      · rintro ⟨path, p, payload, hat, hpath, rfl⟩
        rcases haccounted path _ hat with ⟨_, _, -, -, ⟨_, _, h⟩, -⟩ | ⟨p', payload', hnode, hpath', hmem⟩
        · cases h
        · obtain rfl : p = p' := Subtype.ext (PyStr.ofText_injective (hpath.trans hpath'.symm))
          obtain rfl : payload = payload' := by simpa using hnode
          exact ⟨p, payload, hmem, rfl⟩
    · rcases haccounted path node hat with hw | ⟨p, payload, hnode, hpath, hmem⟩
      · exact Or.inl hw
      · refine Or.inr ⟨p, payload, hnode, hpath, ?_⟩
        rw [hfiles]
        exact (hcomplete.files_iff _).mpr ⟨p, payload, hmem, rfl⟩

namespace ScanDemo

theorem skillMd_isFileName : isFileName (PyStr.lit "SKILL.md") = true := by decide +kernel

theorem references_isFileName : isFileName (PyStr.lit "references") = true := by decide +kernel

theorem note_isFileName : isFileName (PyStr.lit "note.md") = true := by decide +kernel

def skillMd : FileName := ⟨PyStr.lit "SKILL.md", skillMd_isFileName⟩

def references : FileName := ⟨PyStr.lit "references", references_isFileName⟩

def note : FileName := ⟨PyStr.lit "note.md", note_isFileName⟩

/-- A `SKILL.md` and a directory `references` with one file, both empty. -/
def entries : PackageEntries :=
  .cons skillMd (.leaf (.regular (.read [] true)))
    (.cons references (.dir false (.cons note (.leaf (.regular (.read [] true))) .nil)) .nil)

theorem entries_distinct : entries.Distinct :=
  ⟨by decide +kernel, trivial, List.not_mem_nil, ⟨List.not_mem_nil, trivial, trivial⟩, trivial⟩

/-- Every reference is deeper than this limit, of one digit more than is written. -/
def negativeLimit : SkillValidationPolicy := { maxReferenceDepth := some (-((10 ^ intMaxStrDigits : Nat) : Int)) }

theorem isLongInt_neg {n : Nat} (h : 10 ^ intMaxStrDigits ≤ n) : isLongInt (-(n : Int)) = true := by
  rw [isLongInt, Int.natAbs_neg, Int.natAbs_natCast]
  exact decide_eq_true h

theorem neg_lt_one (n : Nat) : (-(n : Int)) < 1 := by omega

/-- Every file of the tree is read, and the scan raises at the reference. -/
theorem unprintable_limit_raises : entries.Distinct ∧ RegularAt entries [references, note] [] ∧
    Raises (scanFiles hashlibSha256 negativeLimit (.listed false entries)) := by
  have hmet : Met entries [] [references] note (.leaf (.regular (.read [] true))) :=
    .inside (Or.inr (Or.inl ⟨rfl, rfl⟩)) (by decide +kernel) (.here (Or.inl ⟨rfl, rfl⟩))
  refine ⟨entries_distinct, .under (Or.inr (Or.inl ⟨rfl, rfl⟩)) (.entry (Or.inl ⟨rfl, rfl⟩)), raises_scanFiles ?_⟩
  exact ⟨_, _, _, hmet, ⟨_, rfl⟩, by decide +kernel, rfl, _, rfl, neg_lt_one _, isLongInt_neg le_rfl⟩

end ScanDemo

end SkillsSdk

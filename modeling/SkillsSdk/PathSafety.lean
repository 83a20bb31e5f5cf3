/-
SkillsSdk/PathSafety.lean

The scan and hardening apply one rule of path safety.

The scan decides name by name while it descends, hardening decides on the text
of the whole path.  A portable text has the names of the path as its parts
(`loweredParts_eq`), so the two decisions are the same one
(`unsafePackagePathReason_eq_none_iff`).
-/
import SkillsSdk.PackageBuild
import SkillsSdk.PackageHardening

namespace SkillsSdk

open NamedTree

variable {sha256 : List UInt8 → Sha256}

/-! ### Lower case -/

/-- Outside ASCII only the Kelvin sign has a lower case here. -/
theorem toLower_of_not_ascii {c : Char} (h : 128 ≤ c.toNat) : c.toLower = c := by
  unfold Char.toLower
  split
  · rename_i hupper
    have hle : c.toNat ≤ 'Z'.toNat := hupper.2
    exact absurd (le_trans h hle) (by decide)
  · rfl

theorem PyStr.lowerChar_lowerChar (c : PyChar) :
    PyStr.lowerChar (PyStr.lowerChar c) = PyStr.lowerChar c := by
  cases c with
  | surrogate n => rfl
  | scalar c =>
    by_cases hascii : c.toNat < 128
    · have hall : ∀ n < 128, PyStr.lowerChar (PyStr.lowerChar (.scalar (Char.ofNat n))) =
          PyStr.lowerChar (.scalar (Char.ofNat n)) := by
        decide +kernel
      have := hall c.toNat hascii
      rwa [Char.ofNat_toNat] at this
    · by_cases hkelvin : c = '\u212a'
      · subst hkelvin
        decide
      · have hfix : PyStr.lowerChar (.scalar c) = .scalar c := by
          rw [PyStr.lowerChar, if_neg hkelvin, toLower_of_not_ascii (Nat.not_lt.mp hascii)]
        rw [hfix, hfix]

theorem PyStr.lower_lower (s : PyStr) : s.lower.lower = s.lower := by
  rw [PyStr.lower, PyStr.lower, List.map_map]
  exact List.map_congr_left fun c _ => PyStr.lowerChar_lowerChar c

theorem unsafePackageFileReason_lower (s : PyStr) :
    unsafePackageFileReason s.lower = unsafePackageFileReason s := by
  rw [unsafePackageFileReason, unsafePackageFileReason, PyStr.lower_lower]

/-! ### The parts of a path -/

theorem ofText_intercalate (ts : List Text) :
    PyStr.ofText (List.intercalate ['/'] ts) =
      List.intercalate [.scalar '/'] (ts.map PyStr.ofText) := by
  induction ts with
  | nil => rfl
  | cons t ts ih =>
    cases ts with
    | nil => simp [PyStr.ofText]
    | cons u us =>
      simp only [List.intercalate_cons_cons, List.map_cons] at ih ⊢
      simp only [PyStr.ofText, List.map_append] at ih ⊢
      rw [ih]
      rfl

/-- The segments of a portable text are the names of the path. -/
theorem segments_eq {path : List FileName} (hne : path ≠ []) {p : PortablePath}
    (hp : portable? (asPosix path) = some p) :
    (p.val.splitOn '/').map PyStr.ofText = path.map Subtype.val := by
  have htext : List.intercalate [PyChar.scalar '/'] ((p.val.splitOn '/').map PyStr.ofText) =
      List.intercalate [.scalar '/'] (path.map Subtype.val) := by
    rw [← ofText_intercalate, List.intercalate_splitOn, ← portable?_eq_some_iff.mp hp]
    cases path with
    | nil => exact absurd rfl hne
    | cons name path => rfl
  have hsegments : ∀ s ∈ (p.val.splitOn '/').map PyStr.ofText, PyChar.scalar '/' ∉ s := by
    intro s hs hslash
    obtain ⟨t, ht, rfl⟩ := List.mem_map.mp hs
    obtain ⟨c, hc, hscalar⟩ := List.mem_map.mp hslash
    obtain rfl := PyChar.scalar.inj hscalar
    exact Segments.not_mem_of_mem_splitOn ht hc
  have hnames : ∀ s ∈ path.map Subtype.val, PyChar.scalar '/' ∉ s := by
    intro s hs
    obtain ⟨name, -, rfl⟩ := List.mem_map.mp hs
    exact FileName.slash_not_mem name
  have hback : List.splitOn (PyChar.scalar '/') (List.intercalate [.scalar '/']
      ((p.val.splitOn '/').map PyStr.ofText)) = (p.val.splitOn '/').map PyStr.ofText :=
    List.splitOn_intercalate _ hsegments (by simp [List.splitOn_ne_nil])
  have hforth : List.splitOn (PyChar.scalar '/') (List.intercalate [.scalar '/']
      (path.map Subtype.val)) = path.map Subtype.val :=
    List.splitOn_intercalate _ hnames (mt List.map_eq_nil_iff.mp hne)
  rw [← hback, htext, hforth]

theorem loweredParts_eq {path : List FileName} (hne : path ≠ []) {p : PortablePath}
    (hp : portable? (asPosix path) = some p) :
    loweredParts p.val = path.map fun name => name.val.lower := by
  have hparts : (PurePosixPath.parse p.val).parts = p.val.splitOn '/' := by
    rw [(portable_iff.mp p.2).parse_eq]
    rfl
  have hlower : loweredParts p.val = ((p.val.splitOn '/').map PyStr.ofText).map PyStr.lower := by
    rw [loweredParts, hparts, List.map_map]
    rfl
  rw [hlower, segments_eq hne hp, List.map_map]
  rfl

/-- The scan's rule: no name on the way is an unsafe directory, and the last is
no unsafe file. -/
def SafeNames (parent : List FileName) (name : FileName) : Prop :=
  (∀ n ∈ parent ++ [name], n.val.lower ∉ unsafePackageDirectories) ∧
    unsafePackageFileReason name.val = none

/-- **One rule**: hardening finds no reason against a path exactly when the scan
finds none against its names. -/
theorem unsafePackagePathReason_eq_none_iff {parent : List FileName} {name : FileName}
    {p : PortablePath} (hp : portable? (asPosix (parent ++ [name])) = some p) :
    unsafePackagePathReason p.val = .ok none ↔ SafeNames parent name := by
  have hparts := loweredParts_eq (by simp) hp
  have hlast : (loweredParts p.val).getLast? = some name.val.lower := by
    rw [hparts, List.map_append]
    exact List.getLast?_concat
  have hdirs : (loweredParts p.val).any (· ∈ unsafePackageDirectories) = true ↔
      ∃ n ∈ parent ++ [name], n.val.lower ∈ unsafePackageDirectories := by
    rw [hparts, List.any_map, List.any_eq_true]
    simp only [Function.comp, decide_eq_true_eq]
  rw [unsafePackagePathReason, SafeNames]
  by_cases hdir : (loweredParts p.val).any (· ∈ unsafePackageDirectories) = true
  · rw [if_pos hdir]
    obtain ⟨n, hn, hbad⟩ := hdirs.mp hdir
    exact iff_of_false (by simp) fun h => h.1 n hn hbad
  · rw [if_neg hdir, hlast]
    have hall : ∀ n ∈ parent ++ [name], n.val.lower ∉ unsafePackageDirectories := fun n hn hbad =>
      hdir (hdirs.mpr ⟨n, hn, hbad⟩)
    simp only [unsafePackageFileReason_lower, Except.ok.injEq]
    exact ⟨fun h => ⟨hall, h⟩, And.right⟩

/-! ### What the scan enters and takes -/

/-- The loop enters every directory that passes its checks. -/
structure Enters (parent : List FileName) (name : FileName) : Prop where
  portable : portable? (asPosix (parent ++ [name])) ≠ none
  safe : name.val.lower ∉ unsafePackageDirectories
  depth : parent.length < maxPackageDirectoryDepth

theorem round_of_enters {parent : List FileName} {name : FileName} (h : Enters parent name)
    (changed : Bool) (entries : PackageEntries) :
    round parent name parent.length (.dir changed entries) = .descend := by
  rw [round, if_neg h.portable, if_neg h.safe]
  show (if maxPackageDirectoryDepth ≤ parent.length then _ else _) = _
  rw [if_neg (Nat.not_le.mpr h.depth)]

theorem enters_of_round {parent : List FileName} {name : FileName} {node : PackageNode}
    (h : round parent name parent.length node = .descend) : Enters parent name := by
  rw [round] at h
  split_ifs at h with h₁ h₂ h₃ h₄ h₅
  exact ⟨h₁, h₂, Nat.not_le.mp h₅⟩

/-- Every directory on the way to an entry that the loop meets was entered. -/
theorem Met.entered {es : PackageEntries} {relative parent : List FileName} {name : FileName}
    {node : PackageNode} (h : Met es relative parent name node) :
    ∃ dirs, parent = relative ++ dirs ∧ ∀ n ∈ dirs, n.val.lower ∉ unsafePackageDirectories := by
  induction h with
  | here h => exact ⟨[], by simp, by simp⟩
  | inside h hround _ ih =>
    obtain ⟨dirs, hparent, hsafe⟩ := ih
    refine ⟨_ :: dirs, by rw [hparent, List.append_assoc]; rfl, ?_⟩
    intro n hn
    rcases List.mem_cons.mp hn with rfl | hn
    · exact (enters_of_round hround).safe
    · exact hsafe n hn

/-- The loop meets an entry when it enters every directory on the way. -/
theorem met_of_at {es : PackageEntries} {path : List FileName} {node : PackageNode}
    (hat : At es path node) {relative parent : List FileName} {name : FileName}
    (hpath : path = parent ++ [name])
    (henters : ∀ pre n post, parent = pre ++ n :: post → Enters (relative ++ pre) n) :
    Met es relative (relative ++ parent) name node := by
  induction hat generalizing relative parent with
  | entry h =>
    rcases parent with - | ⟨n, parent⟩
    · obtain rfl : _ = name := by simpa using hpath
      rw [List.append_nil]
      exact .here h
    · simp at hpath
  | @under es sub n changed path node h hbelow ih =>
    rcases parent with - | ⟨m, parent⟩
    · exact absurd (List.cons.inj hpath).2 hbelow.ne_nil
    · obtain ⟨rfl, htail⟩ := List.cons.inj hpath
      have hfirst : Enters relative n := by simpa using henters [] n parent rfl
      have hmet : Met sub (relative ++ [n]) ((relative ++ [n]) ++ parent) name node :=
        ih htail fun pre m post hsplit => by
          have := henters (n :: pre) m post (by rw [hsplit]; rfl)
          rwa [← List.append_cons]
      rw [List.append_cons]
      exact .inside h (round_of_enters hfirst changed sub) hmet

/-- What the loop captures has safe names. -/
theorem Captures.safeNames {es : PackageEntries} {parent : List FileName} {name : FileName}
    {node : PackageNode} {path : PortablePath} {payload : List UInt8}
    (hmet : Met es [] parent name node) (h : Captures parent name node path payload) :
    SafeNames parent name := by
  obtain ⟨dirs, hparent, hsafe⟩ := hmet.entered
  rw [List.nil_append] at hparent
  subst hparent
  have hname : name.val.lower ∉ unsafePackageDirectories := by
    intro hbad
    have hround := h.round_eq
    rw [round, if_neg (by rw [h.path_eq]; simp), if_pos hbad] at hround
    cases hround
  refine ⟨fun n hn => ?_, h.safe⟩
  rcases List.mem_append.mp hn with hn | hn
  · exact hsafe n hn
  · rwa [List.mem_singleton.mp hn]

/-- A readable regular file in directories that the loop can enter is captured
when its names are safe. -/
theorem captures_of_safeNames {parent : List FileName} {name : FileName} {path : PortablePath}
    (payload : List UInt8) (hpath : portable? (asPosix (parent ++ [name])) = some path)
    (hsafe : SafeNames parent name) :
    Captures parent name (.leaf (.regular (.read payload true))) path payload where
  regular := rfl
  round_eq := by
    have hname : name.val.lower ∉ unsafePackageDirectories := hsafe.1 name (by simp)
    rw [round, if_neg (by rw [hpath]; simp), if_neg hname]
    rfl
  safe := hsafe.2
  path_eq := hpath

/-- A file that the scan could take, whatever its names: a readable regular
file, with a portable path below portable directories, within the depth limit. -/
structure Takeable (entries : PackageEntries) (parent : List FileName) (name : FileName)
    (path : PortablePath) : Prop where
  regular : ∃ payload, RegularAt entries (parent ++ [name]) payload
  path_eq : portable? (asPosix (parent ++ [name])) = some path
  directories : ∀ pre n post, parent = pre ++ n :: post → portable? (asPosix (pre ++ [n])) ≠ none
  depth : parent.length ≤ maxPackageDirectoryDepth

theorem Takeable.captured_of_safeNames {entries : PackageEntries} {parent : List FileName}
    {name : FileName} {path : PortablePath} (h : Takeable entries parent name path)
    (hsafe : SafeNames parent name) :
    ∃ payload node, Met entries [] parent name node ∧ Captures parent name node path payload := by
  obtain ⟨payload, hat⟩ := h.regular
  refine ⟨payload, _, ?_, captures_of_safeNames payload h.path_eq hsafe⟩
  have henters : ∀ pre n post, parent = pre ++ n :: post → Enters ([] ++ pre) n := by
    intro pre n post hsplit
    refine ⟨h.directories pre n post hsplit, hsafe.1 n (by simp [hsplit]), ?_⟩
    have hdepth := h.depth
    rw [hsplit, List.length_append, List.length_cons] at hdepth
    show pre.length < _
    omega
  exact met_of_at hat rfl henters

/-- What is captured under a path has the safe names of some entry. -/
theorem reason_of_captured {es : PackageEntries} {parent : List FileName} {name : FileName}
    {node : PackageNode} {path : PortablePath} {payload : List UInt8}
    (hmet : Met es [] parent name node) (h : Captures parent name node path payload) :
    unsafePackagePathReason path.val = .ok none :=
  (unsafePackagePathReason_eq_none_iff h.path_eq).mpr (h.safeNames hmet)

/-- The records of a scan have no reason against their paths. -/
theorem reason_of_scanned {policy : SkillValidationPolicy} {root : RootObservation}
    (hdistinct : root.Distinct) {scan : Scan} (hscan : scanFiles sha256 policy root = .ok scan) :
    ∀ f ∈ scan.files, unsafePackagePathReason f.path.val = .ok none := by
  have hok : ScanOk sha256 root scan := scanOk_of_scanFiles hdistinct hscan
  intro f hf
  obtain ⟨path, payload, hmem, rfl⟩ := (hok.files_iff f).mp hf
  have hcaptures := (hok.captured_iff path payload).mp hmem
  cases root with
  | listed changed entries =>
    obtain ⟨parent, name, node, hmet, hc⟩ := hcaptures
    exact reason_of_captured hmet hc
  | _ => exact hcaptures.elim

/-- Which of the files that it could take a scan refuses, and that it reports them. -/
theorem refused_iff {policy : SkillValidationPolicy} {changed : Bool} {entries : PackageEntries}
    (hdistinct : entries.Distinct) {scan : Scan}
    (hscan : scanFiles sha256 policy (.listed changed entries) = .ok scan) {parent : List FileName}
    {name : FileName} {path : PortablePath} (h : Takeable entries parent name path) :
    (path ∉ scan.files.map (·.path) ↔ unsafePackagePathReason path.val ≠ .ok none) ∧
      (path ∉ scan.files.map (·.path) → Blamed sha256 entries scan.findings (parent ++ [name])) := by
  have hcomplete := complete_of_scanFiles hdistinct hscan
  have hrecord : ∀ payload, (path, payload) ∈ scan.captured → path ∈ scan.files.map (·.path) :=
    fun payload hmem =>
      List.mem_map.mpr ⟨_, (hcomplete.files_iff _).mpr ⟨path, payload, hmem, rfl⟩, rfl⟩
  refine ⟨not_congr ⟨fun hmem => ?_, fun hreason => ?_⟩, fun hrefused => ?_⟩
  · obtain ⟨f, hf, rfl⟩ := List.mem_map.mp hmem
    have hroot : (RootObservation.listed changed entries).Distinct := hdistinct
    exact reason_of_scanned hroot hscan f hf
  · have hsafe := (unsafePackagePathReason_eq_none_iff h.path_eq).mp hreason
    obtain ⟨payload, node, hmet, hc⟩ := h.captured_of_safeNames hsafe
    exact hrecord payload ((hcomplete.captured_iff path payload).mpr ⟨parent, name, node, hmet, hc⟩)
  · obtain ⟨payload, hat⟩ := h.regular
    rcases hcomplete.accounted hat with ⟨_, _, -, -, ⟨_, _, hdir⟩, -⟩ | ⟨p, payload', -, hpath, hmem⟩ | hb
    · cases hdir
    · have hsame : p = path :=
        Subtype.ext (PyStr.ofText_injective (hpath.trans (portable?_eq_some_iff.mp h.path_eq)))
      rw [hsame] at hmem
      exact absurd (hrecord payload' hmem) hrefused
    · exact hb

/-- **The scan and hardening agree**: what a scan records has no reason against
its path; among the files that it could take it refuses, with a report, those
that have one; and hardening, which always returns, never blocks a package built
from a scan for a forbidden path. -/
theorem scan_and_hardening_agree (parsers : Parsers) (sha256 : List UInt8 → Sha256)
    (policy : SkillValidationPolicy) :
    (∀ (root : { root : RootObservation // root.Distinct }) (scan : Scan),
      scanFiles sha256 policy root.val = .ok scan →
        (∀ f ∈ scan.files, unsafePackagePathReason f.path.val = .ok none) ∧
        ∀ changed entries, root.val = .listed changed entries → ∀ parent name path,
          Takeable entries parent name path →
            (path ∉ scan.files.map (·.path) ↔ unsafePackagePathReason path.val ≠ .ok none) ∧
            (path ∉ scan.files.map (·.path) →
              Blamed sha256 entries scan.findings (parent ++ [name]))) ∧
    ∀ (source : PackageSource) (sourceRevision : PyStr) (startedAt finishedAt : Int)
      (p : PackageReceiptV2 sha256), source.root.Distinct →
      buildSkillPackage sha256 parsers source sourceRevision policy startedAt finishedAt = .ok p →
      p.val.status = .built → ∀ hardening : Option PackageHardeningPolicy,
        ∃ h, hardenSkillPackage p hardening = .ok h ∧
          ∀ b ∈ h.val.blockers, b.id ≠ forbiddenPackagePaths.1 := by
  constructor
  · intro root scan hscan
    refine ⟨reason_of_scanned root.2 hscan, ?_⟩
    intro changed entries hroot parent name path htake
    have hdistinct : entries.Distinct := by
      have := root.2
      rwa [hroot] at this
    rw [hroot] at hscan
    exact refused_iff hdistinct hscan htake
  · intro source sourceRevision startedAt finishedAt p hdistinct hbuild hs hardening
    obtain ⟨scan, hscan, -, hincluded⟩ := buildSkillPackage_built hbuild hs
    obtain ⟨h, hh, hblocker⟩ := hardenSkillPackage_ok p hardening
    -- a built package holds scanned paths, and the hardening reads them with the same rule
    refine ⟨h, hh, fun b hb hid => ?_⟩
    obtain ⟨path, hpath, hreason⟩ := hblocker.mp ⟨b, hb, hid⟩
    rw [hincluded] at hpath
    obtain ⟨f, hf, rfl⟩ := List.mem_map.mp hpath
    exact hreason (reason_of_scanned hdistinct hscan f hf)

/-! ### A directory with a blank name -/

namespace BlankDirectory

def blank : FileName := ⟨PyStr.lit " ", by decide +kernel⟩

def notes : FileName := ⟨PyStr.lit "notes.md", by decide +kernel⟩

def path : PortablePath := literal " /notes.md" (by decide +kernel)

/-- A readable file below a directory whose name is one space. -/
def entries : PackageEntries :=
  .cons blank (.dir false (.cons notes (.leaf (.regular (.read [] true))) .nil)) .nil

end BlankDirectory

open BlankDirectory in
/-- The scan refuses a readable file with a portable path and no reason against
it, because the path of its directory alone is blank. -/
theorem scan_refuses_below_blank_directory :
    entries.Distinct ∧ RegularAt entries [blank, notes] [] ∧
      portable? (asPosix [blank, notes]) = some path ∧
      unsafePackagePathReason path.val = .ok none ∧
      ∃ scan, scanFiles hashlibSha256 {} (.listed false entries) = .ok scan ∧
        path ∉ scan.files.map (·.path) := by
  refine ⟨by simp [entries, Entries.Distinct, Node.Distinct, Entries.names], ?_, by decide +kernel,
    by decide +kernel, { findings := [_] }, rfl, List.not_mem_nil⟩
  exact .under (Or.inl ⟨rfl, rfl⟩) (.entry (Or.inl ⟨rfl, rfl⟩))

end SkillsSdk

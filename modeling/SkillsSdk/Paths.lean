/-
SkillsSdk/Paths.lean

Portable relative paths: `require_portable_relative_path` and what it accepts.

The check parses its argument as a `PurePosixPath` and asks that the parsed
path, written back, is the argument itself.  `portable_iff` says what that
comes to: no backslash, CR or LF, not all blank, and every segment between
slashes is neither empty, `.` nor `..`, the first without a colon.  Nothing
else is refused; a NUL in particular is let through, and two accepted paths
written one after the other are an accepted path (`Portable.append`).
-/
import SkillsSdk.Text
import SkillsSdk.Lib.Segments

namespace SkillsSdk

/-! ### PurePosixPath -/

/-- `PurePosixPath`: the root, empty for a relative path, and the kept segments. -/
structure PurePosixPath where
  root : Text
  tail : List Text
  deriving DecidableEq

namespace PurePosixPath

/-- `posixpath.splitroot`: exactly two leading slashes are a root of their own. -/
def splitroot : Text → Text × Text
  | '/' :: '/' :: '/' :: t => (['/'], '/' :: '/' :: t)
  | '/' :: '/' :: t => (['/', '/'], t)
  | '/' :: t => (['/'], t)
  | t => ([], t)

/-- A segment that parsing keeps. -/
def keeps (segment : Text) : Bool := segment != [] && segment != ['.']

/-- `PurePosixPath(value)`. -/
def parse (value : Text) : PurePosixPath :=
  let (root, rel) := splitroot value
  ⟨root, (rel.splitOn '/').filter keeps⟩

/-- `path.parts`. -/
def parts (path : PurePosixPath) : List Text :=
  if path.root = [] then path.tail else path.root :: path.tail

/-- `path.is_absolute()`. -/
def isAbsolute (path : PurePosixPath) : Bool := path.root != []

/-- `path.as_posix()`. -/
def asPosix (path : PurePosixPath) : Text :=
  if path.root = [] ∧ path.tail = [] then ['.']
  else path.root ++ List.intercalate ['/'] path.tail

end PurePosixPath

open PurePosixPath

def invalidPath (message : String) : ContractError :=
  ⟨"invalid_portable_path".toList, message.toList⟩

/-- `require_portable_relative_path`. -/
def requirePortableRelativePath (value : Text) : Except ContractError PurePosixPath :=
  if value = [] ∨ strip value = [] ∨ '\\' ∈ value ∨ (value.any fun c => c == '\r' || c == '\n') then
    .error (invalidPath "path must be a non-empty POSIX path")
  else
    let path := parse value
    if path.isAbsolute ∨ ['.', '.'] ∈ path.parts ∨ (path.parts.head?.any fun p => p.contains ':') then
      .error (invalidPath "path must be relative and cannot escape its root")
    else if path.asPosix ≠ value ∨ path.asPosix = ['.'] ∨ path.asPosix = [] then
      .error (invalidPath "path must already be normalized")
    else .ok path

/-- The check accepts the text. -/
def isPortable (value : Text) : Bool := (requirePortableRelativePath value).isOk

/-! ### What is accepted -/

/-- A segment of an accepted path. -/
def GoodSegment (segment : Text) : Prop :=
  segment ≠ [] ∧ segment ≠ ['.'] ∧ segment ≠ ['.', '.']

instance : DecidablePred GoodSegment := fun _ => inferInstanceAs (Decidable (_ ∧ _ ∧ _))

/-- The accepted texts, by their letters and their segments. -/
structure Portable (value : Text) : Prop where
  notBlank : ∃ c ∈ value, isSpace c = false
  letters : ∀ c ∈ value, c ≠ '\\' ∧ c ≠ '\r' ∧ c ≠ '\n'
  segments : ∀ s ∈ value.splitOn '/', GoodSegment s
  drive : ∀ s ∈ (value.splitOn '/').head?, ':' ∉ s

theorem splitroot_of_head_ne {value : Text} (h : value.head? ≠ some '/') :
    splitroot value = ([], value) := by
  rcases value with - | ⟨c, t⟩
  · rfl
  · unfold splitroot
    split <;> simp_all

theorem splitroot_root_ne_nil {value : Text} (h : value.head? = some '/') :
    (splitroot value).1 ≠ [] := by
  rcases value with - | ⟨c, t⟩
  · cases h
  · obtain rfl : c = '/' := by simpa using h
    unfold splitroot
    split <;> simp_all

/-- Joining the kept segments gives the text back only when all are kept. -/
theorem filter_keeps_eq_of_intercalate {value : Text} (hne : value ≠ [])
    (h : List.intercalate ['/'] ((value.splitOn '/').filter keeps) = value) :
    (value.splitOn '/').filter keeps = value.splitOn '/' := by
  have hkept : (value.splitOn '/').filter keeps ≠ [] := by
    intro h0
    rw [h0] at h
    exact hne (by simpa using h.symm)
  have hfree : ∀ s ∈ (value.splitOn '/').filter keeps, '/' ∉ s := fun s hs =>
    Segments.not_mem_of_mem_splitOn (List.mem_filter.mp hs).1
  have := List.splitOn_intercalate '/' hfree hkept
  rw [h] at this
  exact this.symm

theorem keeps_of_goodSegment {s : Text} (h : GoodSegment s) : keeps s = true := by
  simp [keeps, h.1, h.2.1]

theorem Portable.head?_ne {value : Text} (h : Portable value) : value.head? ≠ some '/' := by
  rcases value with - | ⟨c, t⟩
  · simp
  · intro hc
    obtain rfl : c = '/' := by simpa using hc
    have := h.segments [] (by simp [List.splitOn_cons_eq_if_modifyHead])
    exact this.1 rfl

theorem Portable.ne_nil {value : Text} (h : Portable value) : value ≠ [] := by
  obtain ⟨c, hc, -⟩ := h.notBlank
  exact List.ne_nil_of_mem hc

/-- An accepted path parses to its segments. -/
theorem Portable.parse_eq {value : Text} (h : Portable value) :
    parse value = ⟨[], value.splitOn '/'⟩ := by
  have hkeep : (value.splitOn '/').filter keeps = value.splitOn '/' :=
    List.filter_eq_self.mpr fun s hs => keeps_of_goodSegment (h.segments s hs)
  rw [parse, splitroot_of_head_ne h.head?_ne]
  exact congrArg _ hkeep

theorem Portable.ok {value : Text} (h : Portable value) :
    requirePortableRelativePath value = .ok ⟨[], value.splitOn '/'⟩ := by
  have hstrip : strip value ≠ [] := by
    obtain ⟨c, hc, hs⟩ := h.notBlank
    intro h0
    have := stripBy_eq_nil_iff.mp h0 c hc
    simp [hs] at this
  have hletters : '\\' ∉ value ∧ (value.any fun c => c == '\r' || c == '\n') = false := by
    refine ⟨fun hm => (h.letters _ hm).1 rfl, ?_⟩
    rw [List.any_eq_false]
    intro c hc
    simp [(h.letters c hc).2.1, (h.letters c hc).2.2]
  have hdots : ['.', '.'] ∉ value.splitOn '/' := fun hm => (h.segments _ hm).2.2 rfl
  have hdrive : ((value.splitOn '/').head?.any fun p => decide (':' ∈ p)) = false := by
    rcases hs : (value.splitOn '/').head? with - | s
    · rfl
    · simpa using h.drive s (by simp [hs])
  have hne : value ≠ ['.'] := by
    rintro rfl
    exact (h.segments ['.'] (by decide)).2.1 rfl
  have hposix : (⟨[], value.splitOn '/'⟩ : PurePosixPath).asPosix = value := by
    simp [asPosix, List.splitOn_ne_nil]
  simp [requirePortableRelativePath, h.parse_eq, h.ne_nil, hstrip, hletters, isAbsolute, parts,
    hdots, hdrive, hposix, hne]

theorem portable_of_ok {value : Text} {path : PurePosixPath}
    (h : requirePortableRelativePath value = .ok path) : Portable value := by
  unfold requirePortableRelativePath at h
  split at h
  · cases h
  rename_i hletters
  dsimp only at h
  split at h
  · cases h
  rename_i hrel
  split at h
  · cases h
  rename_i hnorm
  simp only [not_or, Bool.not_eq_true] at hletters hrel hnorm
  obtain ⟨hne, hstrip, hback, hline⟩ := hletters
  obtain ⟨habs, hdots, hdrive⟩ := hrel
  obtain ⟨hposix, hdot, -⟩ := hnorm
  have hhead : value.head? ≠ some '/' := by
    intro hc
    have : (parse value).root ≠ [] := splitroot_root_ne_nil hc
    simp [isAbsolute, this] at habs
  have hparse : parse value = ⟨[], (value.splitOn '/').filter keeps⟩ := by
    rw [parse, splitroot_of_head_ne hhead]
  simp only [hparse, parts, asPosix, if_true, true_and, List.nil_append] at hdots hdrive hposix hdot
  have htail : (value.splitOn '/').filter keeps ≠ [] := by
    intro h0
    simp [h0] at hdot
  rw [if_neg htail] at hposix hdot
  have hall := filter_keeps_eq_of_intercalate hne (not_not.mp hposix)
  rw [hall] at hdots hdrive
  refine ⟨?_, ?_, ?_, ?_⟩
  · by_contra hblank
    exact hstrip (stripBy_eq_nil_iff.mpr fun c hc => by
      by_contra hs
      exact hblank ⟨c, hc, by simpa using hs⟩)
  · intro c hc
    refine ⟨fun h0 => hback (h0 ▸ hc), ?_⟩
    have := List.any_eq_false.mp hline c hc
    simpa using this
  · intro s hs
    have hk : keeps s = true := (List.mem_filter.mp (hall ▸ hs)).2
    simp only [keeps, Bool.and_eq_true, bne_iff_ne] at hk
    exact ⟨hk.1, hk.2, fun h0 => hdots (h0 ▸ hs)⟩
  · intro s hs hc
    rw [show (value.splitOn '/').head? = some s from hs] at hdrive
    simp [hc] at hdrive

/-- **What `require_portable_relative_path` accepts.** -/
theorem portable_iff {value : Text} : isPortable value = true ↔ Portable value := by
  constructor
  · intro h
    rcases hv : requirePortableRelativePath value with e | path
    · simp [isPortable, hv, Except.isOk, Except.toBool] at h
    · exact portable_of_ok hv
  · intro h
    simp [isPortable, h.ok, Except.isOk, Except.toBool]

/-- Every refusal has the one code of the contract. -/
theorem requirePortableRelativePath_error_code {value : Text} {e : ContractError}
    (h : requirePortableRelativePath value = .error e) : e.code = "invalid_portable_path".toList := by
  unfold requirePortableRelativePath at h
  dsimp only at h
  split at h
  · cases h; rfl
  split at h
  · cases h; rfl
  split at h
  · cases h; rfl
  · cases h

theorem GoodSegment.append {a b : Text} (ha : GoodSegment a) (hb : GoodSegment b) :
    GoodSegment (a ++ b) := by
  refine ⟨by simp [ha.1], fun h => ?_, fun h => ?_⟩
  · rcases List.append_eq_singleton_iff.mp h with ⟨h, -⟩ | ⟨-, h⟩
    · exact ha.1 h
    · exact hb.1 h
  · rcases a with - | ⟨c, a⟩
    · exact ha.1 rfl
    rcases a with - | ⟨d, a⟩
    · obtain ⟨rfl, -⟩ := List.cons.inj h
      exact ha.2.1 rfl
    · have : b = [] := by simp_all
      exact hb.1 this

/-- **Accepted paths are closed under writing one after the other.** -/
theorem Portable.append {u v : Text} (hu : Portable u) (hv : Portable v) : Portable (u ++ v) := by
  obtain ⟨c, hc, hcs⟩ := hu.notBlank
  refine ⟨⟨c, List.mem_append_left _ hc, hcs⟩, ?_, ?_, ?_⟩
  · intro c hc
    rcases List.mem_append.mp hc with hc | hc
    · exact hu.letters c hc
    · exact hv.letters c hc
  · intro s hs
    rw [Segments.splitOn_append] at hs
    rcases Segments.mem_glue hs with hs | hs | ⟨a, ha, b, hb, rfl⟩
    · exact hu.segments s hs
    · exact hv.segments s hs
    · exact (hu.segments a ha).append (hv.segments b (List.mem_of_mem_head? hb))
  · intro s hs
    rw [Segments.splitOn_append] at hs
    rcases Segments.head?_glue hs with hs | hs | ⟨a, ha, b, hb, rfl⟩
    · exact hu.drive s hs
    · exact hv.drive s hs
    · intro hc
      rcases List.mem_append.mp hc with hc | hc
      · exact hu.drive a ha hc
      · exact hv.drive b hb hc

/-- A text of one segment is accepted when its letters are. -/
theorem portable_of_letters {t : Text} (hgood : GoodSegment t) (hblank : ∃ c ∈ t, isSpace c = false)
    (h : ∀ c ∈ t, c ∉ ['/', '\\', '\r', '\n', ':']) : Portable t := by
  have hslash : '/' ∉ t := fun hm => by simpa using h _ hm
  refine ⟨hblank, ?_, ?_, ?_⟩
  · intro c hc
    have := h c hc
    simp only [List.mem_cons, not_or] at this
    exact ⟨this.2.1, this.2.2.1, this.2.2.2.1⟩
  · rw [List.splitOn_eq_singleton hslash]
    simpa using hgood
  · rw [List.splitOn_eq_singleton hslash]
    intro s hs hc
    obtain rfl : t = s := by simpa using hs
    simpa using h _ hc

end SkillsSdk

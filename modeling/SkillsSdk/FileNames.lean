/-
SkillsSdk/FileNames.lean

Names as the file system gives them, and the package-safety rules for names.

A Python string may hold surrogates that belong to no pair, and a file name
that is not UTF-8 arrives as such a string.  `encode?` is the part of it that a
model or a digest can take; a relative path is portable only if it encodes and
the portable-path check accepts it (`portable?`).
-/
import SkillsSdk.Models.Packaging

namespace SkillsSdk

/-! ### Python strings -/

/-- A code point of a Python string: a scalar, or the surrogate `0xd800 + n`. -/
inductive PyChar where
  | scalar (c : Char)
  | surrogate (n : Fin 2048)
  deriving DecidableEq

abbrev PyStr := List PyChar

instance : LawfulBEq PyStr := inferInstance

namespace PyStr

def ofText (t : Text) : PyStr := t.map PyChar.scalar

def lit (s : String) : PyStr := ofText s.toList

/-- `s.encode("utf-8")` raises on a surrogate; otherwise the string is a text. -/
def encode? : PyStr → Option Text
  | [] => some []
  | .scalar c :: s => (encode? s).map (c :: ·)
  | .surrogate _ :: _ => none

theorem encode?_ofText (t : Text) : encode? (ofText t) = some t := by
  induction t with
  | nil => rfl
  | cons c t ih =>
    show (encode? (ofText t)).map (c :: ·) = some (c :: t)
    rw [ih, Option.map_some]

theorem encode?_eq_some_iff {s : PyStr} {t : Text} : encode? s = some t ↔ s = ofText t := by
  constructor
  · induction s generalizing t with
    | nil =>
      intro h
      obtain rfl := Option.some.inj h
      rfl
    | cons c s ih =>
      cases c with
      | scalar c =>
        intro h
        obtain ⟨u, hu, rfl⟩ := Option.map_eq_some_iff.mp h
        rw [ih hu]
        rfl
      | surrogate n =>
        intro h
        cases h
  · rintro rfl
    exact encode?_ofText t

theorem ofText_injective : Function.Injective ofText :=
  List.map_injective_iff.mpr fun _ _ h => PyChar.scalar.inj h

/-- `c.lower()`, as far as it decides which names lower to words of ASCII letters. -/
def lowerChar : PyChar → PyChar
  | .scalar c => .scalar (if c = '\u212a' then 'k' else c.toLower)
  | .surrogate n => .surrogate n

/-- `name.lower()`. -/
def lower (s : PyStr) : PyStr := s.map lowerChar

/-- `s.encode("utf-8", errors="surrogateescape")`: only `U+DC80` to `U+DCFF` stand for bytes. -/
def encodeEscaped? : PyStr → Option (List UInt8)
  | [] => some []
  | .scalar c :: s => (encodeEscaped? s).map (String.utf8EncodeChar c ++ ·)
  | .surrogate n :: s =>
    if 0x480 ≤ n.val ∧ n.val < 0x500 then
      (encodeEscaped? s).map (UInt8.ofNat (n.val - 0x400) :: ·)
    else none

end PyStr

/-! ### Strings that encode -/

/-- `s.encode("utf-8")` returns. -/
def Encodes (s : PyStr) : Prop := s.encode?.isSome = true

theorem encodes_iff {s : PyStr} : Encodes s ↔ ∃ t, s = PyStr.ofText t := by
  simp only [Encodes, Option.isSome_iff_exists, PyStr.encode?_eq_some_iff]

theorem encodes_ofText (t : Text) : Encodes (PyStr.ofText t) := encodes_iff.mpr ⟨t, rfl⟩

theorem encodes_iff_forall {s : PyStr} : Encodes s ↔ ∀ c ∈ s, ∃ d, c = .scalar d := by
  rw [encodes_iff]
  constructor
  · rintro ⟨t, rfl⟩ c hc
    obtain ⟨d, -, rfl⟩ := List.mem_map.mp hc
    exact ⟨d, rfl⟩
  · intro h
    induction s with
    | nil => exact ⟨[], rfl⟩
    | cons c s ih =>
      obtain ⟨d, rfl⟩ := h c List.mem_cons_self
      obtain ⟨t, rfl⟩ := ih fun c hc => h c (List.mem_cons_of_mem _ hc)
      exact ⟨d :: t, rfl⟩

theorem encodes_append {s t : PyStr} : Encodes (s ++ t) ↔ Encodes s ∧ Encodes t := by
  simp only [encodes_iff_forall, List.mem_append, or_imp, forall_and]

/-- Strings that all encode are texts. -/
theorem exists_texts {ids : List PyStr} (h : ∀ id ∈ ids, Encodes id) :
    ∃ texts : List Text, ids = texts.map PyStr.ofText := by
  induction ids with
  | nil => exact ⟨[], rfl⟩
  | cons id ids ih =>
    obtain ⟨t, rfl⟩ := encodes_iff.mp (h id List.mem_cons_self)
    obtain ⟨texts, rfl⟩ := ih fun id hid => h id (List.mem_cons_of_mem _ hid)
    exact ⟨t :: texts, rfl⟩

theorem mapM_encode?_ofText (texts : List Text) : (texts.map PyStr.ofText).mapM PyStr.encode? = some texts := by
  induction texts with
  | nil => rfl
  | cons t texts ih =>
    rw [List.map_cons, List.mapM_cons, PyStr.encode?_ofText, ih]
    rfl

theorem eq_of_mapM_encode? {ids : List PyStr} {texts : List Text} (h : ids.mapM PyStr.encode? = some texts) :
    ids = texts.map PyStr.ofText := by
  induction ids generalizing texts with
  | nil =>
    obtain rfl : [] = texts := Option.some.inj h
    rfl
  | cons id ids ih =>
    rw [List.mapM_cons] at h
    obtain ⟨t, ht, h⟩ := Option.bind_eq_some_iff.mp h
    obtain ⟨rest, hrest, h⟩ := Option.bind_eq_some_iff.mp h
    obtain rfl : t :: rest = texts := Option.some.inj h
    rw [ih hrest, PyStr.encode?_eq_some_iff.mp ht]
    rfl

/-! ### Names and relative paths -/

/-- The name of an entry of a directory. -/
def isFileName (s : PyStr) : Bool :=
  s != [] && s != PyStr.lit "." && s != PyStr.lit ".." && !s.contains (.scalar '/') &&
    !s.contains (.scalar '\x00')

abbrev FileName := { s : PyStr // isFileName s = true }

theorem FileName.slash_not_mem (name : FileName) : PyChar.scalar '/' ∉ name.val := by
  have h := name.2
  simp only [isFileName, Bool.and_eq_true, Bool.not_eq_true'] at h
  simpa using h.1.2

/-- `relative.as_posix()`, of the path with the given parts. -/
def asPosix : List FileName → PyStr
  | [] => PyStr.lit "."
  | path => List.intercalate [.scalar '/'] (path.map Subtype.val)

/-- The names of a path are the segments of its text. -/
theorem splitOn_asPosix {p : List FileName} (hp : p ≠ []) :
    (asPosix p).splitOn (.scalar '/') = p.map Subtype.val := by
  rcases p with - | ⟨name, path⟩
  · exact absurd rfl hp
  · refine List.splitOn_intercalate _ (fun s hs => ?_) (by simp)
    obtain ⟨n, -, rfl⟩ := List.mem_map.mp hs
    exact FileName.slash_not_mem n

/-- A path is known by its text: no name holds a separator. -/
theorem asPosix_injective {p q : List FileName} (hp : p ≠ []) (hq : q ≠ [])
    (h : asPosix p = asPosix q) : p = q := by
  apply List.map_injective_iff.mpr Subtype.val_injective
  rw [← splitOn_asPosix hp, ← splitOn_asPosix hq, h]

/-- The relative path that a model takes: it encodes and is portable. -/
def portable? (s : PyStr) : Option PortablePath :=
  s.encode?.bind fun t => if h : isPortable t = true then some ⟨t, h⟩ else none

theorem portable?_eq_some_iff {s : PyStr} {p : PortablePath} :
    portable? s = some p ↔ s = PyStr.ofText p.val := by
  rw [portable?, Option.bind_eq_some_iff]
  constructor
  · rintro ⟨t, ht, h⟩
    split_ifs at h with hportable
    obtain rfl := Option.some.inj h
    exact PyStr.encode?_eq_some_iff.mp ht
  · rintro rfl
    exact ⟨p.val, PyStr.encode?_ofText _, dif_pos p.2⟩

/-- The path of the package root itself is not portable. -/
theorem portable?_asPosix_nil : portable? (asPosix []) = none := by decide +kernel

/-! ### Package safety -/

/-- `UNSAFE_PACKAGE_DIRECTORIES`. -/
def unsafePackageDirectories : List PyStr :=
  [".agents", ".cache", ".codex", ".git", ".gnupg", ".harness", ".mypy_cache", ".plugin-appserver",
    ".pytest_cache", ".ruff_cache", ".ssh", ".tox", ".venv", "__pycache__", "artifacts", "dist",
    "node_modules", "venv"].map PyStr.lit

/-- `UNSAFE_PACKAGE_FILENAMES`. -/
def unsafePackageFilenames : List PyStr :=
  [".env", ".netrc", ".npmrc", "credentials.json", "id_ed25519", "id_rsa", "secrets.json"].map PyStr.lit

/-- `UNSAFE_PACKAGE_SUFFIXES`. -/
def unsafePackageSuffixes : List PyStr :=
  [".key", ".p12", ".pem", ".pfx", ".token"].map PyStr.lit

/-- `unsafe_package_file_reason`. -/
def unsafePackageFileReason (name : PyStr) : Option String :=
  let normalized := name.lower
  if normalized ∈ unsafePackageFilenames then some "forbidden_filename"
  else if (PyStr.lit ".env.").isPrefixOf normalized then some "forbidden_env_family"
  else if normalized = PyStr.lit "skill-package-validation.json" ∨
      (PyStr.lit "-receipt.json").isSuffixOf normalized then some "forbidden_generated_receipt"
  else if unsafePackageSuffixes.any (·.isSuffixOf normalized) then some "forbidden_secret_suffix"
  else none

/-- `_file_role`. -/
def fileRole (relative : Text) : PackageFileRole :=
  if relative = "SKILL.md".toList then .skillMd
  else if relative = "README.md".toList then .readme
  else
    let first := relative.takeWhile (· ≠ '/')
    if first = "references".toList then .reference
    else if first = "scripts".toList then .script
    else if first = "assets".toList then .asset
    else if first = "evals".toList then .eval
    else .asset

end SkillsSdk

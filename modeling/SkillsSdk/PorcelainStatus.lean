/-
SkillsSdk/PorcelainStatus.lean

The reading of `git status --porcelain=v1 -z`: `_parse_porcelain`.

Git writes a record as its two status letters, a blank and the path, ended by a
NUL; a rename or copy in either column is followed by its origin, ended by
another.  The encoding does not say how many fields follow, the letters do:
`readRecords_fields` shows that the reader takes each origin where git wrote it.

What the reader then makes of the records is a fold of `classify`.  It is what
the records say but for one thing: the origin of a rename in the worktree column
is not among the unstaged paths (`inverts_iff`).
-/
import Mathlib.Data.List.Dedup
import SkillsSdk.Raising
import SkillsSdk.SkillIr

namespace SkillsSdk

/-! ### The model of the result -/

structure PrSweepDirtyStateData where
  stagedPaths : List Text := []
  unstagedPaths : List Text := []
  untrackedPaths : List Text := []
  dirtyPaths : List Text := []
  deriving DecidableEq

namespace PrSweepDirtyStateData

/-- The paths of the three categories. -/
def categorized (d : PrSweepDirtyStateData) : List Text :=
  d.stagedPaths ++ d.unstagedPaths ++ d.untrackedPaths

/-- `PrSweepDirtyState.paths_match_categories`. -/
def validate (d : PrSweepDirtyStateData) : Except ValidationError Unit :=
  validateWith "PrSweepDirtyState" []
    [violation ((d.categorized ++ d.dirtyPaths).any (!isPortable ·) = true)
      "dirty state contains a non-portable path",
    violation (¬ (d.dirtyPaths ⊆ d.categorized ∧ d.categorized ⊆ d.dirtyPaths))
      "dirty paths must equal the union of staged, unstaged, and untracked paths"]

end PrSweepDirtyStateData

abbrev PrSweepDirtyState := Accepted PrSweepDirtyStateData.validate

/-! ### The reader -/

/-- A record as it is read: its first two letters, its path and its origin. -/
structure ReadRecord where
  status : Text
  path : Text
  origin : Option Text
  deriving DecidableEq

/-- `"R" in status or "C" in status`. -/
def takesOrigin (status : Text) : Bool := status.contains 'R' || status.contains 'C'

/-- The fields that the loop takes together. -/
def readRecords : List Text → List ReadRecord
  | [] => []
  | [] :: fields => readRecords fields
  | line :: fields =>
    if takesOrigin (line.take 2) then
      match fields with
      | [] => [⟨line.take 2, line.drop 3, none⟩]
      | origin :: fields => ⟨line.take 2, line.drop 3, some origin⟩ :: readRecords fields
    else ⟨line.take 2, line.drop 3, none⟩ :: readRecords fields

/-- The three sets that the loop fills. -/
structure DirtySets where
  staged : List Text := []
  unstaged : List Text := []
  untracked : List Text := []

/-- The path of a record and its origin. -/
def ReadRecord.paths (r : ReadRecord) : List Text := r.path :: r.origin.toList

/-- The body of the loop, after the reading.  A status of one letter has no
second: `status[1]` raises. -/
def classify (s : DirtySets) (r : ReadRecord) : Except PyExc DirtySets :=
  if r.status = "??".toList then .ok { s with untracked := s.untracked ++ r.paths }
  else
    match r.status with
    | index :: worktree :: _ =>
      .ok { s with
        staged := s.staged ++ (if index ≠ ' ' then r.paths else [])
        unstaged := s.unstaged ++ (if worktree ≠ ' ' then [r.path] else []) }
    | _ => .error .other

/-- `tuple(sorted(paths))` of a set. -/
def sortedChangedPaths (paths : List Text) : List Text := paths.dedup.insertionSort (· ≤ ·)

/-- What the sets are returned as. -/
def DirtySets.data (s : DirtySets) : PrSweepDirtyStateData where
  stagedPaths := sortedChangedPaths s.staged
  unstagedPaths := sortedChangedPaths s.unstaged
  untrackedPaths := sortedChangedPaths s.untracked
  dirtyPaths := sortedChangedPaths (s.staged ++ s.unstaged ++ s.untracked)

/-- `_parse_porcelain`. -/
def parsePorcelain (output : Text) : Except PyExc PrSweepDirtyState := do
  let s ← (readRecords (output.splitOn '\x00')).foldlM classify {}
  (construct PrSweepDirtyStateData.validate s.data).mapError fun _ => .valueError

/-! ### What git writes -/

/-- The letters of a status column. -/
inductive StatusLetter where
  | unmodified
  | modified
  | typeChanged
  | added
  | deleted
  | renamed
  | copied
  | updated
  deriving DecidableEq

def StatusLetter.char : StatusLetter → Char
  | unmodified => ' '
  | modified => 'M'
  | typeChanged => 'T'
  | added => 'A'
  | deleted => 'D'
  | renamed => 'R'
  | copied => 'C'
  | updated => 'U'

/-- A rename or a copy. -/
def StatusLetter.hasOrigin : StatusLetter → Bool
  | renamed => true
  | copied => true
  | _ => false

/-- The two columns: a change in the index or in the worktree, or a path that git
does not track. -/
inductive StatusCode where
  | untracked
  | changed (index worktree : StatusLetter) (h : index ≠ .unmodified ∨ worktree ≠ .unmodified)
  deriving DecidableEq

namespace StatusCode

def text : StatusCode → Text
  | untracked => "??".toList
  | changed index worktree _ => [index.char, worktree.char]

def indexChanged : StatusCode → Bool
  | untracked => false
  | changed index _ _ => index ≠ .unmodified

def worktreeChanged : StatusCode → Bool
  | untracked => false
  | changed _ worktree _ => worktree ≠ .unmodified

def hasOrigin : StatusCode → Bool
  | untracked => false
  | changed index worktree _ => index.hasOrigin || worktree.hasOrigin

end StatusCode

/-- A record of the status: a rename or copy names its origin too. -/
structure PorcelainRecord where
  code : StatusCode
  path : Text
  origin : Option Text
  path_noNul : '\x00' ∉ path
  origin_noNul : ∀ o ∈ origin, '\x00' ∉ o
  origin_iff : origin.isSome = code.hasOrigin

namespace PorcelainRecord

/-- The fields that git ends by a NUL. -/
def fields (r : PorcelainRecord) : List Text := (r.code.text ++ ' ' :: r.path) :: r.origin.toList

/-- The record as it should be read. -/
def read (r : PorcelainRecord) : ReadRecord := ⟨r.code.text, r.path, r.origin⟩

/-- The path, or the origin of the rename or copy. -/
def Names (r : PorcelainRecord) (p : Text) : Prop := p = r.path ∨ p ∈ r.origin

end PorcelainRecord

/-- `git status --porcelain=v1 -z`. -/
def encodePorcelain (records : List PorcelainRecord) : Text :=
  (records.flatMap PorcelainRecord.fields).flatMap fun field => field ++ ['\x00']

/-! ### Reading the encoding -/

theorem hasOrigin_iff_char (l : StatusLetter) : l.hasOrigin = true ↔ l.char = 'R' ∨ l.char = 'C' := by
  cases l <;> decide

theorem char_eq_blank_iff (l : StatusLetter) : l.char = ' ' ↔ l = .unmodified := by
  cases l <;> decide

/-- The letters say whether an origin follows. -/
theorem takesOrigin_text (code : StatusCode) : takesOrigin code.text = code.hasOrigin := by
  rcases code with - | ⟨index, worktree, h⟩
  · rfl
  · rw [Bool.eq_iff_iff, StatusCode.hasOrigin, Bool.or_eq_true, hasOrigin_iff_char, hasOrigin_iff_char]
    simp only [takesOrigin, StatusCode.text, List.contains_iff_mem, Bool.or_eq_true, List.mem_cons,
      List.not_mem_nil, or_false]
    constructor
    · rintro ((h | h) | (h | h))
      · exact Or.inl (Or.inl h.symm)
      · exact Or.inr (Or.inl h.symm)
      · exact Or.inl (Or.inr h.symm)
      · exact Or.inr (Or.inr h.symm)
    · rintro ((h | h) | (h | h))
      · exact Or.inl (Or.inl h.symm)
      · exact Or.inr (Or.inl h.symm)
      · exact Or.inl (Or.inr h.symm)
      · exact Or.inr (Or.inr h.symm)

theorem nul_not_mem_text (code : StatusCode) : '\x00' ∉ code.text := by
  rcases code with - | ⟨index, worktree, h⟩
  · decide
  · rw [StatusCode.text]
    cases index <;> cases worktree <;> decide

theorem nul_not_mem_fields (r : PorcelainRecord) : ∀ field ∈ r.fields, '\x00' ∉ field := by
  intro field hfield
  rw [PorcelainRecord.fields] at hfield
  rcases List.mem_cons.mp hfield with rfl | horigin
  · simp only [List.mem_append, List.mem_cons, not_or]
    exact ⟨nul_not_mem_text r.code, by decide, r.path_noNul⟩
  · exact r.origin_noNul field (Option.mem_toList.mp horigin)

/-- Splitting at the NULs gives back the fields, and an empty one after the last. -/
theorem splitOn_ended {fields : List Text} (h : ∀ field ∈ fields, '\x00' ∉ field) :
    (fields.flatMap fun field => field ++ ['\x00']).splitOn '\x00' = fields ++ [[]] := by
  induction fields with
  | nil => rfl
  | cons field fields ih =>
    rw [List.forall_mem_cons] at h
    rw [List.flatMap_cons, List.append_assoc, List.singleton_append,
      List.splitOn_append_cons_self_of_not_mem h.1, ih h.2]
    rfl

/-- The first two letters and what follows the blank. -/
theorem take_drop_line (code : StatusCode) (path : Text) :
    (code.text ++ ' ' :: path).take 2 = code.text ∧ (code.text ++ ' ' :: path).drop 3 = path ∧
      code.text ++ ' ' :: path ≠ [] := by
  rcases code with - | ⟨index, worktree, h⟩
  · exact ⟨rfl, rfl, List.cons_ne_nil _ _⟩
  · exact ⟨rfl, rfl, List.cons_ne_nil _ _⟩

theorem readRecords_line {line : Text} (hline : line ≠ []) (rest : List Text) :
    readRecords (line :: rest) =
      if takesOrigin (line.take 2) then
        match rest with
        | [] => [⟨line.take 2, line.drop 3, none⟩]
        | origin :: rest => ⟨line.take 2, line.drop 3, some origin⟩ :: readRecords rest
      else ⟨line.take 2, line.drop 3, none⟩ :: readRecords rest := by
  rcases line with - | ⟨c, line⟩
  · exact absurd rfl hline
  · rw [readRecords.eq_def]

/-- **The reader takes each origin where git wrote it**, and no other field for one. -/
theorem readRecords_fields (records : List PorcelainRecord) :
    readRecords (records.flatMap PorcelainRecord.fields ++ [[]]) = records.map PorcelainRecord.read := by
  induction records with
  | nil => rfl
  | cons r records ih =>
    obtain ⟨htake, hdrop, hne⟩ := take_drop_line r.code r.path
    rw [List.flatMap_cons, List.append_assoc, PorcelainRecord.fields, List.cons_append,
      readRecords_line hne, htake, hdrop, takesOrigin_text, ← r.origin_iff, List.map_cons]
    rcases horigin : r.origin with - | origin
    · show ⟨_, _, none⟩ :: readRecords (records.flatMap PorcelainRecord.fields ++ [[]]) = _
      rw [ih, PorcelainRecord.read, horigin]
    · show ⟨_, _, some origin⟩ :: readRecords (records.flatMap PorcelainRecord.fields ++ [[]]) = _
      rw [ih, PorcelainRecord.read, horigin]

/-! ### What the sets hold -/

/-- A record of git's is classified. -/
theorem classify_read (s : DirtySets) (r : PorcelainRecord) :
    ∃ s', classify s r.read = .ok s' ∧
      s'.staged = s.staged ++ (if r.code.indexChanged then r.read.paths else []) ∧
      s'.unstaged = s.unstaged ++ (if r.code.worktreeChanged then [r.path] else []) ∧
      s'.untracked = s.untracked ++ (if r.code = .untracked then r.read.paths else []) := by
  rcases hcode : r.code with - | ⟨index, worktree, h⟩
  · refine ⟨{ s with untracked := s.untracked ++ r.read.paths }, ?_, ?_, ?_, ?_⟩
    · rw [classify]
      apply if_pos
      rw [PorcelainRecord.read, hcode]
      rfl
    · exact (List.append_nil s.staged).symm
    · exact (List.append_nil s.unstaged).symm
    · rw [if_pos rfl]
  · have hne : (StatusCode.changed index worktree h).text ≠ "??".toList := by
      rw [StatusCode.text]
      cases index <;> cases worktree <;> decide
    have hindex : index.char ≠ ' ' ↔ (StatusCode.changed index worktree h).indexChanged = true := by
      simp [StatusCode.indexChanged, char_eq_blank_iff]
    have hworktree : worktree.char ≠ ' ' ↔ (StatusCode.changed index worktree h).worktreeChanged = true := by
      simp [StatusCode.worktreeChanged, char_eq_blank_iff]
    have hread : r.read.status = [index.char, worktree.char] := by
      rw [PorcelainRecord.read, hcode]
      rfl
    refine ⟨{ s with
      staged := s.staged ++ (if index.char ≠ ' ' then r.read.paths else [])
      unstaged := s.unstaged ++ (if worktree.char ≠ ' ' then [r.path] else []) }, ?_, ?_, ?_, ?_⟩
    · rw [classify, hread]
      exact if_neg hne
    · simp only [hindex]
    · simp only [hworktree]
    · show s.untracked = s.untracked ++ _
      rw [if_neg (by simp), List.append_nil]

/-- **The loop** puts into the sets what the letters of the records say. -/
theorem foldlM_classify (records : List PorcelainRecord) (s : DirtySets) :
    ∃ s', (records.map PorcelainRecord.read).foldlM classify s = .ok s' ∧
      s'.staged = s.staged ++ records.flatMap (fun r => if r.code.indexChanged then r.read.paths else []) ∧
      s'.unstaged = s.unstaged ++ records.flatMap (fun r => if r.code.worktreeChanged then [r.path] else []) ∧
      s'.untracked = s.untracked ++
        records.flatMap (fun r => if r.code = .untracked then r.read.paths else []) := by
  induction records generalizing s with
  | nil => exact ⟨s, rfl, by simp, by simp, by simp⟩
  | cons r records ih =>
    obtain ⟨first, hfirst, hstaged, hunstaged, huntracked⟩ := classify_read s r
    obtain ⟨last, hlast, hstaged', hunstaged', huntracked'⟩ := ih first
    refine ⟨last, ?_, ?_, ?_, ?_⟩
    · rw [List.map_cons, List.foldlM_cons, hfirst]
      exact hlast
    · rw [hstaged', hstaged, List.flatMap_cons, List.append_assoc]
    · rw [hunstaged', hunstaged, List.flatMap_cons, List.append_assoc]
    · rw [huntracked', huntracked, List.flatMap_cons, List.append_assoc]

theorem mem_sortedChangedPaths {p : Text} {paths : List Text} : p ∈ sortedChangedPaths paths ↔ p ∈ paths := by
  rw [sortedChangedPaths, (List.perm_insertionSort (· ≤ ·) paths.dedup).mem_iff, List.mem_dedup]

/-- The model accepts sets of portable paths. -/
theorem DirtySets.validate_iff (s : DirtySets) :
    s.data.validate = .ok () ↔ ∀ p ∈ s.staged ++ s.unstaged ++ s.untracked, isPortable p = true := by
  have hmem : ∀ p, p ∈ s.data.categorized ↔ p ∈ s.staged ++ s.unstaged ++ s.untracked := by
    intro p
    simp only [PrSweepDirtyStateData.categorized, DirtySets.data, List.mem_append, mem_sortedChangedPaths]
  have hdirty : ∀ p, p ∈ s.data.dirtyPaths ↔ p ∈ s.staged ++ s.unstaged ++ s.untracked := fun p =>
    mem_sortedChangedPaths
  rw [PrSweepDirtyStateData.validate, validateWith_eq_ok]
  simp only [List.forall_mem_cons, List.not_mem_nil, false_implies, implies_true, and_true, violation_fst,
    not_not, true_and]
  constructor
  · rintro ⟨hportable, -⟩ p hp
    by_contra hnot
    refine hportable (List.any_eq_true.mpr ⟨p, List.mem_append_right _ ((hdirty p).mpr hp), ?_⟩)
    simpa using hnot
  · intro hportable
    refine ⟨fun hany => ?_, fun p hp => (hmem p).mpr ((hdirty p).mp hp),
      fun p hp => (hdirty p).mpr ((hmem p).mp hp)⟩
    obtain ⟨p, hp, hnot⟩ := List.any_eq_true.mp hany
    have hp' : p ∈ s.staged ++ s.unstaged ++ s.untracked := by
      rcases List.mem_append.mp hp with hp | hp
      · exact (hmem p).mp hp
      · exact (hdirty p).mp hp
    rw [hportable p hp'] at hnot
    cases hnot

/-! ### The reading inverts the encoding -/

/-- A change in the index stages the paths of the record. -/
def Staged (records : List PorcelainRecord) (p : Text) : Prop :=
  ∃ r ∈ records, r.code.indexChanged = true ∧ r.Names p

def Untracked (records : List PorcelainRecord) (p : Text) : Prop :=
  ∃ r ∈ records, r.code = .untracked ∧ r.Names p

theorem readRecords_encode (records : List PorcelainRecord) :
    readRecords ((encodePorcelain records).splitOn '\x00') = records.map PorcelainRecord.read := by
  have hfields : ∀ field ∈ records.flatMap PorcelainRecord.fields, '\x00' ∉ field := by
    intro field hfield
    obtain ⟨r, -, hr⟩ := List.mem_flatMap.mp hfield
    exact nul_not_mem_fields r field hr
  rw [encodePorcelain, splitOn_ended hfields, readRecords_fields]

theorem mem_paths_read {r : PorcelainRecord} {p : Text} : p ∈ r.read.paths ↔ r.Names p := by
  rw [ReadRecord.paths, List.mem_cons, Option.mem_toList]
  exact Iff.rfl

/-- Every record says something of its path. -/
theorem classified (code : StatusCode) :
    code.indexChanged = true ∨ code.worktreeChanged = true ∨ code = .untracked := by
  rcases code with - | ⟨index, worktree, hne⟩
  · exact Or.inr (Or.inr rfl)
  · rcases hne with h | h
    · exact Or.inl (decide_eq_true h)
    · exact Or.inr (Or.inl (decide_eq_true h))

/-- The sets of a parse, and whether the model takes them. -/
theorem parse_encode (records : List PorcelainRecord) :
    ∃ s : DirtySets, (∀ p, p ∈ s.staged ↔ Staged records p) ∧
      (∀ p, p ∈ s.unstaged ↔ ∃ r ∈ records, r.code.worktreeChanged = true ∧ p = r.path) ∧
      (∀ p, p ∈ s.untracked ↔ Untracked records p) ∧
      parsePorcelain (encodePorcelain records) =
        (construct PrSweepDirtyStateData.validate s.data).mapError fun _ => PyExc.valueError := by
  obtain ⟨s, hs, hstaged, hunstaged, huntracked⟩ := foldlM_classify records {}
  refine ⟨s, fun p => ?_, fun p => ?_, fun p => ?_, ?_⟩
  -- each set is what its records contribute, one after the other
  · rw [hstaged, Staged, List.nil_append, List.mem_flatMap]
    refine exists_congr fun r => and_congr_right fun _ => ?_
    split_ifs with h
    · rw [mem_paths_read, h]
      exact (and_iff_right rfl).symm
    · exact iff_of_false List.not_mem_nil fun hp => h hp.1
  · rw [hunstaged, List.nil_append, List.mem_flatMap]
    refine exists_congr fun r => and_congr_right fun _ => ?_
    split_ifs with h
    · rw [List.mem_singleton, h]
      exact (and_iff_right rfl).symm
    · exact iff_of_false List.not_mem_nil fun hp => h hp.1
  · rw [huntracked, Untracked, List.nil_append, List.mem_flatMap]
    refine exists_congr fun r => and_congr_right fun _ => ?_
    split_ifs with h
    · rw [mem_paths_read]
      exact (and_iff_right h).symm
    · exact iff_of_false List.not_mem_nil fun hp => h hp.1
  · rw [parsePorcelain, readRecords_encode, hs]
    rfl

end SkillsSdk

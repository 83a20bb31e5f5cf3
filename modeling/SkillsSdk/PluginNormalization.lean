/-
SkillsSdk/PluginNormalization.lean

A standalone skill as the one child of a new plugin: where the candidate may be
written, and the directories that are made for it.

The destination is climbed from its parent to the root of the file system, so it
is refused exactly when the source is that parent or above it
(`rejectSourceAncestor_iff`).  The directories below the candidate are sorted by
their depth, which is what puts a parent before its children
(`directoryPaths_creation_order`).
-/
import Mathlib.Data.List.Dedup
import SkillsSdk.Lib.Directories
import SkillsSdk.Models.Plugin
import SkillsSdk.Raising

namespace SkillsSdk

open Directories

/-! ### The destination -/

section

variable {Identity : Type} [DecidableEq Identity]

/-- The loop of `_reject_source_ancestor`, as far as the fuel goes: `ancestor` is the
directory that is open. -/
def climbAncestors (tree : DirectoryTree Identity) (source : Identity) :
    Nat → Option Identity → Identity → Option (Except PyExc Unit)
  | 0, _, _ => none
  | fuel + 1, previous, current =>
    if current = source then some (.error .valueError)
    else if some current = previous then some (.ok ())
    else climbAncestors tree source fuel (some current) (tree.parent current)

/-- `_reject_source_ancestor` returns or raises, from the identity of the destination's parent. -/
def RejectSourceAncestor (tree : DirectoryTree Identity) (source parent : Identity)
    (outcome : Except PyExc Unit) : Prop :=
  ∃ fuel, climbAncestors tree source fuel none parent = some outcome

variable (tree : DirectoryTree Identity) {source current : Identity} {previous : Option Identity}

/-- Every directory passed was compared: the result is about the ones that are left. -/
theorem climbAncestors_spec {fuel : Nat} {outcome : Except PyExc Unit}
    (hprevious : ∀ p ∈ previous, tree.parent p = current)
    (h : climbAncestors tree source fuel previous current = some outcome) :
    Raises outcome ↔ tree.IsAncestor source current := by
  induction fuel generalizing previous current with
  | zero => cases h
  | succ fuel ih =>
    rw [climbAncestors] at h
    split_ifs at h with hsource hroot
    · rw [← Option.some.inj h]
      exact iff_of_true ⟨_, rfl⟩ ⟨0, hsource⟩
    · -- the identity repeats, so the directory is the root
      have hfixed : tree.parent current = current := hprevious current hroot.symm
      rw [← Option.some.inj h, tree.isAncestor_of_fixed hfixed]
      exact iff_of_false not_raises_ok hsource
    · rw [tree.isAncestor_iff, or_iff_right hsource]
      refine ih ?_ h
      rintro p ⟨⟩
      rfl

/-- More fuel than the steps to the root is enough. -/
theorem exists_climbAncestors (n : Nat) (hn : tree.parent^[n] current = tree.root) :
    ∃ outcome, climbAncestors tree source (n + 2) previous current = some outcome := by
  induction n generalizing previous current with
  | zero =>
    obtain rfl : current = tree.root := hn
    by_cases hsource : tree.root = source
    · exact ⟨_, if_pos hsource⟩
    · by_cases hrepeat : some tree.root = previous
      · exact ⟨_, (if_neg hsource).trans (if_pos hrepeat)⟩
      · -- one more step, and the identity repeats
        have hagain : climbAncestors tree source 1 (some tree.root) (tree.parent tree.root) = some (.ok ()) := by
          rw [tree.parent_root]
          exact (if_neg hsource).trans (if_pos rfl)
        exact ⟨_, (if_neg hsource).trans ((if_neg hrepeat).trans hagain)⟩
  | succ n ih =>
    rw [climbAncestors]
    split_ifs
    · exact ⟨_, rfl⟩
    · exact ⟨_, rfl⟩
    · exact ih hn

/-- **The destination check** ends, and raises exactly when the source is the parent of the
destination or one of its ancestors up to the root. -/
theorem rejectSourceAncestor_iff (tree : DirectoryTree Identity) (source parent : Identity) :
    (∃ outcome, RejectSourceAncestor tree source parent outcome) ∧
      ∀ outcome, RejectSourceAncestor tree source parent outcome →
        (Raises outcome ↔ ∃ n, tree.parent^[n] parent = source) := by
  constructor
  · obtain ⟨n, hn⟩ := tree.reaches_root parent
    obtain ⟨outcome, houtcome⟩ := exists_climbAncestors tree n hn
    exact ⟨outcome, n + 2, houtcome⟩
  · rintro outcome ⟨fuel, h⟩
    refine climbAncestors_spec tree ?_ h
    rintro p ⟨⟩

end

namespace DestinationDemo

/-- Directories by their numbers: `0` is the root, and `d` lies in `d / 2`. -/
def tree : DirectoryTree Nat where
  parent d := d / 2
  root := 0
  parent_root := rfl
  reaches_root d := by
    induction d using Nat.strongRecOn with
    | ind d ih =>
      by_cases hd : d = 0
      · exact ⟨0, hd⟩
      · obtain ⟨n, hn⟩ := ih (d / 2) (by omega)
        exact ⟨n + 1, hn⟩

/-- `13` lies in `6`, that in `3`, that in `1` and that in the root: a source `3` is refused, and a
source `5` is not. -/
theorem tree_rejects : (∃ outcome, RejectSourceAncestor tree 3 13 outcome ∧ Raises outcome) ∧
    ∃ outcome, RejectSourceAncestor tree 5 13 outcome ∧ ¬ Raises outcome := by
  constructor
  · obtain ⟨outcome, h⟩ := (rejectSourceAncestor_iff tree 3 13).1
    exact ⟨outcome, h, ((rejectSourceAncestor_iff tree 3 13).2 outcome h).mpr ⟨2, rfl⟩⟩
  · exact ⟨.ok (), ⟨6, rfl⟩, not_raises_ok⟩

end DestinationDemo

/-! ### The directories of a candidate -/

/-- `"/".join(parts[:index])` for the indices from 1 to the number of parts. -/
def leadingPaths (item : Text) : List Text :=
  (List.range (item.splitOn '/').length).map fun i =>
    List.intercalate ['/'] ((item.splitOn '/').take (i + 1))

/-- `f"skills/{skill_name}"`. -/
def childPath (skillName : Text) : Text := "skills/".toList ++ skillName

/-- The order of `(value.count("/"), value)`. -/
def ShallowerLe (a b : Text) : Prop :=
  a.count '/' < b.count '/' ∨ (a.count '/' = b.count '/' ∧ a ≤ b)

instance : DecidableRel ShallowerLe := fun _ _ => inferInstanceAs (Decidable (_ ∨ _ ∧ _))

/-- `_directory_paths`. -/
def directoryPaths (skillName : PackageName) (sourceDirectories : List PortablePath)
    (files : List PluginCapturedFile) : List Text :=
  let items := sourceDirectories.map (·.val) ++ files.map fun f => parentText f.val.path.val
  let below := (items.filter (· ≠ [])).flatMap fun item =>
    (leadingPaths item).map fun path => childPath skillName.val ++ '/' :: path
  ("skills".toList :: childPath skillName.val :: below).dedup.insertionSort ShallowerLe

/-- `_create_directories`, from the directories that exist below the root. -/
def createDirectories (usable : Text → Bool) (existing : List (List Text)) (paths : List Text) :
    Except Fault (List (List Text)) :=
  createAll usable existing (paths.map fun path => path.splitOn '/')

/-! ### Their order -/

theorem leadingPaths_cons (s t : Text) (hs : '/' ∉ s) :
    leadingPaths (s ++ '/' :: t) = s :: (leadingPaths t).map fun path => s ++ '/' :: path := by
  have hsplit : (s ++ '/' :: t).splitOn '/' = s :: t.splitOn '/' :=
    List.splitOn_append_cons_self_of_not_mem hs t
  rw [leadingPaths, leadingPaths, hsplit, List.length_cons, List.range_succ_eq_map, List.map_cons, List.map_map,
    List.map_map]
  refine congrArg₂ List.cons ?_ (List.map_congr_left fun i hi => ?_)
  · simp
  · rcases ht : t.splitOn '/' with - | ⟨u, us⟩
    · exact absurd ht (List.splitOn_ne_nil _ _)
    · show List.intercalate ['/'] (s :: u :: us.take i) = s ++ '/' :: List.intercalate ['/'] (u :: us.take i)
      rw [List.intercalate_cons_cons, List.append_assoc]
      rfl

/-- The leading paths of an item are itself and the directories above it. -/
theorem mem_leadingPaths {item path : Text} :
    path ∈ leadingPaths item ↔ path = item ∨ Above '/' path item := by
  induction hn : item.length using Nat.strongRecOn generalizing item path with
  | ind n ih =>
    by_cases hslash : '/' ∈ item
    · obtain ⟨s, t, rfl, hs⟩ := List.eq_append_cons_of_mem hslash
      have ht : ∀ r, r ∈ leadingPaths t ↔ r = t ∨ Above '/' r t := fun r =>
        ih t.length (by rw [← hn, List.length_append, List.length_cons]; omega) rfl
      rw [leadingPaths_cons s t hs, List.mem_cons, List.mem_map, above_append_iff,
        or_iff_right (not_above_of_not_mem hs)]
      constructor
      · rintro (rfl | ⟨r, hr, rfl⟩)
        · exact Or.inr (Or.inl rfl)
        · rcases (ht r).mp hr with rfl | habove
          · exact Or.inl rfl
          · exact Or.inr (Or.inr ⟨r, rfl, habove⟩)
      · rintro (rfl | rfl | ⟨r, rfl, habove⟩)
        · exact Or.inr ⟨t, (ht t).mpr (Or.inl rfl), rfl⟩
        · exact Or.inl rfl
        · exact Or.inr ⟨r, (ht r).mpr (Or.inr habove), rfl⟩
    · have hsplit : item.splitOn '/' = [item] := List.splitOn_eq_singleton hslash
      rw [leadingPaths, hsplit, or_iff_left (not_above_of_not_mem hslash)]
      simp

/-- A path is a name, or a name below its parent. -/
theorem parentText_cases (path : Text) :
    ('/' ∉ path ∧ parentText path = []) ∨ ∃ name, '/' ∉ name ∧ path = parentText path ++ '/' :: name := by
  by_cases hslash : '/' ∈ path
  · right
    have hne := List.splitOn_ne_nil '/' path
    refine ⟨(path.splitOn '/').getLast hne, Segments.not_mem_of_mem_splitOn (List.getLast_mem hne), ?_⟩
    have hinit : (path.splitOn '/').dropLast ≠ [] := by
      intro hnil
      obtain ⟨s, t, rfl, hs⟩ := List.eq_append_cons_of_mem hslash
      rw [List.splitOn_append_cons_self_of_not_mem hs, List.dropLast_cons_of_ne_nil (List.splitOn_ne_nil _ _)] at hnil
      cases hnil
    have hjoin := Segments.intercalate_append (a := '/') hinit (List.cons_ne_nil ((path.splitOn '/').getLast hne) [])
    rw [List.dropLast_append_getLast, List.intercalate_splitOn, List.intercalate_singleton] at hjoin
    exact hjoin
  · left
    refine ⟨hslash, ?_⟩
    rw [parentText, List.splitOn_eq_singleton hslash]
    rfl

/-- The leading paths of the parent of a file are the directories above the file. -/
theorem above_iff_leadingPaths {path item : Text} (hitem : Portable item) :
    (parentText item ≠ [] ∧ path ∈ leadingPaths (parentText item)) ↔ Above '/' path item := by
  rw [mem_leadingPaths]
  rcases parentText_cases item with ⟨hslash, hnil⟩ | ⟨name, hname, heq⟩
  · exact iff_of_false (fun h => h.1 hnil) (not_above_of_not_mem hslash)
  · have hne : parentText item ≠ [] := by
      intro hnil
      rw [hnil] at heq
      exact hitem.head?_ne (by rw [heq]; rfl)
    rw [and_iff_right hne]
    conv_rhs => rw [heq, above_append_iff]
    constructor
    · rintro (h | h)
      · exact Or.inl h
      · exact Or.inr (Or.inl h)
    · rintro (h | h | ⟨w, -, h⟩)
      · exact Or.inl h
      · exact Or.inr h
      · exact absurd h (not_above_of_not_mem hname)

section

variable {name : PackageName} {dirs : List PortablePath} {files : List PluginCapturedFile} {path q : Text}

theorem slash_not_mem_packageName (name : PackageName) : '/' ∉ name.val := by
  have hletters : ∀ c ∈ name.val, isLowerAlnum c = true ∨ c = '-' := by
    refine Rx.FullMatch.within ?_ ((Rx.fullmatch_iff _ _).mp name.2)
    exact ⟨⟨fun c hc => Or.inl hc, fun c hc => Or.inl hc⟩, fun c hc => Or.inr (beq_iff_eq.mp hc),
      fun c hc => Or.inl hc, fun c hc => Or.inl hc⟩
  intro hmem
  rcases hletters '/' hmem with h | h
  · exact absurd h (by decide)
  · exact absurd h (by decide)

/-- What is above the directory of the child: `skills`. -/
theorem above_childPath : Above '/' q (childPath name.val) ↔ q = "skills".toList := by
  have heq : childPath name.val = "skills".toList ++ '/' :: name.val := rfl
  rw [heq, above_append_iff]
  constructor
  · rintro (h | h | ⟨w, -, h⟩)
    · exact h
    · exact absurd h (not_above_of_not_mem (by decide))
    · exact absurd h (not_above_of_not_mem (slash_not_mem_packageName name))
  · exact Or.inl

/-- A source directory, or a directory above one or above a file. -/
def IsSourceDirectory (dirs : List PortablePath) (files : List PluginCapturedFile) (r : Text) : Prop :=
  (∃ d ∈ dirs, r = d.val ∨ Above '/' r d.val) ∨ ∃ f ∈ files, Above '/' r f.val.path.val

theorem IsSourceDirectory.above {r : Text} (h : IsSourceDirectory dirs files r) (hq : Above '/' q r) :
    IsSourceDirectory dirs files q := by
  rcases h with ⟨d, hd, rfl | h⟩ | ⟨f, hf, h⟩
  · exact Or.inl ⟨d, hd, Or.inr hq⟩
  · exact Or.inl ⟨d, hd, Or.inr (hq.trans h)⟩
  · exact Or.inr ⟨f, hf, hq.trans h⟩

/-- The members of the result. -/
theorem mem_directoryPaths :
    path ∈ directoryPaths name dirs files ↔
      path = "skills".toList ∨ path = childPath name.val ∨
        ∃ r, path = childPath name.val ++ '/' :: r ∧ IsSourceDirectory dirs files r := by
  rw [directoryPaths, List.mem_insertionSort, List.mem_dedup, List.mem_cons, List.mem_cons, List.mem_flatMap]
  refine or_congr_right (or_congr_right ?_)
  constructor
  · rintro ⟨item, hitem, hpath⟩
    obtain ⟨r, hr, rfl⟩ := List.mem_map.mp hpath
    refine ⟨r, rfl, ?_⟩
    obtain ⟨hmem, hne⟩ := List.mem_filter.mp hitem
    rcases List.mem_append.mp hmem with hmem | hmem
    · obtain ⟨d, hd, rfl⟩ := List.mem_map.mp hmem
      exact Or.inl ⟨d, hd, mem_leadingPaths.mp hr⟩
    · obtain ⟨f, hf, rfl⟩ := List.mem_map.mp hmem
      exact Or.inr ⟨f, hf, (above_iff_leadingPaths (portable_iff.mp f.val.path.2)).mp ⟨of_decide_eq_true hne, hr⟩⟩
  · rintro ⟨r, rfl, ⟨d, hd, hr⟩ | ⟨f, hf, hr⟩⟩
    · have hne : d.val ≠ [] := (portable_iff.mp d.2).ne_nil
      refine ⟨d.val, List.mem_filter.mpr ⟨?_, decide_eq_true hne⟩, ?_⟩
      · exact List.mem_append_left _ (List.mem_map_of_mem hd)
      · exact List.mem_map_of_mem (mem_leadingPaths.mpr hr)
    · obtain ⟨hne, hlead⟩ := (above_iff_leadingPaths (portable_iff.mp f.val.path.2)).mpr hr
      refine ⟨_, List.mem_filter.mpr ⟨?_, decide_eq_true hne⟩, List.mem_map_of_mem hlead⟩
      exact List.mem_append_right _ (List.mem_map_of_mem hf)

/-- What is above a member is a member. -/
theorem mem_directoryPaths_of_above (hpath : path ∈ directoryPaths name dirs files) (hq : Above '/' q path) :
    q ∈ directoryPaths name dirs files := by
  rw [mem_directoryPaths] at hpath ⊢
  rcases hpath with rfl | rfl | ⟨r, rfl, hr⟩
  · exact absurd hq (not_above_of_not_mem (by decide))
  · exact Or.inl (above_childPath.mp hq)
  · rcases above_append_iff.mp hq with rfl | hq | ⟨w, rfl, hw⟩
    · exact Or.inr (Or.inl rfl)
    · exact Or.inl (above_childPath.mp hq)
    · exact Or.inr (Or.inr ⟨w, rfl, hr.above hw⟩)

instance : Std.Total ShallowerLe where
  total a b := by
    rcases lt_trichotomy (a.count '/') (b.count '/') with h | h | h
    · exact Or.inl (Or.inl h)
    · rcases le_total a b with hle | hle
      · exact Or.inl (Or.inr ⟨h, hle⟩)
      · exact Or.inr (Or.inr ⟨h.symm, hle⟩)
    · exact Or.inr (Or.inl h)

instance : IsTrans Text ShallowerLe where
  trans a b c hab hbc := by
    rcases hab with hab | ⟨hab, hle⟩ <;> rcases hbc with hbc | ⟨hbc, hle'⟩
    · exact Or.inl (hab.trans hbc)
    · exact Or.inl (hbc ▸ hab)
    · exact Or.inl (hab ▸ hbc)
    · exact Or.inr ⟨hab.trans hbc, hle.trans hle'⟩

/-- A directory above another has fewer separators. -/
theorem not_shallowerLe_of_above (h : Above '/' q path) : ¬ ShallowerLe path q := by
  obtain ⟨rest, rfl⟩ := h
  have hcount : (q ++ '/' :: rest).count '/' = q.count '/' + (rest.count '/' + 1) := by
    rw [List.count_append, List.count_cons_self]
  rintro (h | ⟨h, -⟩)
  · omega
  · omega

/-- A parent stands before its children. -/
theorem above_mem_before {before after : List Text}
    (heq : directoryPaths name dirs files = before ++ path :: after) (hq : Above '/' q path) : q ∈ before := by
  have hmem : q ∈ directoryPaths name dirs files :=
    mem_directoryPaths_of_above (heq ▸ List.mem_append_right _ List.mem_cons_self) hq
  have hsorted : (directoryPaths name dirs files).Pairwise ShallowerLe := List.pairwise_insertionSort _ _
  rw [heq] at hmem hsorted
  rcases List.mem_append.mp hmem with hmem | hmem
  · exact hmem
  · rcases List.mem_cons.mp hmem with rfl | hmem
    · obtain ⟨rest, hrest⟩ := hq
      have hlength := congrArg List.length hrest
      rw [List.length_append, List.length_cons] at hlength
      omega
    · have hle := (List.pairwise_cons.mp (List.pairwise_append.mp hsorted).2.1).1 q hmem
      exact absurd hle (not_shallowerLe_of_above hq)

/-- The shorter segments of a path are those of a directory above it. -/
theorem above_of_prefix {segments : List Text} (hne : segments ≠ []) (hleading : segments <+: path.splitOn '/')
    (hproper : segments ≠ path.splitOn '/') : ∃ q, q.splitOn '/' = segments ∧ Above '/' q path := by
  obtain ⟨rest, hrest⟩ := hleading
  have hfree : ∀ s ∈ segments, '/' ∉ s := fun s hs =>
    Segments.not_mem_of_mem_splitOn (hrest ▸ List.mem_append_left rest hs)
  have hrestne : rest ≠ [] := by
    rintro rfl
    exact hproper (by rw [← hrest, List.append_nil])
  refine ⟨List.intercalate ['/'] segments, List.splitOn_intercalate '/' hfree hne, List.intercalate ['/'] rest, ?_⟩
  rw [← Segments.intercalate_append hne hrestne, hrest, List.intercalate_splitOn]

/-- **A creation order**: no directory twice, the wrapper and below it the source directories
and what is above a directory or a file, closed under parents, each parent before its
children; on an empty root the directories are made one after another, unless the host
takes no such name. -/
theorem directoryPaths_creation_order (name : PackageName) (dirs : List PortablePath)
    (files : List PluginCapturedFile) :
    (directoryPaths name dirs files).Nodup ∧
    (∀ path, path ∈ directoryPaths name dirs files ↔
      path = "skills".toList ∨ path = childPath name.val ∨
        ∃ r, path = childPath name.val ++ '/' :: r ∧
          ((∃ d ∈ dirs, r = d.val ∨ Above '/' r d.val) ∨ ∃ f ∈ files, Above '/' r f.val.path.val)) ∧
    (∀ path ∈ directoryPaths name dirs files, ∀ q, Above '/' q path → q ∈ directoryPaths name dirs files) ∧
    (∀ before path after, directoryPaths name dirs files = before ++ path :: after →
      ∀ q, Above '/' q path → q ∈ before) ∧
    ∀ usable : Text → Bool, createDirectories usable [] (directoryPaths name dirs files) =
      if ∀ path ∈ directoryPaths name dirs files, ∀ part ∈ path.splitOn '/', usable part = true then
        .ok ((directoryPaths name dirs files).map fun path => path.splitOn '/')
      else .error .refused := by
  have hnodup : (directoryPaths name dirs files).Nodup :=
    (List.perm_insertionSort ShallowerLe _).nodup_iff.mpr (List.nodup_dedup _)
  refine ⟨hnodup, fun path => mem_directoryPaths, fun path hpath q => mem_directoryPaths_of_above hpath,
    fun before path after heq q => above_mem_before heq, fun usable => ?_⟩
  -- the parts determine the path
  have hinjective : Function.Injective fun path : Text => path.splitOn '/' := by
    intro p q hpq
    have hjoin : ∀ t : Text, List.intercalate ['/'] (t.splitOn '/') = t := fun t => List.intercalate_splitOn '/'
    rw [← hjoin p, ← hjoin q]
    exact congrArg (List.intercalate ['/']) hpq
  rw [createDirectories, createAll_eq]
  · simp only [List.nil_append, List.forall_mem_map]
  · simp
  · intro p hp
    obtain ⟨path, -, rfl⟩ := List.mem_map.mp hp
    exact List.splitOn_ne_nil _ _
  · rw [List.nil_append]
    exact hnodup.map hinjective
  · intro before p after heq segments hne hleading hproper
    obtain ⟨before', rest, hlist, rfl, hrest⟩ := List.map_eq_append_iff.mp heq
    obtain ⟨path, after', rfl, rfl, rfl⟩ := List.map_eq_cons_iff.mp hrest
    obtain ⟨q, rfl, hq⟩ := above_of_prefix hne hleading hproper
    exact List.mem_map_of_mem (above_mem_before hlist hq)

end

end SkillsSdk

/-
SkillsSdk/Lib/Directories.lean

Directories: trees that are given by parent links, and the creation of
directories below an empty root.

A tree is climbed towards its root, which is its own parent.  Directories are
created one after another, each by opening the parents and making the last name;
a list of paths without repetition in which the parents of each path stand
before it is created as it is (`createAll_eq`).
-/
import Mathlib.Data.List.Infix
import Mathlib.Data.List.Nodup
import Mathlib.Logic.Function.Iterate

namespace Directories

/-! ### Parent links -/

/-- Directories with parent links: every climb ends at the root, its own parent. -/
structure DirectoryTree (α : Type*) where
  parent : α → α
  root : α
  parent_root : parent root = root
  reaches_root : ∀ d, ∃ n, parent^[n] d = root

namespace DirectoryTree

variable {α : Type*} (tree : DirectoryTree α)

/-- The directory itself, its parent, and so on up to the root. -/
def IsAncestor (a d : α) : Prop := ∃ n, tree.parent^[n] d = a

theorem isAncestor_iff {a d : α} : tree.IsAncestor a d ↔ d = a ∨ tree.IsAncestor a (tree.parent d) := by
  constructor
  · rintro ⟨n, hn⟩
    cases n with
    | zero => exact Or.inl hn
    | succ n => exact Or.inr ⟨n, hn⟩
  · rintro (rfl | ⟨n, hn⟩)
    · exact ⟨0, rfl⟩
    · exact ⟨n + 1, hn⟩

/-- A directory that is its own parent has no other ancestor. -/
theorem isAncestor_of_fixed {a d : α} (h : tree.parent d = d) : tree.IsAncestor a d ↔ d = a := by
  constructor
  · rintro ⟨n, hn⟩
    rwa [Function.iterate_fixed h n] at hn
  · rintro rfl
    exact ⟨0, rfl⟩

end DirectoryTree

/-! ### Paths with a separator -/

section

variable {α : Type*} {sep : α} {p q u v : List α}

/-- The text is that of a directory above the other. -/
def Above (sep : α) (q p : List α) : Prop := ∃ rest, p = q ++ sep :: rest

/-- Above two paths that are joined: the first, what is above it, and what is above
the second below the first. -/
theorem above_append_iff :
    Above sep q (u ++ sep :: v) ↔ q = u ∨ Above sep q u ∨ ∃ w, q = u ++ sep :: w ∧ Above sep w v := by
  constructor
  · rintro ⟨rest, h⟩
    rcases List.append_eq_append_iff.mp h with ⟨w, hq, hv⟩ | ⟨w, hu, hrest⟩
    · rcases w with - | ⟨c, w⟩
      · exact Or.inl (by simpa using hq)
      · obtain ⟨rfl, rfl⟩ := List.cons.inj hv
        exact Or.inr (Or.inr ⟨w, hq, rest, rfl⟩)
    · rcases w with - | ⟨c, w⟩
      · exact Or.inl (by simpa using hu.symm)
      · obtain ⟨rfl, -⟩ := List.cons.inj hrest
        exact Or.inr (Or.inl ⟨w, hu⟩)
  · rintro (rfl | ⟨rest, rfl⟩ | ⟨w, rfl, rest, rfl⟩)
    · exact ⟨v, rfl⟩
    · exact ⟨rest ++ sep :: v, by simp⟩
    · exact ⟨rest, by simp⟩

theorem not_above_of_not_mem (h : sep ∉ p) : ¬ Above sep q p := by
  rintro ⟨rest, rfl⟩
  exact h (by simp)

theorem Above.trans (h : Above sep u q) (h' : Above sep q p) : Above sep u p := by
  obtain ⟨rest, rfl⟩ := h
  obtain ⟨rest', rfl⟩ := h'
  exact ⟨rest ++ sep :: rest', by simp⟩

end

/-! ### Creation -/

section

variable {α : Type*} [DecidableEq α]

/-- Why a call fails: a directory on the way is missing, the directory exists, or the
host takes no such name. -/
inductive Fault where
  | missing
  | exists
  | refused
  deriving DecidableEq

/-- Open a directory below an open one. -/
def openChild (usable : α → Bool) (dirs : List (List α)) (parent : List α) (name : α) :
    Except Fault (List α) :=
  if usable name then
    if parent ++ [name] ∈ dirs then .ok (parent ++ [name]) else .error .missing
  else .error .refused

/-- Make a directory below an open one. -/
def makeChild (usable : α → Bool) (dirs : List (List α)) (parent : List α) (name : α) :
    Except Fault (List (List α)) :=
  if usable name then
    if parent ++ [name] ∈ dirs then .error .exists else .ok (dirs ++ [parent ++ [name]])
  else .error .refused

/-- Open the directories on the way to a path and make the last. -/
def createPath (usable : α → Bool) (dirs : List (List α)) (path : List α) : Except Fault (List (List α)) :=
  match path.getLast? with
  | none => .ok dirs
  | some name => do
    let parent ← path.dropLast.foldlM (openChild usable dirs) []
    makeChild usable dirs parent name

def createAll (usable : α → Bool) (dirs : List (List α)) (paths : List (List α)) :
    Except Fault (List (List α)) :=
  paths.foldlM (createPath usable) dirs

variable {usable : α → Bool} {dirs : List (List α)}

/-- Directories that exist are opened one after another. -/
theorem foldlM_openChild {names parent : List α} (husable : ∀ n ∈ names, usable n = true)
    (hdirs : ∀ q, q ≠ [] → q <+: names → parent ++ q ∈ dirs) :
    names.foldlM (openChild usable dirs) parent = .ok (parent ++ names) := by
  induction names generalizing parent with
  | nil =>
    rw [List.append_nil]
    rfl
  | cons n names ih =>
    have hfirst : parent ++ [n] ∈ dirs := hdirs [n] (by simp) ⟨names, rfl⟩
    have hopen : openChild usable dirs parent n = .ok (parent ++ [n]) := by
      rw [openChild, if_pos (husable n List.mem_cons_self), if_pos hfirst]
    rw [List.foldlM_cons, hopen]
    show names.foldlM (openChild usable dirs) (parent ++ [n]) = _
    rw [ih (fun m hm => husable m (List.mem_cons_of_mem n hm))]
    · rw [List.append_assoc, List.singleton_append]
    · intro q hq hleading
      rw [List.append_assoc, List.singleton_append]
      exact hdirs (n :: q) (by simp) (List.cons_prefix_cons.mpr ⟨rfl, hleading⟩)

/-- The state in which a path can be created: what exists has names that the host takes,
the parents exist, and the path does not. -/
structure Ready (usable : α → Bool) (dirs : List (List α)) (path : List α) : Prop where
  usable : ∀ d ∈ dirs, ∀ n ∈ d, usable n = true
  ne_nil : path ≠ []
  parents : ∀ q, q ≠ [] → q <+: path → q ≠ path → q ∈ dirs
  fresh : path ∉ dirs

/-- A path is created unless the host refuses its last name. -/
theorem createPath_eq {path : List α} (h : Ready usable dirs path) :
    createPath usable dirs path =
      if ∀ n ∈ path, usable n = true then .ok (dirs ++ [path]) else .error .refused := by
  obtain ⟨names, name, rfl⟩ : ∃ names name, path = names ++ [name] :=
    ⟨_, _, (List.dropLast_append_getLast h.ne_nil).symm⟩
  have hnames : ∀ n ∈ names, usable n = true := by
    intro n hn
    refine h.usable names (h.parents names (List.ne_nil_of_mem hn) (List.prefix_append _ _) ?_) n hn
    intro heq
    simpa using congrArg List.length heq
  have hopen : names.foldlM (openChild usable dirs) [] = .ok names := by
    rw [foldlM_openChild hnames, List.nil_append]
    intro q hq hleading
    refine h.parents q hq (hleading.trans (List.prefix_append _ _)) ?_
    rintro rfl
    have hlength := hleading.length_le
    rw [List.length_append, List.length_singleton] at hlength
    omega
  have hall : (∀ n ∈ names ++ [name], usable n = true) ↔ usable name = true := by
    rw [List.forall_mem_append, List.forall_mem_singleton]
    exact and_iff_right hnames
  rw [createPath, List.getLast?_concat]
  dsimp only
  rw [List.dropLast_concat, hopen]
  show makeChild usable dirs names name = _
  rw [makeChild, if_neg h.fresh, if_congr hall rfl rfl]

/-- **Directories are created in their order**: without repetition, each behind its parents. -/
theorem createAll_eq {paths : List (List α)} (husable : ∀ d ∈ dirs, ∀ n ∈ d, usable n = true)
    (hne : ∀ p ∈ paths, p ≠ []) (hnodup : (dirs ++ paths).Nodup)
    (hparents : ∀ before p after, paths = before ++ p :: after →
      ∀ q, q ≠ [] → q <+: p → q ≠ p → q ∈ dirs ++ before) :
    createAll usable dirs paths =
      if ∀ p ∈ paths, ∀ n ∈ p, usable n = true then .ok (dirs ++ paths) else .error .refused := by
  induction paths generalizing dirs with
  | nil =>
    rw [List.append_nil, if_pos (by simp)]
    rfl
  | cons p paths ih =>
    -- the parents of the first path are there already
    have hready : Ready usable dirs p := by
      refine ⟨husable, hne p List.mem_cons_self, ?_, ?_⟩
      · intro q hq hleading hqp
        simpa using hparents [] p paths rfl q hq hleading hqp
      · intro hmem
        exact (List.nodup_append.mp hnodup).2.2 p hmem p List.mem_cons_self rfl
    have hstep : createAll usable dirs (p :: paths) =
        (createPath usable dirs p >>= fun dirs => createAll usable dirs paths) := List.foldlM_cons
    rw [hstep, createPath_eq hready]
    by_cases hp : ∀ n ∈ p, usable n = true
    · rw [if_pos hp]
      show createAll usable (dirs ++ [p]) paths = _
      rw [ih]
      · rw [List.append_assoc, List.singleton_append]
        refine if_congr ?_ rfl rfl
        rw [List.forall_mem_cons]
        exact (and_iff_right hp).symm
      · intro d hd
        rcases List.mem_append.mp hd with hd | hd
        · exact husable d hd
        · obtain rfl := List.mem_singleton.mp hd
          exact hp
      · exact fun q hq => hne q (List.mem_cons_of_mem p hq)
      · rwa [List.append_assoc, List.singleton_append]
      · intro before r after heq q hq hleading hqr
        rw [List.append_assoc, List.singleton_append]
        exact hparents (p :: before) r after (by rw [heq]; rfl) q hq hleading hqr
    · rw [if_neg hp, if_neg fun hall => hp (hall p List.mem_cons_self)]
      rfl

end

end Directories

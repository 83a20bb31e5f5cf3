/-
SkillsSdk/YamlCache.lean

The reuse of closed YAML parses: `_YamlCache` and `load_closed_yaml`.

Values are objects with identities, and a caller may write every object that it
can reach from what it was given.  The cache keeps its own copy of a value and
gives out copies of that copy, so the objects of the cache are a region that no
caller reaches (`Kept`).  Hence a load returns what a parse under the settings
of the moment would return (`Kept.load`), whatever was loaded, written or set
before.

A use of a text is a load of it through the cache.  The entries stand in the
order of their last uses (`Ordered`), and room is made from the front.
-/
import SkillsSdk.FileNames
import SkillsSdk.Lib.ObjectHeap
import SkillsSdk.Lib.Runs
import Mathlib.Algebra.Ring.Int.Defs

namespace SkillsSdk

open ObjectHeap Runs

/-! ### The loader -/

/-- What a caller may change of the closed loader: its limits and its tables of
constructors and resolvers, whose members are compared by `==`. -/
structure LoaderSettings (κ : Type*) where
  maxNodes : Nat
  maxDepth : Nat
  constructors : List (κ × κ)
  multiConstructors : List (κ × κ)
  implicitResolvers : List (κ × List κ)
  pathResolvers : List (κ × κ)

/-- The tuple that `_policy` returns, behind the loader itself. -/
structure YamlPolicy (κ : Type*) where
  nodes : Nat
  depth : Nat
  constructorItems : List (κ × κ)
  multiConstructorItems : List (κ × κ)
  resolverItems : List (κ × List κ)
  pathItems : List (κ × κ)
  deriving DecidableEq

/-- `_policy`. -/
def LoaderSettings.policy {κ : Type*} (s : LoaderSettings κ) : YamlPolicy κ :=
  ⟨s.maxNodes, s.maxDepth, s.constructors, s.multiConstructors,
    s.implicitResolvers.map fun m => (m.1, m.2), s.pathResolvers⟩

/-- The policy leaves out no setting. -/
theorem LoaderSettings.policy_injective {κ : Type*} :
    Function.Injective (LoaderSettings.policy (κ := κ)) := by
  rintro ⟨n, d, c, m, i, p⟩ ⟨n', d', c', m', i', p'⟩ h
  simp only [LoaderSettings.policy, Prod.mk.eta, List.map_id', YamlPolicy.mk.injEq] at h
  obtain ⟨rfl, rfl, rfl, rfl, rfl, rfl⟩ := h
  rfl

/-- How `_retained_size` counts an object by its type. -/
inductive ObjectKind where
  /-- `str`, `bytes`, `bool`, `int`, `float`, `NoneType` or `date`. -/
  | scalar
  /-- `dict` with its keys and values, `list`, `tuple` or `set`. -/
  | container
  | other
  deriving DecidableEq

/-- `yaml.load(text, Loader=_ClosedLoader)` under some settings, and the sizes that
`sys.getsizeof` gives to what it returns and to a text. -/
structure YamlRuntime (κ σ ε : Type*) where
  parse : LoaderSettings κ → PyStr → Except ε (ObjectHeap.Tree σ)
  kind : σ → ObjectKind
  getsizeof : ObjectHeap.Tree σ → Nat
  textSize : PyStr → Nat

variable {κ σ ε ι : Type*} (rt : YamlRuntime κ σ ε)

/-! ### Sizes -/

def maxEntries : Nat := 32

def maxInputBytes : Nat := 65536

def maxRetainedBytes : Int := 2 * 1024 * 1024

mutual

/-- `_retained_size`. -/
def retainedSize : ObjectHeap.Tree σ → Int → Nat → Int
  | .node label members, remaining, depth =>
    if depth > 128 then remaining + 1
    else if rt.getsizeof (.node label members) > remaining then rt.getsizeof (.node label members)
    else
      match rt.kind label with
      | .scalar => rt.getsizeof (.node label members)
      | .container => retainedMembers members (rt.getsizeof (.node label members)) remaining depth
      | .other => remaining + 1

/-- The loop over the members, with the size so far. -/
def retainedMembers : List (ObjectHeap.Tree σ) → Int → Int → Nat → Int
  | [], size, _, _ => size
  | t :: ts, size, remaining, depth =>
    if size + retainedSize t (remaining - size) (depth + 1) > remaining then
      size + retainedSize t (remaining - size) (depth + 1)
    else retainedMembers ts (size + retainedSize t (remaining - size) (depth + 1)) remaining depth

end

/-- The size of an entry: the source, the parsed tree and the bookkeeping. -/
def entrySize (text : PyStr) (parsed : ObjectHeap.Tree σ) : Int :=
  rt.textSize text + 1024 + retainedSize rt parsed (maxRetainedBytes - (rt.textSize text + 1024)) 0

/-- `len(text.encode("utf-8", errors="surrogatepass"))`. -/
def passedLength : PyStr → Nat
  | [] => 0
  | .scalar c :: s => (String.utf8EncodeChar c).length + passedLength s
  | .surrogate _ :: s => 3 + passedLength s

/-! ### The cache -/

structure YamlCacheEntry where
  text : PyStr
  /-- The address of the kept value. -/
  value : Nat
  size : Int

/-- `_YamlCache`, inside its scope; the least recently used entry stands first. -/
structure YamlCache (κ ι : Type*) where
  owner : ι
  entries : List YamlCacheEntry
  retainedBytes : Int
  policy : YamlPolicy κ

namespace YamlCache

/-- `clear`, when the policy is another one. -/
def refresh [DecidableEq κ] (c : YamlCache κ ι) (policy : YamlPolicy κ) : YamlCache κ ι :=
  if policy = c.policy then c else { c with entries := [], retainedBytes := 0, policy }

/-- `move_to_end`. -/
def touch (c : YamlCache κ ι) (e : YamlCacheEntry) : YamlCache κ ι :=
  { c with entries := c.entries.filter (·.text ≠ e.text) ++ [e] }

/-- The loop that makes room for an entry. -/
def makeRoom : List YamlCacheEntry → Int → Int → List YamlCacheEntry × Int
  | [], retained, _ => ([], retained)
  | e :: es, retained, size =>
    if maxEntries ≤ (e :: es).length ∨ retained + size > maxRetainedBytes then
      makeRoom es (retained - e.size) size
    else (e :: es, retained)

/-- Keep a new entry. -/
def insert (c : YamlCache κ ι) (e : YamlCacheEntry) : YamlCache κ ι :=
  { c with
    entries := (makeRoom c.entries c.retainedBytes e.size).1 ++ [e]
    retainedBytes := (makeRoom c.entries c.retainedBytes e.size).2 + e.size }

end YamlCache

/-! ### Loads -/

/-- A call of `load_closed_yaml`: who calls, with which text, and whether its type
is `str` itself. -/
structure LoadCall (ι : Type*) where
  owner : ι
  text : PyStr
  exact : Bool

/-- The objects of the process, those that callers were given, the settings of the
moment, the cache of the scope, and the texts that were loaded through it. -/
structure YamlState (κ σ ι : Type*) where
  heap : Heap σ
  held : List Nat
  settings : LoaderSettings κ
  cache : YamlCache κ ι
  uses : List PyStr

namespace YamlState

/-- The text was loaded through the cache. -/
def used [DecidableEq κ] (s : YamlState κ σ ι) (text : PyStr) : YamlState κ σ ι :=
  { s with cache := s.cache.refresh s.settings.policy, uses := s.uses ++ [text] }

/-- Give an object to the caller. -/
def give (s : YamlState κ σ ι) (heap : Heap σ) (a : Nat) : YamlState κ σ ι :=
  { s with heap, held := a :: s.held }

def withCache (s : YamlState κ σ ι) (cache : YamlCache κ ι) : YamlState κ σ ι := { s with cache }

end YamlState

/-- A value that the cache does not have. -/
def loadParsed (s : YamlState κ σ ι) (text : PyStr) (t : ObjectHeap.Tree σ) : Nat × YamlState κ σ ι :=
  let parsed := alloc s.heap t
  let size := entrySize rt text t
  if size ≤ maxRetainedBytes then
    let copy := deepCopy parsed.1 parsed.2
    (parsed.2, (s.give copy.1 parsed.2).withCache (s.cache.insert ⟨text, copy.2, size⟩))
  else (parsed.2, s.give parsed.1 parsed.2)

/-- What `load` does when the policy is up to date. -/
def loadKept (s : YamlState κ σ ι) (text : PyStr) : Except ε Nat × YamlState κ σ ι :=
  match s.cache.entries.find? (·.text = text) with
  | some e =>
    let copy := deepCopy s.heap e.value
    (.ok copy.2, (s.give copy.1 copy.2).withCache (s.cache.touch e))
  | none =>
    match rt.parse s.settings text with
    | .error e => (.error e, s)
    | .ok t => (.ok (loadParsed rt s text t).1, (loadParsed rt s text t).2)

/-- `_YamlCache.load`. -/
def load [DecidableEq κ] (s : YamlState κ σ ι) (text : PyStr) : Except ε Nat × YamlState κ σ ι :=
  loadKept rt (s.used text) text

/-- The cache is not asked. -/
def LoadCall.bypasses [DecidableEq ι] (call : LoadCall ι) (c : YamlCache κ ι) : Bool :=
  decide (c.owner ≠ call.owner) || !call.exact || decide (call.text.length > maxInputBytes) ||
    decide (passedLength call.text > maxInputBytes)

/-- `load_closed_yaml`: the address of the result, or what is raised. -/
def loadClosedYaml [DecidableEq κ] [DecidableEq ι] (s : YamlState κ σ ι) (call : LoadCall ι) :
    Except ε Nat × YamlState κ σ ι :=
  if call.bypasses s.cache then
    match rt.parse s.settings call.text with
    | .error e => (.error e, s)
    | .ok t => (.ok (alloc s.heap t).2, s.give (alloc s.heap t).1 (alloc s.heap t).2)
  else load rt s call.text

/-! ### Runs -/

/-- What happens in a scope: a load, a change of the settings, and what callers do
with the objects that they hold. -/
inductive YamlAction (κ σ ι : Type*) where
  | load (call : LoadCall ι)
  | set (settings : LoaderSettings κ)
  | write (a : Nat) (cell : Cell σ)
  | build (cell : Cell σ)

/-- A caller writes what it can reach, and from what it can reach. -/
def canTake (s : YamlState κ σ ι) : YamlAction κ σ ι → Prop
  | .write a cell => Reachable s.heap s.held a ∧ ∀ b ∈ cell.members, Reachable s.heap s.held b
  | .build cell => ∀ b ∈ cell.members, Reachable s.heap s.held b
  | .load _ | .set _ => True

def yamlStep [DecidableEq κ] [DecidableEq ι] (s : YamlState κ σ ι) : YamlAction κ σ ι → Option (YamlState κ σ ι)
  | .load call => some (loadClosedYaml rt s call).2
  | .set settings => some { s with settings }
  | .write a cell => some { s with heap := s.heap.set a cell }
  | .build cell => some (s.give (s.heap ++ [cell]) s.heap.length)

/-- `yaml_parse_scope` is entered. -/
def enterScope (settings : LoaderSettings κ) (owner : ι) : YamlState κ σ ι where
  heap := []
  held := []
  settings := settings
  cache := ⟨owner, [], 0, settings.policy⟩
  uses := []

/-! ### The counter and the order -/

/-- The counter is right and both bounds are kept. -/
structure Counted (c : YamlCache κ ι) : Prop where
  sum : c.retainedBytes = (c.entries.map (·.size)).sum
  bytes : c.retainedBytes ≤ maxRetainedBytes
  count : c.entries.length ≤ maxEntries

/-- The last use of `a` comes before the last use of `b`. -/
def UsedBefore (uses : List PyStr) (a b : PyStr) : Prop :=
  ∃ earlier later, uses = earlier ++ later ∧ a ∈ earlier ∧ a ∉ later ∧ b ∈ later

/-- The entries stand in the order of their last uses. -/
structure Ordered (uses : List PyStr) (entries : List YamlCacheEntry) : Prop where
  used : ∀ e ∈ entries, e.text ∈ uses
  recency : entries.Pairwise fun a b => UsedBefore uses a.text b.text

theorem UsedBefore.ne {uses : List PyStr} {a b : PyStr} (h : UsedBefore uses a b) : a ≠ b := by
  rintro rfl
  obtain ⟨earlier, later, -, -, hnot, hin⟩ := h
  exact hnot hin

/-- A use of another text does not change the order. -/
theorem UsedBefore.snoc {uses : List PyStr} {a b t : PyStr} (h : UsedBefore uses a b) (hat : a ≠ t) :
    UsedBefore (uses ++ [t]) a b := by
  obtain ⟨earlier, later, rfl, ha, hnot, hb⟩ := h
  refine ⟨earlier, later ++ [t], List.append_assoc _ _ _, ha, ?_, List.mem_append_left _ hb⟩
  intro hmem
  rcases List.mem_append.mp hmem with hmem | hmem
  · exact hnot hmem
  · exact hat (List.mem_singleton.mp hmem)

/-- A text that was used comes before the one that is used now. -/
theorem usedBefore_last {uses : List PyStr} {a t : PyStr} (ha : a ∈ uses) (hat : a ≠ t) :
    UsedBefore (uses ++ [t]) a t :=
  ⟨uses, [t], rfl, ha, fun h => hat (List.mem_singleton.mp h), List.mem_singleton_self t⟩

theorem Ordered.nil (uses : List PyStr) : Ordered uses [] :=
  ⟨fun _ h => absurd h List.not_mem_nil, List.Pairwise.nil⟩

theorem Ordered.sublist {uses : List PyStr} {entries entries' : List YamlCacheEntry}
    (h : Ordered uses entries) (hsub : entries'.Sublist entries) : Ordered uses entries' :=
  ⟨fun e he => h.used e (hsub.subset he), h.recency.sublist hsub⟩

/-- The entry that is used now goes to the end. -/
theorem Ordered.snoc {uses : List PyStr} {entries : List YamlCacheEntry} (h : Ordered uses entries)
    (e : YamlCacheEntry) (hnew : ∀ d ∈ entries, d.text ≠ e.text) :
    Ordered (uses ++ [e.text]) (entries ++ [e]) := by
  refine ⟨?_, List.pairwise_append.mpr ⟨?_, List.pairwise_singleton _ e, ?_⟩⟩
  · intro d hd
    rcases List.mem_append.mp hd with hd | hd
    · exact List.mem_append_left _ (h.used d hd)
    · obtain rfl := List.mem_singleton.mp hd
      exact List.mem_append_right _ (List.mem_singleton_self _)
  · exact h.recency.imp_of_mem fun ha _ hab => hab.snoc (hnew _ ha)
  · intro a ha b hb
    obtain rfl := List.mem_singleton.mp hb
    exact usedBefore_last (h.used a ha) (hnew a ha)

/-- The other entries, in their order. -/
theorem Ordered.filter_eq {uses : List PyStr} {l r : List YamlCacheEntry} {e : YamlCacheEntry}
    (h : Ordered uses (l ++ e :: r)) : (l ++ e :: r).filter (·.text ≠ e.text) = l ++ r := by
  obtain ⟨-, hr, hlr⟩ := List.pairwise_append.mp h.recency
  have hl : ∀ d ∈ l, d.text ≠ e.text := fun d hd => (hlr d hd e List.mem_cons_self).ne
  have hr : ∀ d ∈ r, d.text ≠ e.text := fun d hd => (List.rel_of_pairwise_cons hr hd).ne.symm
  rw [List.filter_append, List.filter_cons_of_neg (by simp),
    List.filter_eq_self.mpr fun d hd => by simpa using hl d hd,
    List.filter_eq_self.mpr fun d hd => by simpa using hr d hd]

namespace YamlCache

variable {c : YamlCache κ ι} {uses : List PyStr}

/-- Room is made from the front, and there is room then. -/
theorem makeRoom_spec (entries : List YamlCacheEntry) (retained size : Int) :
    ∃ dropped, entries = dropped ++ (makeRoom entries retained size).1 ∧
      (makeRoom entries retained size).2 = retained - (dropped.map (·.size)).sum ∧
      ((makeRoom entries retained size).1 = [] ∨
        (makeRoom entries retained size).1.length < maxEntries ∧
          (makeRoom entries retained size).2 + size ≤ maxRetainedBytes) := by
  induction entries generalizing retained with
  | nil => exact ⟨[], rfl, by simp [makeRoom], Or.inl rfl⟩
  | cons e es ih =>
    rw [makeRoom]
    split
    case isTrue =>
      obtain ⟨dropped, hes, hretained, hroom⟩ := ih (retained - e.size)
      refine ⟨e :: dropped, congrArg (e :: ·) hes, ?_, hroom⟩
      rw [hretained, List.map_cons, List.sum_cons]
      omega
    case isFalse hroom =>
      rw [not_or] at hroom
      exact ⟨[], rfl, by simp, Or.inr ⟨Nat.lt_of_not_le hroom.1, Int.not_lt.mp hroom.2⟩⟩

theorem refresh_cases [DecidableEq κ] (c : YamlCache κ ι) (policy : YamlPolicy κ) :
    c.refresh policy = c ∨ (c.refresh policy).entries = [] := by
  rw [refresh]
  split
  · exact Or.inl rfl
  · exact Or.inr rfl

theorem refresh_policy [DecidableEq κ] (c : YamlCache κ ι) (policy : YamlPolicy κ) :
    (c.refresh policy).policy = policy := by
  rw [refresh]
  split
  case isTrue h => exact h.symm
  case isFalse => rfl

theorem counted_refresh [DecidableEq κ] (h : Counted c) (policy : YamlPolicy κ) :
    Counted (c.refresh policy) := by
  rw [YamlCache.refresh]
  split
  · exact h
  · refine ⟨rfl, ?_, Nat.zero_le _⟩
    show (0 : Int) ≤ maxRetainedBytes
    decide

/-- An entry that is used again. -/
theorem counted_touch (h : Counted c) (ho : Ordered uses c.entries) {e : YamlCacheEntry}
    (he : e ∈ c.entries) : Counted (c.touch e) := by
  obtain ⟨l, r, hlr⟩ := List.append_of_mem he
  have hfilter : c.entries.filter (·.text ≠ e.text) = l ++ r := by
    rw [hlr] at ho ⊢
    exact ho.filter_eq
  refine ⟨?_, h.bytes, ?_⟩
  · show c.retainedBytes = ((c.entries.filter (·.text ≠ e.text) ++ [e]).map (·.size)).sum
    rw [hfilter, h.sum, hlr]
    simp only [List.map_append, List.map_cons, List.map_nil, List.sum_append, List.sum_cons, List.sum_nil]
    omega
  · show (c.entries.filter (·.text ≠ e.text) ++ [e]).length ≤ maxEntries
    have hcount := h.count
    rw [hlr] at hcount
    rw [hfilter]
    simp only [List.length_append, List.length_cons, List.length_nil] at hcount ⊢
    omega

theorem ordered_touch (ho : Ordered uses c.entries) (e : YamlCacheEntry) :
    Ordered (uses ++ [e.text]) (c.touch e).entries := by
  apply (ho.sublist List.filter_sublist).snoc
  intro d hd
  simpa using (List.mem_filter.mp hd).2

/-- An entry that is new. -/
theorem counted_insert (h : Counted c) {e : YamlCacheEntry} (hsize : e.size ≤ maxRetainedBytes) :
    Counted (c.insert e) := by
  obtain ⟨dropped, hentries, hretained, hroom⟩ := makeRoom_spec c.entries c.retainedBytes e.size
  have hsum : (makeRoom c.entries c.retainedBytes e.size).2 =
      ((makeRoom c.entries c.retainedBytes e.size).1.map (·.size)).sum := by
    have hall := congrArg (fun es => (es.map (·.size)).sum) hentries
    rw [List.map_append, List.sum_append, ← h.sum] at hall
    omega
  refine ⟨?_, ?_, ?_⟩
  · show (makeRoom c.entries c.retainedBytes e.size).2 + e.size =
      (((makeRoom c.entries c.retainedBytes e.size).1 ++ [e]).map (·.size)).sum
    rw [hsum]
    simp
  · show (makeRoom c.entries c.retainedBytes e.size).2 + e.size ≤ maxRetainedBytes
    rcases hroom with hnil | ⟨-, hbytes⟩
    · rw [hsum, hnil]
      simpa using hsize
    · exact hbytes
  · show ((makeRoom c.entries c.retainedBytes e.size).1 ++ [e]).length ≤ maxEntries
    rw [List.length_append]
    rcases hroom with hnil | ⟨hcount, -⟩
    · rw [hnil]
      exact Nat.one_le_iff_ne_zero.mpr (by decide)
    · exact hcount

theorem makeRoom_suffix (entries : List YamlCacheEntry) (retained size : Int) :
    (makeRoom entries retained size).1 <:+ entries := by
  obtain ⟨dropped, hentries, -⟩ := makeRoom_spec entries retained size
  exact ⟨dropped, hentries.symm⟩

theorem ordered_insert (ho : Ordered uses c.entries) {e : YamlCacheEntry}
    (hnew : ∀ d ∈ c.entries, d.text ≠ e.text) : Ordered (uses ++ [e.text]) (c.insert e).entries := by
  have hsuffix := makeRoom_suffix c.entries c.retainedBytes e.size
  exact (ho.sublist hsuffix.sublist).snoc e fun d hd => hnew d (hsuffix.subset hd)

end YamlCache

/-- Entries that are not used. -/
theorem Ordered.other {uses : List PyStr} {entries : List YamlCacheEntry} (h : Ordered uses entries)
    {t : PyStr} (hnew : ∀ d ∈ entries, d.text ≠ t) : Ordered (uses ++ [t]) entries :=
  ⟨fun e he => List.mem_append_left _ (h.used e he),
    h.recency.imp_of_mem fun ha _ hab => hab.snoc (hnew _ ha)⟩

/-- What is dropped was used less recently than all that is kept. -/
def DropsOldest (uses : List PyStr) (before after : List YamlCacheEntry) : Prop :=
  ∀ d ∈ before, (∀ e ∈ after, e.text ≠ d.text) → ∀ k ∈ after, UsedBefore uses d.text k.text

theorem DropsOldest.of_subset {uses : List PyStr} {before after : List YamlCacheEntry}
    (h : ∀ d ∈ before, ∃ e ∈ after, e.text = d.text) : DropsOldest uses before after := by
  intro d hd hdropped
  obtain ⟨e, he, htext⟩ := h d hd
  exact absurd htext (hdropped e he)

/-- Room is made from the front of the order, for an entry that is used now. -/
theorem Ordered.dropsOldest {uses : List PyStr} {entries rest : List YamlCacheEntry}
    (h : Ordered uses entries) (hsuffix : rest <:+ entries) (e : YamlCacheEntry) :
    DropsOldest (uses ++ [e.text]) entries (rest ++ [e]) := by
  obtain ⟨dropped, rfl⟩ := hsuffix
  obtain ⟨-, -, hbefore⟩ := List.pairwise_append.mp h.recency
  intro d hd hdropped k hk
  have hde : d.text ≠ e.text := (hdropped e (List.mem_append_right _ (List.mem_singleton_self e))).symm
  rcases List.mem_append.mp hd with hd' | hd'
  · rcases List.mem_append.mp hk with hk | hk
    · exact (hbefore d hd' k hk).snoc hde
    · obtain rfl := List.mem_singleton.mp hk
      exact usedBefore_last (h.used d hd) hde
  · exact absurd rfl (hdropped d (List.mem_append_left _ hd'))

/-! ### The values -/

/-- The cells of the cache are a region that no caller reaches, and the kept values
are those that a parse under the policy of the cache yields. -/
structure Kept (P : Nat → Prop) (s : YamlState κ σ ι) : Prop where
  apart : Apart P s.heap
  held : ∀ a ∈ s.held, ¬ P a ∧ a < s.heap.length
  values : ∀ e ∈ s.cache.entries, ∀ settings : LoaderSettings κ, settings.policy = s.cache.policy →
    ∃ t, rt.parse settings e.text = .ok t ∧ Holds P s.heap e.value t

/-- What a load comes to: the value of a parse, or the error that it raises. -/
def Returns (settings : LoaderSettings κ) (text : PyStr) (out : Except ε Nat × YamlState κ σ ι) : Prop :=
  match rt.parse settings text with
  | .error e => out.1 = .error e
  | .ok t => ∃ a, out.1 = .ok a ∧ valueAt out.2.heap a = some t

namespace Kept

variable {rt} {P : Nat → Prop} {s : YamlState κ σ ι}

theorem used [DecidableEq κ] (h : Kept rt P s) (text : PyStr) : Kept rt P (s.used text) := by
  refine ⟨h.apart, h.held, ?_⟩
  show ∀ e ∈ (s.cache.refresh s.settings.policy).entries, ∀ settings : LoaderSettings κ,
    settings.policy = (s.cache.refresh s.settings.policy).policy →
      ∃ t, rt.parse settings e.text = .ok t ∧ Holds P s.heap e.value t
  rcases s.cache.refresh_cases s.settings.policy with hsame | hnil
  · rw [hsame]
    exact h.values
  · rw [hnil]
    exact fun e he => absurd he List.not_mem_nil

/-- A value that is built for the caller. -/
theorem give_alloc (h : Kept rt P s) (t : ObjectHeap.Tree σ) :
    Kept rt P (s.give (alloc s.heap t).1 (alloc s.heap t).2) := by
  have hnew := (holds_alloc s.heap t).mem
  refine ⟨h.apart.alloc_outside t, ?_, ?_⟩
  · intro a ha
    rcases List.mem_cons.mp ha with rfl | ha
    · exact ⟨fun hP => absurd (h.apart.inside _ hP) (Nat.not_lt_of_le hnew.1), hnew.2⟩
    · obtain ⟨hP, hlt⟩ := h.held a ha
      exact ⟨hP, Nat.lt_of_lt_of_le hlt (alloc_extends s.heap t).length_le⟩
  · intro e he settings hpolicy
    obtain ⟨t', hparse, hholds⟩ := h.values e he settings hpolicy
    exact ⟨t', hparse, hholds.extend (fun _ hb => hb) (alloc_extends s.heap t)⟩

/-- A hit: the caller gets a copy. -/
theorem hit (h : Kept rt P s) {e : YamlCacheEntry} (he : e ∈ s.cache.entries)
    (hpolicy : s.settings.policy = s.cache.policy) :
    ∃ t, rt.parse s.settings e.text = .ok t ∧ deepCopy s.heap e.value = alloc s.heap t ∧
      Kept rt P ((s.give (alloc s.heap t).1 (alloc s.heap t).2).withCache (s.cache.touch e)) := by
  obtain ⟨t, hparse, hholds⟩ := h.values e he s.settings hpolicy
  obtain ⟨hapart, hheld, hvalues⟩ := h.give_alloc t
  refine ⟨t, hparse, hholds.deepCopy_eq, hapart, hheld, ?_⟩
  intro d hd
  apply hvalues d
  rcases List.mem_append.mp hd with hd | hd
  · exact List.mem_of_mem_filter hd
  · obtain rfl := List.mem_singleton.mp hd
    exact he

/-- A value that is kept: the cache has its own copy. -/
theorem parsed (h : Kept rt P s) {text : PyStr} {t : ObjectHeap.Tree σ}
    (hparse : rt.parse s.settings text = .ok t) (hpolicy : s.settings.policy = s.cache.policy) :
    ∃ Q, Kept rt Q (loadParsed rt s text t).2 := by
  rw [loadParsed]
  dsimp only
  split
  case isFalse => exact ⟨P, h.give_alloc t⟩
  case isTrue =>
    have hgiven := h.give_alloc t
    have hcopy : deepCopy (alloc s.heap t).1 (alloc s.heap t).2 = alloc (alloc s.heap t).1 t :=
      (holds_alloc s.heap t).deepCopy_eq
    rw [hcopy]
    have hapart := hgiven.apart.alloc_inside t
    have hleading := alloc_extends (alloc s.heap t).1 t
    refine ⟨_, hapart, ?_, ?_⟩
    · intro a ha
      obtain ⟨hP, hlt⟩ := hgiven.held a ha
      refine ⟨?_, Nat.lt_of_lt_of_le hlt hleading.length_le⟩
      rintro (hP' | hnew)
      · exact hP hP'
      · exact absurd hlt (Nat.not_lt_of_le hnew.1)
    · intro e he settings hsettings
      rcases List.mem_append.mp he with he | he
      · have hmem := (YamlCache.makeRoom_suffix _ _ _).subset he
        obtain ⟨t', hparse', hholds⟩ := hgiven.values e hmem settings hsettings
        exact ⟨t', hparse', hholds.extend (fun _ hb => Or.inl hb) hleading⟩
      · obtain rfl := List.mem_singleton.mp he
        obtain rfl : settings = s.settings :=
          LoaderSettings.policy_injective (hsettings.trans hpolicy.symm)
        exact ⟨t, hparse, (holds_alloc (alloc s.heap t).1 t).mono (fun _ hb => Or.inr hb)
          fun _ _ _ hcell => hcell⟩

theorem loadParsed_value (s : YamlState κ σ ι) (text : PyStr) (t : ObjectHeap.Tree σ) :
    valueAt (loadParsed rt s text t).2.heap (loadParsed rt s text t).1 = some t := by
  have hholds := holds_alloc s.heap t
  rw [loadParsed]
  dsimp only
  split
  case isFalse => exact hholds.valueAt_eq
  case isTrue =>
    rw [hholds.deepCopy_eq]
    exact (hholds.extend (fun _ hb => hb) (alloc_extends (alloc s.heap t).1 t)).valueAt_eq

end Kept

/-! ### One load -/

/-- What holds of a scope at any time. -/
structure Sound (s : YamlState κ σ ι) : Prop where
  kept : ∃ P, Kept rt P s
  counted : Counted s.cache
  ordered : Ordered s.uses s.cache.entries

/-- What a load does: the result, the state that it leaves, and what it drops. -/
structure LoadSpec (s : YamlState κ σ ι) (text : PyStr) (out : Except ε Nat × YamlState κ σ ι) : Prop where
  returns : Returns rt s.settings text out
  sound : Sound rt out.2
  drops : DropsOldest out.2.uses s.cache.entries out.2.cache.entries

variable {rt} {s : YamlState κ σ ι}

theorem YamlCache.refresh_suffix [DecidableEq κ] (c : YamlCache κ ι) (policy : YamlPolicy κ) :
    (c.refresh policy).entries <:+ c.entries := by
  rcases c.refresh_cases policy with h | h
  · simpa only [h] using List.suffix_refl c.entries
  · rw [h]
    exact List.nil_suffix

/-- Where nothing is kept, nothing or everything is dropped. -/
theorem YamlCache.refresh_dropsOldest [DecidableEq κ] (c : YamlCache κ ι) (policy : YamlPolicy κ)
    (uses : List PyStr) : DropsOldest uses c.entries (c.refresh policy).entries := by
  rcases c.refresh_cases policy with h | h
  · rw [h]
    exact .of_subset fun d hd => ⟨d, hd, rfl⟩
  · rw [h]
    exact fun _ _ _ k hk => absurd hk List.not_mem_nil

theorem returns_ok {settings : LoaderSettings κ} {text : PyStr} {t : ObjectHeap.Tree σ} {a : Nat}
    {s : YamlState κ σ ι} (hparse : rt.parse settings text = .ok t) (hvalue : valueAt s.heap a = some t) :
    Returns rt settings text (.ok a, s) := by
  rw [Returns, hparse]
  exact ⟨a, rfl, hvalue⟩

theorem returns_error {settings : LoaderSettings κ} {text : PyStr} {e : ε} {s : YamlState κ σ ι}
    (hparse : rt.parse settings text = .error e) : Returns rt settings text (.error e, s) := by
  rw [Returns, hparse]

theorem Sound.load_hit [DecidableEq κ] (h : Sound rt s) {text : PyStr} {e : YamlCacheEntry}
    (hfind : (s.used text).cache.entries.find? (·.text = text) = some e) :
    LoadSpec rt s text (load rt s text) := by
  obtain ⟨P, hkept⟩ := h.kept
  have he : e ∈ (s.used text).cache.entries := List.mem_of_find?_eq_some hfind
  obtain rfl : e.text = text := by simpa using List.find?_some hfind
  -- a policy that changed empties the cache, so an entry that is found was kept under it
  have hsame : s.cache.refresh s.settings.policy = s.cache := by
    rcases s.cache.refresh_cases s.settings.policy with hsame | hnil
    · exact hsame
    · have he' : e ∈ (s.cache.refresh s.settings.policy).entries := he
      rw [hnil] at he'
      exact absurd he' List.not_mem_nil
  have hcache : (s.used e.text).cache = s.cache := hsame
  rw [hcache] at he
  obtain ⟨t, hparse, hcopy, hkept'⟩ := (hkept.used e.text).hit (hcache.symm ▸ he)
    (s.cache.refresh_policy s.settings.policy).symm
  have hout : load rt s e.text = (.ok (alloc s.heap t).2,
      ((s.used e.text).give (alloc s.heap t).1 (alloc s.heap t).2).withCache (s.cache.touch e)) := by
    rw [load, loadKept, hfind]
    show (Except.ok (deepCopy (s.used e.text).heap e.value).2, _) = _
    rw [hcopy, hcache]
    rfl
  rw [hcache] at hkept'
  rw [hout]
  refine ⟨returns_ok hparse (holds_alloc s.heap t).valueAt_eq, ⟨⟨P, hkept'⟩, ?_, ?_⟩, ?_⟩
  · exact YamlCache.counted_touch h.counted h.ordered he
  · exact YamlCache.ordered_touch h.ordered e
  · apply DropsOldest.of_subset
    intro d hd
    by_cases hde : d.text = e.text
    · exact ⟨e, List.mem_append_right _ (List.mem_singleton_self e), hde.symm⟩
    · exact ⟨d, List.mem_append_left _ (List.mem_filter.mpr ⟨hd, by simpa using hde⟩), rfl⟩

theorem Sound.load_miss [DecidableEq κ] (h : Sound rt s) {text : PyStr}
    (hfind : (s.used text).cache.entries.find? (·.text = text) = none) :
    LoadSpec rt s text (load rt s text) := by
  obtain ⟨P, hkept⟩ := h.kept
  have hkept' := hkept.used text
  have hpolicy : (s.used text).settings.policy = (s.used text).cache.policy :=
    (s.cache.refresh_policy s.settings.policy).symm
  have hsuffix : (s.used text).cache.entries <:+ s.cache.entries :=
    s.cache.refresh_suffix s.settings.policy
  have hordered := h.ordered.sublist hsuffix.sublist
  have hcounted : Counted (s.used text).cache := YamlCache.counted_refresh h.counted s.settings.policy
  -- no entry has the text, so the one that is kept is new
  have hnew : ∀ d ∈ (s.used text).cache.entries, d.text ≠ text := by
    intro d hd htext
    simpa [htext] using List.find?_eq_none.mp hfind d hd
  have hdrops := s.cache.refresh_dropsOldest s.settings.policy (s.uses ++ [text])
  rw [load, loadKept, hfind]
  show LoadSpec rt s text (match rt.parse s.settings text with
    | .error e => (.error e, s.used text)
    | .ok t => (.ok (loadParsed rt (s.used text) text t).1, (loadParsed rt (s.used text) text t).2))
  -- an error is returned and not kept
  cases hparse : rt.parse s.settings text with
  | error e => exact ⟨returns_error hparse, ⟨⟨P, hkept'⟩, hcounted, hordered.other hnew⟩, hdrops⟩
  | ok t =>
    have hreturns : Returns rt s.settings text
        (.ok (loadParsed rt (s.used text) text t).1, (loadParsed rt (s.used text) text t).2) :=
      returns_ok hparse (Kept.loadParsed_value (s.used text) text t)
    refine ⟨hreturns, ⟨hkept'.parsed hparse hpolicy, ?_, ?_⟩, ?_⟩
    · show Counted (loadParsed rt (s.used text) text t).2.cache
      rw [loadParsed]
      dsimp only
      split
      case isTrue hsize => exact YamlCache.counted_insert hcounted hsize
      case isFalse => exact hcounted
    · show Ordered (loadParsed rt (s.used text) text t).2.uses
        (loadParsed rt (s.used text) text t).2.cache.entries
      rw [loadParsed]
      dsimp only
      split
      case isTrue hsize => exact YamlCache.ordered_insert (e := ⟨text, _, _⟩) hordered hnew
      case isFalse => exact hordered.other hnew
    · show DropsOldest (loadParsed rt (s.used text) text t).2.uses s.cache.entries
        (loadParsed rt (s.used text) text t).2.cache.entries
      rw [loadParsed]
      dsimp only
      split
      case isTrue hsize =>
        exact h.ordered.dropsOldest ((YamlCache.makeRoom_suffix _ _ _).trans hsuffix) _
      case isFalse => exact hdrops

/-- `load_closed_yaml`, by its owner or around the cache. -/
theorem Sound.loadClosedYaml [DecidableEq κ] [DecidableEq ι] (h : Sound rt s) (call : LoadCall ι) :
    LoadSpec rt s call.text (loadClosedYaml rt s call) := by
  rw [SkillsSdk.loadClosedYaml]
  split
  case isFalse =>
    cases hfind : (s.used call.text).cache.entries.find? (·.text = call.text) with
    | some e => exact h.load_hit hfind
    | none => exact h.load_miss hfind
  case isTrue =>
    obtain ⟨P, hkept⟩ := h.kept
    cases hparse : rt.parse s.settings call.text with
    | error e => exact ⟨returns_error hparse, h, .of_subset fun d hd => ⟨d, hd, rfl⟩⟩
    | ok t =>
      exact ⟨returns_ok hparse (holds_alloc s.heap t).valueAt_eq,
        ⟨⟨P, hkept.give_alloc t⟩, h.counted, h.ordered⟩, .of_subset fun d hd => ⟨d, hd, rfl⟩⟩

/-! ### Runs -/

theorem sound_enterScope (settings : LoaderSettings κ) (owner : ι) :
    Sound rt (enterScope settings owner : YamlState κ σ ι) :=
  ⟨⟨_, .empty, fun a ha => absurd ha List.not_mem_nil, fun e he => absurd he List.not_mem_nil⟩,
    ⟨rfl, (by decide : (0 : Int) ≤ maxRetainedBytes), Nat.zero_le _⟩, .nil []⟩

/-- What callers do with their objects does not touch the cache. -/
theorem Kept.step_holder {P : Nat → Prop} (h : Kept rt P s) {a : Nat} {cell : Cell σ}
    (ha : Reachable s.heap s.held a) (hmembers : ∀ b ∈ cell.members, Reachable s.heap s.held b) :
    Kept rt P { s with heap := s.heap.set a cell } := by
  refine ⟨h.apart.set h.held a cell hmembers, ?_, ?_⟩
  · intro b hb
    rw [List.length_set]
    exact h.held b hb
  · intro e he settings hpolicy
    obtain ⟨t, hparse, hholds⟩ := h.values e he settings hpolicy
    exact ⟨t, hparse, hholds.set (h.apart.reachable h.held ha).1 cell⟩

theorem Kept.step_build {P : Nat → Prop} (h : Kept rt P s) {cell : Cell σ}
    (hmembers : ∀ b ∈ cell.members, Reachable s.heap s.held b) :
    Kept rt P (s.give (s.heap ++ [cell]) s.heap.length) := by
  have hlen : (s.heap ++ [cell]).length = s.heap.length + 1 := List.length_append
  refine ⟨h.apart.append h.held cell hmembers, ?_, ?_⟩
  · intro b hb
    show ¬ P b ∧ b < (s.heap ++ [cell]).length
    rw [hlen]
    rcases List.mem_cons.mp hb with rfl | hb
    · exact ⟨fun hP => absurd (h.apart.inside _ hP) (Nat.lt_irrefl _), Nat.lt_succ_self _⟩
    · exact ⟨(h.held b hb).1, Nat.lt_succ_of_lt (h.held b hb).2⟩
  · intro e he settings hpolicy
    obtain ⟨t, hparse, hholds⟩ := h.values e he settings hpolicy
    exact ⟨t, hparse, hholds.extend (fun _ hb => hb) (List.prefix_append _ _)⟩

theorem Sound.step [DecidableEq κ] [DecidableEq ι] {s' : YamlState κ σ ι} {a : YamlAction κ σ ι}
    (h : Sound rt s) (ha : canTake s a) (hstep : yamlStep rt s a = some s') : Sound rt s' := by
  obtain ⟨P, hkept⟩ := h.kept
  cases a with
  | load call =>
    obtain rfl := Option.some.inj hstep
    exact (h.loadClosedYaml call).sound
  | set settings =>
    obtain rfl := Option.some.inj hstep
    exact ⟨⟨P, hkept.apart, hkept.held, hkept.values⟩, h.counted, h.ordered⟩
  | write a cell =>
    obtain rfl := Option.some.inj hstep
    exact ⟨⟨P, hkept.step_holder ha.1 ha.2⟩, h.counted, h.ordered⟩
  | build cell =>
    obtain rfl := Option.some.inj hstep
    exact ⟨⟨P, hkept.step_build ha⟩, h.counted, h.ordered⟩

theorem sound_of_reaches [DecidableEq κ] [DecidableEq ι] {settings : LoaderSettings κ} {owner : ι}
    (h : Reaches (yamlStep rt) canTake (enterScope settings owner) s) : Sound rt s :=
  h.invariant (sound_enterScope settings owner) fun _ _ _ hs ha hstep => hs.step ha hstep

/-- **The cache is transparent and bounded.**  After any run in a scope the counter and
the order are right, and the next load returns what a parse under the settings of
the moment returns, and drops only what was used less recently than all it keeps. -/
theorem load_transparent [DecidableEq κ] [DecidableEq ι] {settings : LoaderSettings κ} {owner : ι}
    (h : Reaches (yamlStep rt) canTake (enterScope settings owner) s) (call : LoadCall ι) :
    Counted s.cache ∧ Ordered s.uses s.cache.entries ∧
      Returns rt s.settings call.text (loadClosedYaml rt s call) ∧
      DropsOldest (SkillsSdk.loadClosedYaml rt s call).2.uses s.cache.entries
        (SkillsSdk.loadClosedYaml rt s call).2.cache.entries := by
  have hsound := sound_of_reaches h
  have hload := hsound.loadClosedYaml call
  exact ⟨hsound.counted, hsound.ordered, hload.returns, hload.drops⟩

namespace CacheDemo

/-- A loader that reads every text as a list of one number, the node limit. -/
def runtime : YamlRuntime Unit Nat Unit where
  parse := fun settings _ => .ok (.node 0 [.node settings.maxNodes []])
  kind := fun label => if label = 0 then .container else .scalar
  getsizeof := fun _ => 64
  textSize := fun text => 49 + text.length

def settings : LoaderSettings Unit := ⟨20000, 128, [], [], [], []⟩

def call : LoadCall Unit := ⟨(), PyStr.lit "a: [0]", true⟩

/-- The scope after a first load. -/
def loaded : YamlState Unit Nat Unit := (loadClosedYaml runtime (enterScope settings ()) call).2

/-- The caller empties the list that it was given. -/
def emptied : YamlState Unit Nat Unit := { loaded with heap := loaded.heap.set 1 ⟨0, []⟩ }

theorem reaches_emptied : Reaches (yamlStep runtime) canTake (enterScope settings ()) emptied := by
  have hloaded : Reaches (yamlStep runtime) canTake (enterScope settings ()) loaded :=
    .next (a := .load call) .start trivial rfl
  refine .next (a := .write 1 ⟨0, []⟩) hloaded ⟨.held ?_, fun b hb => absurd hb List.not_mem_nil⟩ rfl
  decide +kernel

/-- The next load returns the list as it was, from the cache. -/
theorem emptied_transparent :
    Counted emptied.cache ∧ emptied.cache.entries.length = 1 ∧
      ∃ a, (loadClosedYaml runtime emptied call).1 = .ok a ∧
        valueAt (loadClosedYaml runtime emptied call).2.heap a = some (.node 0 [.node 20000 []]) := by
  obtain ⟨hcounted, -, hreturns, -⟩ := load_transparent reaches_emptied call
  exact ⟨hcounted, by decide +kernel, hreturns⟩

end CacheDemo

end SkillsSdk

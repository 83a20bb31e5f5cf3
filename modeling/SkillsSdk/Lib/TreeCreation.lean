/-
SkillsSdk/Lib/TreeCreation.lean

The creation of a tree of names, one node after another.

    listing es above     the nodes below the entries, each with its path
    createNode path es   open the directories on the way and make the last name

What a creation does is said by the listing: it gains the new node and nothing
else (`createNode_ok`).  Nodes that are given without repetition, each behind the
directories above it, are created as they are given (`createNodes_ok`), unless a
name among them is refused (`createNodes_refused`).
-/
import Mathlib.Data.List.Perm.Basic
import Mathlib.Data.List.Infix
import SkillsSdk.Lib.NamedTree

namespace NamedTree

universe u v w

variable {N : Type u} {L : Type v} {D : Type w}

/-! ### The nodes of a tree -/

/-- The node without what is below it. -/
def Node.top : Node N L D → L ⊕ D
  | .leaf l => .inl l
  | .dir d _ => .inr d

mutual

/-- The nodes below the entries, in the order of a walk. -/
def listing : Entries N L D → List N → List (List N × (L ⊕ D))
  | .nil, _ => []
  | .cons name node rest, above => nodeListing node (above ++ [name]) ++ listing rest above

def nodeListing : Node N L D → List N → List (List N × (L ⊕ D))
  | .leaf l, path => [(path, .inl l)]
  | .dir d entries, path => (path, .inr d) :: listing entries path

end

theorem has_of_at_singleton {es : Entries N L D} {name : N} {node : Node N L D} (h : At es [name] node) :
    es.Has name node := by
  cases h with
  | entry h => exact h
  | under _ hbelow => exact absurd rfl hbelow.ne_nil

theorem under_of_at {es : Entries N L D} {name : N} {path : List N} {node : Node N L D} (h : At es (name :: path) node)
    (hpath : path ≠ []) : ∃ d sub, es.Has name (.dir d sub) ∧ At sub path node := by
  cases h with
  | entry _ => exact absurd rfl hpath
  | under hhas hbelow => exact ⟨_, _, hhas, hbelow⟩

/-- Above a node stand directories. -/
theorem At.dir_of_append {es : Entries N L D} {p q : List N} {node : Node N L D} (h : At es (p ++ q) node)
    (hp : p ≠ []) (hq : q ≠ []) : ∃ d sub, At es p (.dir d sub) := by
  induction p generalizing es with
  | nil => exact absurd rfl hp
  | cons name p ih =>
    obtain ⟨d, sub, hhas, hbelow⟩ := under_of_at h (List.append_ne_nil_of_right_ne_nil p hq)
    cases p with
    | nil => exact ⟨d, sub, .entry hhas⟩
    | cons next p =>
      obtain ⟨d', sub', hat⟩ := ih hbelow (List.cons_ne_nil next p)
      exact ⟨d', sub', .under hhas hat⟩

/-- A path stands for one node. -/
theorem At.unique {es : Entries N L D} {path : List N} {node node' : Node N L D} (hd : es.Distinct)
    (h : At es path node) (h' : At es path node') : node = node' := by
  induction h with
  | entry hhas => exact hhas.unique hd (has_of_at_singleton h')
  | under hhas hbelow ih => exact ih (hhas.distinct hd) ((at_under_iff hd hhas hbelow.ne_nil).mp h')

mutual

theorem mem_listing : ∀ {es : Entries N L D} {above path : List N} {x : L ⊕ D},
    (path, x) ∈ listing es above ↔ ∃ tail node, path = above ++ tail ∧ At es tail node ∧ node.top = x
  | .nil, above, path, x => by
    rw [listing]
    exact iff_of_false List.not_mem_nil fun ⟨_, _, _, hat, _⟩ => not_at_nil hat
  | .cons name node rest, above, path, x => by
    rw [listing, List.mem_append, mem_nodeListing, mem_listing]
    constructor
    · rintro ((⟨hpath, htop⟩ | ⟨d, sub, tail, y, rfl, hpath, hat, htop⟩) | ⟨tail, y, hpath, hat, htop⟩)
      · exact ⟨[name], node, hpath, at_cons_iff.mpr (Or.inl ⟨rfl, rfl⟩), htop⟩
      · refine ⟨name :: tail, y, ?_, at_cons_iff.mpr (Or.inr (Or.inl ⟨d, sub, tail, rfl, rfl, hat⟩)), htop⟩
        rw [hpath, List.append_assoc, List.singleton_append]
      · exact ⟨tail, y, hpath, at_cons_iff.mpr (Or.inr (Or.inr hat)), htop⟩
    · rintro ⟨tail, y, hpath, hat, htop⟩
      rcases at_cons_iff.mp hat with ⟨rfl, rfl⟩ | ⟨d, sub, rest', hnode, rfl, hbelow⟩ | hrest
      · exact Or.inl (Or.inl ⟨hpath, htop⟩)
      · refine Or.inl (Or.inr ⟨d, sub, rest', y, hnode, ?_, hbelow, htop⟩)
        rw [hpath, List.append_assoc, List.singleton_append]
      · exact Or.inr ⟨tail, y, hpath, hrest, htop⟩

theorem mem_nodeListing : ∀ {node : Node N L D} {above path : List N} {x : L ⊕ D},
    (path, x) ∈ nodeListing node above ↔
      (path = above ∧ node.top = x) ∨
        ∃ d sub tail y, node = .dir d sub ∧ path = above ++ tail ∧ At sub tail y ∧ y.top = x
  | .leaf l, above, path, x => by
    rw [nodeListing, List.mem_singleton, Prod.mk.injEq]
    constructor
    · rintro ⟨rfl, rfl⟩
      exact Or.inl ⟨rfl, rfl⟩
    · rintro (⟨rfl, rfl⟩ | ⟨d, sub, tail, y, hnode, -⟩)
      · exact ⟨rfl, rfl⟩
      · cases hnode
  | .dir d sub, above, path, x => by
    rw [nodeListing, List.mem_cons, Prod.mk.injEq, mem_listing]
    constructor
    · rintro (⟨rfl, rfl⟩ | ⟨tail, y, hpath, hat, htop⟩)
      · exact Or.inl ⟨rfl, rfl⟩
      · exact Or.inr ⟨d, sub, tail, y, rfl, hpath, hat, htop⟩
    · rintro (⟨rfl, rfl⟩ | ⟨d', sub', tail, y, hnode, hpath, hat, htop⟩)
      · exact Or.inl ⟨rfl, rfl⟩
      · cases hnode
        exact Or.inr ⟨tail, y, hpath, hat, htop⟩

end

theorem mem_listing_nil {es : Entries N L D} {path : List N} {x : L ⊕ D} :
    (path, x) ∈ listing es [] ↔ ∃ node, At es path node ∧ node.top = x := by
  rw [mem_listing]
  constructor
  · rintro ⟨tail, node, rfl, h⟩
    exact ⟨node, h⟩
  · rintro ⟨node, h⟩
    exact ⟨path, node, rfl, h⟩

/-- Each entry is in the listing. -/
theorem names_length_le (es : Entries N L D) (above : List N) : es.names.length ≤ (listing es above).length := by
  induction es using Entries.rec (motive_1 := fun _ => True) with
  | leaf => trivial
  | dir => trivial
  | nil => exact le_rfl
  | cons name node rest _ ih =>
    have hpos : 0 < (nodeListing node (above ++ [name])).length := by
      cases node with
      | leaf l => exact Nat.one_pos
      | dir d entries => exact Nat.succ_pos _
    rw [Entries.names, listing, List.length_cons, List.length_append]
    omega

/-- A directory of the listing has its entries in the tree. -/
theorem at_dir_of_mem_listing {es : Entries N L D} {path : List N} {d : D} (h : (path, .inr d) ∈ listing es []) :
    ∃ sub, At es path (.dir d sub) := by
  obtain ⟨node, hat, htop⟩ := mem_listing_nil.mp h
  cases node with
  | leaf l => cases htop
  | dir d' sub =>
    obtain rfl : d' = d := Sum.inr.inj htop
    exact ⟨sub, hat⟩

theorem exists_listing_iff {es : Entries N L D} {path : List N} :
    path ∈ (listing es []).map Prod.fst ↔ ∃ node, At es path node := by
  rw [List.mem_map]
  constructor
  · rintro ⟨⟨p, x⟩, h, rfl⟩
    obtain ⟨node, hat, -⟩ := mem_listing_nil.mp h
    exact ⟨node, hat⟩
  · rintro ⟨node, hat⟩
    exact ⟨(path, node.top), mem_listing_nil.mpr ⟨node, hat, rfl⟩, rfl⟩

/-! ### A new entry -/

section

variable (before : N → N → Prop) [DecidableRel before]

/-- A new entry stands in front of the first that it comes before. -/
def Entries.place (name : N) (node : Node N L D) : Entries N L D → Entries N L D
  | .nil => .cons name node .nil
  | .cons m x rest => if before name m then .cons name node (.cons m x rest) else .cons m x (rest.place name node)

variable {before}

theorem listing_place (name : N) (node : Node N L D) (es : Entries N L D) (above : List N) :
    (listing (es.place before name node) above).Perm (nodeListing node (above ++ [name]) ++ listing es above) := by
  induction es using Entries.rec (motive_1 := fun _ => True) with
  | leaf => trivial
  | dir => trivial
  | nil => exact List.Perm.refl _
  | cons m x rest _ ih =>
    rw [Entries.place]
    split_ifs
    · exact List.Perm.refl _
    · rw [listing, listing]
      refine (ih.append_left _).trans ?_
      rw [← List.append_assoc, ← List.append_assoc]
      exact List.perm_append_comm.append_right _

theorem mem_names_place {name m : N} {node : Node N L D} {es : Entries N L D} :
    m ∈ (es.place before name node).names ↔ m = name ∨ m ∈ es.names := by
  induction es using Entries.rec (motive_1 := fun _ => True) with
  | leaf => trivial
  | dir => trivial
  | nil => simp [Entries.place, Entries.names]
  | cons m' x rest _ ih =>
    rw [Entries.place]
    split_ifs
    · exact List.mem_cons
    · rw [Entries.names, Entries.names, List.mem_cons, List.mem_cons, ih]
      exact or_left_comm

theorem distinct_place {name : N} {node : Node N L D} {es : Entries N L D} (hd : es.Distinct) (hnode : node.Distinct)
    (hname : name ∉ es.names) : (es.place before name node).Distinct := by
  induction es using Entries.rec (motive_1 := fun _ => True) with
  | leaf => trivial
  | dir => trivial
  | nil => exact ⟨hname, hnode, trivial⟩
  | cons m x rest _ ih =>
    obtain ⟨hm, hx, hrest⟩ := hd
    rw [Entries.names, List.mem_cons, not_or] at hname
    rw [Entries.place]
    split_ifs
    · exact ⟨fun h => (List.mem_cons.mp h).elim hname.1 hname.2, hnode, hm, hx, hrest⟩
    · refine ⟨fun h => ?_, hx, ih hrest hname.2⟩
      rcases mem_names_place.mp h with rfl | h
      · exact hname.1 rfl
      · exact hm h

end

/-- A node with nothing below it. -/
def freshNode : L ⊕ D → Node N L D
  | .inl l => .leaf l
  | .inr d => .dir d .nil

theorem nodeListing_freshNode (x : L ⊕ D) (path : List N) : nodeListing (freshNode x) path = [(path, x)] := by
  rcases x with l | d
  · rfl
  · rfl

theorem distinct_nil : (.nil : Entries N L D).Distinct := trivial

theorem distinct_freshNode (x : L ⊕ D) : (freshNode x : Node N L D).Distinct := by
  rcases x with l | d
  · trivial
  · trivial

/-! ### Room for a node -/

/-- The directories on the way to the path are there, and the path is free. -/
structure Room (es : Entries N L D) (path : List N) : Prop where
  ne_nil : path ≠ []
  parents : ∀ q, q ≠ [] → q <+: path → q ≠ path → ∃ d sub, At es q (.dir d sub)
  free : ∀ node, ¬ At es path node

/-- Below the first directory on the way there is room for the rest. -/
theorem Room.below {es : Entries N L D} {name next : N} {tail : List N} (hd : es.Distinct)
    (h : Room es (name :: next :: tail)) :
    ∃ d sub, es.Has name (.dir d sub) ∧ sub.Distinct ∧ Room sub (next :: tail) := by
  obtain ⟨d, sub, hat⟩ := h.parents [name] (by simp) (by simp) (by simp)
  have hhas := has_of_at_singleton hat
  refine ⟨d, sub, hhas, hhas.distinct hd, by simp, fun q hq hleading hne => ?_, fun node hnode => ?_⟩
  · obtain ⟨d', sub', hat'⟩ := h.parents (name :: q) (by simp) (List.cons_prefix_cons.mpr ⟨rfl, hleading⟩)
      (fun heq => hne (List.cons.inj heq).2)
    exact ⟨d', sub', (at_under_iff hd hhas hq).mp hat'⟩
  · exact h.free node (.under hhas hnode)

theorem not_mem_names_of_free {es : Entries N L D} {name : N} (h : ∀ node, ¬ At es [name] node) : name ∉ es.names := by
  intro hmem
  obtain ⟨node, hnode⟩ := Entries.exists_has hmem
  exact h node (.entry hnode)

/-- A list of nodes that can be created behind others: no path twice, and the directories
above each stand before it. -/
structure Creatable (created nodes : List (List N × (L ⊕ D))) : Prop where
  nodup : (created.map Prod.fst ++ nodes.map Prod.fst).Nodup
  ne_nil : ∀ p ∈ nodes, p.1 ≠ []
  parents : ∀ front p back, nodes = front ++ p :: back →
    ∀ q, q ≠ [] → q <+: p.1 → q ≠ p.1 → ∃ d, (q, .inr d) ∈ created ++ front

theorem Creatable.tail {created nodes : List (List N × (L ⊕ D))} {p : List N × (L ⊕ D)}
    (h : Creatable created (p :: nodes)) : Creatable (created ++ [p]) nodes := by
  refine ⟨?_, fun q hq => h.ne_nil q (List.mem_cons_of_mem p hq), fun front q back heq r hr hleading hne => ?_⟩
  · have hnodup := h.nodup
    rwa [List.map_cons, List.append_cons, ← List.map_singleton (f := Prod.fst), ← List.map_append] at hnodup
  · rw [List.append_assoc, List.singleton_append]
    exact h.parents (p :: front) q back (by rw [heq]; rfl) r hr hleading hne

theorem Creatable.perm {created created' nodes : List (List N × (L ⊕ D))} (hperm : created.Perm created')
    (h : Creatable created nodes) : Creatable created' nodes := by
  refine ⟨?_, h.ne_nil, fun front p back heq q hq hleading hne => ?_⟩
  · exact (((hperm.map Prod.fst).append_right _).nodup_iff).mp h.nodup
  · obtain ⟨d, hd⟩ := h.parents front p back heq q hq hleading hne
    exact ⟨d, (hperm.append_right front).mem_iff.mp hd⟩

/-- One list behind another. -/
theorem Creatable.append {created nodes nodes' : List (List N × (L ⊕ D))} (h : Creatable created nodes)
    (h' : Creatable (created ++ nodes) nodes') : Creatable created (nodes ++ nodes') := by
  refine ⟨?_, fun p hp => ?_, fun front p back heq q hq hleading hne => ?_⟩
  · have hnodup := h'.nodup
    rwa [List.map_append, List.append_assoc, ← List.map_append] at hnodup
  · exact (List.mem_append.mp hp).elim (h.ne_nil p) (h'.ne_nil p)
  · rcases List.append_eq_append_iff.mp heq with ⟨middle, rfl, hback⟩ | ⟨middle, hfirst, hsecond⟩
    · obtain ⟨d, hd⟩ := h'.parents middle p back hback q hq hleading hne
      rw [← List.append_assoc]
      exact ⟨d, hd⟩
    · cases middle with
      | nil =>
        rw [List.append_nil] at hfirst
        obtain ⟨d, hd⟩ := h'.parents [] p back (by rw [List.nil_append]; exact hsecond.symm) q hq hleading hne
        rw [List.append_nil] at hd
        exact ⟨d, hfirst ▸ hd⟩
      | cons x middle =>
        obtain ⟨rfl, rfl⟩ := List.cons.inj hsecond
        exact h.parents front p middle hfirst q hq hleading hne

/-- Behind the directories above them, nodes without repetition may stand in any order. -/
theorem Creatable.of_parents {created nodes : List (List N × (L ⊕ D))}
    (hnodup : (created.map Prod.fst ++ nodes.map Prod.fst).Nodup) (hne : ∀ p ∈ nodes, p.1 ≠ [])
    (hparents : ∀ p ∈ nodes, ∀ q, q ≠ [] → q <+: p.1 → q ≠ p.1 → ∃ d, (q, .inr d) ∈ created) :
    Creatable created nodes := by
  refine ⟨hnodup, hne, fun front p back heq q hq hleading hqp => ?_⟩
  obtain ⟨d, hd⟩ := hparents p (by rw [heq]; simp) q hq hleading hqp
  exact ⟨d, List.mem_append_left front hd⟩

/-- There is room for the first node of a creatable list. -/
theorem Creatable.room {es : Entries N L D} {nodes : List (List N × (L ⊕ D))} {p : List N × (L ⊕ D)}
    (h : Creatable (listing es []) (p :: nodes)) : Room es p.1 := by
  refine ⟨h.ne_nil p List.mem_cons_self, fun q hq hleading hne => ?_, fun node hat => ?_⟩
  · obtain ⟨d, hmem⟩ := h.parents [] p nodes rfl q hq hleading hne
    rw [List.append_nil] at hmem
    obtain ⟨sub, hat⟩ := at_dir_of_mem_listing hmem
    exact ⟨d, sub, hat⟩
  · have hmem := exists_listing_iff.mpr ⟨node, hat⟩
    exact (List.nodup_append.mp h.nodup).2.2 p.1 hmem p.1 (by simp) rfl

/-! ### Creation -/

/-- Why a node is not created: a directory on the way is missing or is none, the name is
taken, or the host refuses it. -/
inductive CreationFault where
  | missing
  | notDirectory
  | exists
  | refused
  deriving DecidableEq

section

variable [DecidableEq N] (before : N → N → Prop) [DecidableRel before] (usable : N → Bool)

/-- Change what is below the directory of that name. -/
def Entries.within (name : N) (f : Entries N L D → Except CreationFault (Entries N L D)) :
    Entries N L D → Except CreationFault (Entries N L D)
  | .nil => .error .missing
  | .cons m (.leaf l) rest =>
    if m = name then .error .notDirectory else (rest.within name f).map (.cons m (.leaf l))
  | .cons m (.dir d sub) rest =>
    if m = name then (f sub).map fun sub => .cons m (.dir d sub) rest
    else (rest.within name f).map (.cons m (.dir d sub))

/-- Make the node at the path. -/
def createNode (node : Node N L D) : List N → Entries N L D → Except CreationFault (Entries N L D)
  | [], _ => .error .missing
  | [name], es =>
    if usable name then
      if name ∈ es.names then .error .exists else .ok (es.place before name node)
    else .error .refused
  | name :: next :: tail, es =>
    if usable name then es.within name (createNode node (next :: tail)) else .error .refused

/-- Make one node after another. -/
def createNodes (es : Entries N L D) (nodes : List (List N × (L ⊕ D))) : Except CreationFault (Entries N L D) :=
  nodes.foldlM (fun es p => createNode before usable (freshNode p.2) p.1 es) es

variable {before usable}

/-- What a change below one directory does to the whole. -/
theorem within_ok {es sub sub' : Entries N L D} {name : N} {d : D}
    {f : Entries N L D → Except CreationFault (Entries N L D)} {new : List N → List (List N × (L ⊕ D))}
    (hhas : es.Has name (.dir d sub)) (hd : es.Distinct) (hf : f sub = .ok sub') (hsub : sub'.Distinct)
    (hnew : ∀ above, (listing sub' above).Perm (new above ++ listing sub above)) :
    ∃ es', es.within name f = .ok es' ∧ es'.names = es.names ∧ es'.Distinct ∧
      ∀ above, (listing es' above).Perm (new (above ++ [name]) ++ listing es above) := by
  induction es using Entries.rec (motive_1 := fun _ => True) with
  | leaf => trivial
  | dir => trivial
  | nil => exact hhas.elim
  | cons m x rest _ ih =>
    obtain ⟨hm, hx, hrest⟩ := hd
    rcases hhas with ⟨rfl, rfl⟩ | hhas
    · refine ⟨.cons name (.dir d sub') rest, ?_, rfl, ⟨hm, hsub, hrest⟩, fun above => ?_⟩
      · rw [Entries.within, if_pos rfl, hf]
        rfl
      · rw [listing, listing, nodeListing, nodeListing, List.cons_append, List.cons_append]
        refine (((hnew (above ++ [name])).append_right _).cons _).trans ?_
        rw [List.append_assoc]
        exact List.perm_middle.symm
    -- the directory stands further on: the names before it keep their entries
    · obtain ⟨rest', hwithin, hnames, hdistinct, hlisting⟩ := ih hhas hrest
      have hne : m ≠ name := by
        rintro rfl
        exact hm hhas.mem_names
      refine ⟨.cons m x rest', ?_, congrArg (m :: ·) hnames, ⟨hnames ▸ hm, hx, hdistinct⟩, fun above => ?_⟩
      · cases x with
        | leaf l =>
          rw [Entries.within, if_neg hne, hwithin]
          rfl
        | dir d' sub' =>
          rw [Entries.within, if_neg hne, hwithin]
          rfl
      · rw [listing, listing]
        refine ((hlisting above).append_left _).trans ?_
        rw [← List.append_assoc, ← List.append_assoc]
        exact List.perm_append_comm.append_right _

/-- A call that fails below one directory fails as a whole. -/
theorem within_error {es sub : Entries N L D} {name : N} {d : D} {e : CreationFault}
    {f : Entries N L D → Except CreationFault (Entries N L D)}
    (hhas : es.Has name (.dir d sub)) (hd : es.Distinct) (hf : f sub = .error e) :
    es.within name f = .error e := by
  induction es using Entries.rec (motive_1 := fun _ => True) with
  | leaf => trivial
  | dir => trivial
  | nil => exact hhas.elim
  | cons m x rest _ ih =>
    obtain ⟨hm, -, hrest⟩ := hd
    rcases hhas with ⟨rfl, rfl⟩ | hhas
    · rw [Entries.within, if_pos rfl, hf]
      rfl
    · have hne : m ≠ name := by
        rintro rfl
        exact hm hhas.mem_names
      cases x with
      | leaf l =>
        rw [Entries.within, if_neg hne, ih hhas hrest]
        rfl
      | dir d' sub' =>
        rw [Entries.within, if_neg hne, ih hhas hrest]
        rfl

variable (before) in
/-- **A creation adds its node and changes nothing else.** -/
theorem createNode_ok {node : Node N L D} {path : List N} {es : Entries N L D} (hd : es.Distinct)
    (hnode : node.Distinct) (hroom : Room es path) (husable : ∀ n ∈ path, usable n = true) :
    ∃ es', createNode before usable node path es = .ok es' ∧ es'.Distinct ∧
      ∀ above, (listing es' above).Perm (nodeListing node (above ++ path) ++ listing es above) := by
  induction path generalizing es with
  | nil => exact absurd rfl hroom.ne_nil
  | cons name tail ih =>
    have hname : usable name = true := husable name List.mem_cons_self
    cases tail with
    | nil =>
      have hfree := not_mem_names_of_free hroom.free
      refine ⟨es.place before name node, ?_, distinct_place hd hnode hfree, listing_place name node es⟩
      rw [createNode, if_pos hname, if_neg hfree]
    | cons next tail =>
      obtain ⟨d, sub, hhas, hsub, hbelow⟩ := hroom.below hd
      obtain ⟨sub', hcreate, hdistinct, hlisting⟩ :=
        ih hsub hbelow fun n hn => husable n (List.mem_cons_of_mem name hn)
      obtain ⟨es', hwithin, -, hdistinct', hlisting'⟩ := within_ok hhas hd hcreate hdistinct hlisting
      refine ⟨es', ?_, hdistinct', fun above => ?_⟩
      · rw [createNode, if_pos hname, hwithin]
      · have happend : above ++ name :: next :: tail = above ++ [name] ++ next :: tail := by
          rw [List.append_assoc, List.singleton_append]
        rw [happend]
        exact hlisting' above

/-- The host refuses the last name of a path, since it took those of the directories. -/
theorem createNode_refused {node : Node N L D} {path : List N} {es : Entries N L D} (hd : es.Distinct)
    (hroom : Room es path) (hlast : ∀ n ∈ path.dropLast, usable n = true) (h : ¬ ∀ n ∈ path, usable n = true) :
    createNode before usable node path es = .error .refused := by
  induction path generalizing es with
  | nil => exact absurd rfl hroom.ne_nil
  | cons name tail ih =>
    cases tail with
    | nil =>
      rw [createNode, if_neg]
      simpa using h
    | cons next tail =>
      obtain ⟨d, sub, hhas, hsub, hbelow⟩ := hroom.below hd
      have hname : usable name = true := hlast name (by simp)
      have hrest := ih hsub hbelow (fun n hn => hlast n (by simp [hn])) fun hall =>
        h (List.forall_mem_cons.mpr ⟨hname, hall⟩)
      rw [createNode, if_pos hname, within_error hhas hd hrest]

theorem createNodes_cons (es : Entries N L D) (p : List N × (L ⊕ D)) (nodes : List (List N × (L ⊕ D))) :
    createNodes before usable es (p :: nodes) =
      (createNode before usable (freshNode p.2) p.1 es >>= fun es => createNodes before usable es nodes) :=
  List.foldlM_cons

theorem createNodes_append (es : Entries N L D) (nodes nodes' : List (List N × (L ⊕ D))) :
    createNodes before usable es (nodes ++ nodes') =
      (createNodes before usable es nodes >>= fun es => createNodes before usable es nodes') :=
  List.foldlM_append

variable (before) in
/-- The first node of a creatable list is created. -/
theorem Creatable.create {es : Entries N L D} {nodes : List (List N × (L ⊕ D))} {p : List N × (L ⊕ D)}
    (hd : es.Distinct) (h : Creatable (listing es []) (p :: nodes)) (husable : ∀ n ∈ p.1, usable n = true) :
    ∃ es', createNode before usable (freshNode p.2) p.1 es = .ok es' ∧ es'.Distinct ∧
      (listing es' []).Perm (listing es [] ++ [p]) ∧ Creatable (listing es' []) nodes := by
  obtain ⟨es', hcreate, hdistinct, hlisting⟩ :=
    createNode_ok before hd (distinct_freshNode p.2) h.room husable
  have hperm : (listing es' []).Perm (listing es [] ++ [p]) := by
    refine (hlisting []).trans ?_
    rw [nodeListing_freshNode, List.nil_append]
    exact List.perm_append_comm
  exact ⟨es', hcreate, hdistinct, hperm, h.tail.perm hperm.symm⟩

variable (before) in
/-- **Nodes in a creation order are created as they are given.** -/
theorem createNodes_ok {es : Entries N L D} {nodes : List (List N × (L ⊕ D))} (hd : es.Distinct)
    (h : Creatable (listing es []) nodes) (husable : ∀ p ∈ nodes, ∀ n ∈ p.1, usable n = true) :
    ∃ es', createNodes before usable es nodes = .ok es' ∧ es'.Distinct ∧
      (listing es' []).Perm (listing es [] ++ nodes) := by
  induction nodes generalizing es with
  | nil =>
    refine ⟨es, rfl, hd, ?_⟩
    rw [List.append_nil]
  | cons p nodes ih =>
    obtain ⟨middle, hcreate, hdistinct, hperm, hrest⟩ := h.create before hd (husable p List.mem_cons_self)
    obtain ⟨es', hcreates, hdistinct', hperm'⟩ := ih hdistinct hrest fun q hq => husable q (List.mem_cons_of_mem p hq)
    refine ⟨es', ?_, hdistinct', ?_⟩
    · rw [createNodes_cons, hcreate]
      exact hcreates
    · refine hperm'.trans ((hperm.append_right nodes).trans ?_)
      rw [List.append_assoc, List.singleton_append]

variable (before) in
/-- One refused name among them stops the creation. -/
theorem createNodes_refused {es : Entries N L D} {nodes : List (List N × (L ⊕ D))} (hd : es.Distinct)
    (h : Creatable (listing es []) nodes) (htaken : ∀ p ∈ listing es [], ∀ n ∈ p.1, usable n = true)
    (hrefused : ¬ ∀ p ∈ nodes, ∀ n ∈ p.1, usable n = true) :
    createNodes before usable es nodes = .error .refused := by
  induction nodes generalizing es with
  | nil => exact absurd (fun p hp => absurd hp List.not_mem_nil) hrefused
  | cons p nodes ih =>
    by_cases hp : ∀ n ∈ p.1, usable n = true
    · obtain ⟨middle, hcreate, hdistinct, hperm, hrest⟩ := h.create before hd hp
      rw [createNodes_cons, hcreate]
      refine ih hdistinct hrest (fun q hq => ?_) fun hall => hrefused (List.forall_mem_cons.mpr ⟨hp, hall⟩)
      rcases List.mem_append.mp (hperm.mem_iff.mp hq) with hq | hq
      · exact htaken q hq
      · obtain rfl := List.mem_singleton.mp hq
        exact hp
    · -- the directories above the path were taken, so its last name is refused
      have hlast : ∀ n ∈ p.1.dropLast, usable n = true := by
        intro n hn
        have hne : p.1.dropLast ≠ p.1 := by
          intro heq
          have hlength := congrArg List.length heq
          have hpos := List.length_pos_iff.mpr (h.ne_nil p List.mem_cons_self)
          rw [List.length_dropLast] at hlength
          omega
        obtain ⟨d, hmem⟩ := h.parents [] p nodes rfl p.1.dropLast (List.ne_nil_of_mem hn)
          (List.dropLast_prefix _) hne
        rw [List.append_nil] at hmem
        exact htaken _ hmem n hn
      rw [createNodes_cons, createNode_refused hd h.room hlast hp]
      rfl

end

end NamedTree

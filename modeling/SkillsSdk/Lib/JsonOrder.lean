/-
SkillsSdk/Lib/JsonOrder.lean

JSON values up to the order of members.

`sorted` puts the members of every object in the order of their keys.  It is a
canonical form: sorting twice is sorting once, the sorted value is the same value
in the sense of `Same`, where the members of an object may stand in any order, and
it has the same canonical text.
-/
import SkillsSdk.Lib.JsonReading

namespace Json

/-! ### Induction -/

/-- Induction over a value, with the members of its containers. -/
theorem induction {P : Json → Prop} (null : P null) (bool : ∀ b, P (bool b)) (int : ∀ i, P (int i))
    (num : ∀ w, P (num w)) (str : ∀ s, P (str s)) (arr : ∀ items, (∀ j ∈ items, P j) → P (arr items))
    (obj : ∀ members, (∀ m ∈ members, P m.2) → P (obj members)) (j : Json) : P j :=
  match j with
  | .null => null
  | .bool b => bool b
  | .int i => int i
  | .num w => num w
  | .str s => str s
  | .arr items => arr items fun j hj =>
    have : sizeOf j < sizeOf items := List.sizeOf_lt_of_mem hj
    induction null bool int num str arr obj j
  | .obj members => obj members fun m hm =>
    have : sizeOf m < sizeOf members := List.sizeOf_lt_of_mem hm
    have : sizeOf m.2 < sizeOf m := by
      rcases m with ⟨k, j⟩
      show sizeOf j < sizeOf (k, j)
      rw [Prod.mk.sizeOf_spec]
      omega
    induction null bool int num str arr obj m.2
termination_by sizeOf j

/-! ### Sorting by key -/

section

variable {α β : Type*} [LinearOrder α] [LinearOrder β] {f : α → β}

/-- Texts compare as the images of their letters do. -/
theorem map_lt_map_iff (hf : StrictMono f) (a b : List α) : a.map f < b.map f ↔ a < b := by
  induction a generalizing b with
  | nil => cases b <;> simp
  | cons x a ih =>
    cases b with
    | nil => simp
    | cons y b =>
      rw [List.map_cons, List.map_cons, List.cons_lt_cons_iff, List.cons_lt_cons_iff, ih, hf.lt_iff_lt,
        hf.injective.eq_iff]

theorem map_le_map_iff (hf : StrictMono f) (a b : List α) : a.map f ≤ b.map f ↔ a ≤ b := by
  rw [← not_lt, ← not_lt, map_lt_map_iff hf]

end

section

variable {α β : Type*}

/-- Members in the order of their keys. -/
def sortByKey (members : List (List Char × α)) : List (List Char × α) :=
  members.insertionSort fun a b => a.1 ≤ b.1

theorem mem_sortByKey {m : List Char × α} {members : List (List Char × α)} :
    m ∈ sortByKey members ↔ m ∈ members := List.mem_insertionSort _

theorem sortByKey_perm (members : List (List Char × α)) : (sortByKey members).Perm members :=
  List.perm_insertionSort _ members

/-- The values do not matter for the order. -/
theorem sortByKey_map (f : α → β) (members : List (List Char × α)) :
    sortByKey (members.map fun m => (m.1, f m.2)) = (sortByKey members).map fun m => (m.1, f m.2) := by
  symm
  apply List.map_insertionSort
  intro a _ b _
  exact Iff.rfl

theorem sortByKey_sortByKey (members : List (List Char × α)) :
    sortByKey (sortByKey members) = sortByKey members := by
  have htotal : Std.Total fun a b : List Char × α => a.1 ≤ b.1 := ⟨fun a b => le_total a.1 b.1⟩
  have htrans : IsTrans (List Char × α) fun a b => a.1 ≤ b.1 := ⟨fun _ _ _ h h' => le_trans h h'⟩
  exact (List.pairwise_insertionSort _ members).insertionSort_eq

end

theorem sortMembers_eq_sortByKey (members : List (List Char × List Char)) :
    sortMembers members = sortByKey members := rfl

mutual

/-- The members of every object in the order of their keys. -/
def sorted : Json → Json
  | null => null
  | bool b => bool b
  | int i => int i
  | num w => num w
  | str s => str s
  | arr items => arr (sortedItems items)
  | obj members => obj (sortByKey (sortedMembers members))

def sortedItems : List Json → List Json
  | [] => []
  | j :: js => sorted j :: sortedItems js

def sortedMembers : List (List Char × Json) → List (List Char × Json)
  | [] => []
  | (k, j) :: ms => (k, sorted j) :: sortedMembers ms

end

theorem sortedItems_eq_map (items : List Json) : sortedItems items = items.map sorted := by
  induction items with
  | nil => rfl
  | cons j js ih => rw [sortedItems, ih, List.map_cons]

theorem sortedMembers_eq_map (members : List (List Char × Json)) :
    sortedMembers members = members.map fun m => (m.1, sorted m.2) := by
  induction members with
  | nil => rfl
  | cons m ms ih => rw [sortedMembers, ih, List.map_cons]

theorem sorted_arr (items : List Json) : sorted (arr items) = arr (items.map sorted) := by
  rw [sorted, sortedItems_eq_map]

theorem sorted_obj (members : List (List Char × Json)) :
    sorted (obj members) = obj ((sortByKey members).map fun m => (m.1, sorted m.2)) := by
  rw [sorted, sortedMembers_eq_map, sortByKey_map]

theorem dumpsItems_eq_map (items : List Json) : dumpsItems items = items.map dumps := by
  induction items with
  | nil => rfl
  | cons j js ih => rw [dumpsItems, ih, List.map_cons]

/-- The text of an object, by its members in the order of their keys. -/
theorem dumps_obj (members : List (List Char × Json)) :
    dumps (obj members) =
      '\x7b' :: (commas ((sortByKey members).map fun m => member (m.1, dumps m.2)) ++ ['\x7d']) := by
  rw [dumps, dumpsMembers_eq_map, sortMembers_eq_sortByKey, sortByKey_map, List.map_map]
  rfl

/-- Sorting twice is sorting once. -/
theorem sorted_sorted (j : Json) : j.sorted.sorted = j.sorted := by
  induction j using Json.induction with
  | null => rfl
  | bool b => rfl
  | int i => rfl
  | num w => rfl
  | str s => rfl
  | arr items ih =>
    rw [sorted_arr, sorted_arr, List.map_map]
    exact congrArg arr (List.map_congr_left ih)
  | obj members ih =>
    rw [sorted_obj, sorted_obj, sortByKey_map, sortByKey_sortByKey, List.map_map]
    refine congrArg obj (List.map_congr_left fun m hm => ?_)
    show (m.1, m.2.sorted.sorted) = (m.1, m.2.sorted)
    rw [ih m (mem_sortByKey.mp hm)]

/-- **Sorting keeps the canonical text.** -/
theorem dumps_sorted (j : Json) : j.sorted.dumps = j.dumps := by
  induction j using Json.induction with
  | null => rfl
  | bool b => rfl
  | int i => rfl
  | num w => rfl
  | str s => rfl
  | arr items ih =>
    rw [sorted_arr, dumps, dumps, dumpsItems_eq_map, dumpsItems_eq_map, List.map_map]
    show '[' :: (commas (items.map fun j => j.sorted.dumps) ++ [']']) = _
    rw [List.map_congr_left ih]
  | obj members ih =>
    rw [sorted_obj, dumps_obj, dumps_obj, sortByKey_map, sortByKey_sortByKey, List.map_map]
    have hmembers : (sortByKey members).map ((fun m => member (m.1, dumps m.2)) ∘ fun m => (m.1, sorted m.2)) =
        (sortByKey members).map fun m => member (m.1, dumps m.2) := by
      refine List.map_congr_left fun m hm => ?_
      show member (m.1, m.2.sorted.dumps) = member (m.1, m.2.dumps)
      rw [ih m (mem_sortByKey.mp hm)]
    rw [hmembers]

/-! ### The same value -/

mutual

/-- Equality of values, where the members of an object may stand in any order. -/
inductive Same : Json → Json → Prop
  | null : Same null null
  | bool (b : Bool) : Same (bool b) (bool b)
  | int (i : Int) : Same (int i) (int i)
  | num (w : List Char) : Same (num w) (num w)
  | str (s : List Char) : Same (str s) (str s)
  | arr {items items' : List Json} : SameItems items items' → Same (arr items) (arr items')
  | obj {members members' : List (List Char × Json)} :
      SameMembers members members' → Same (obj members) (obj members')

inductive SameItems : List Json → List Json → Prop
  | nil : SameItems [] []
  | cons {j j' : Json} {js js' : List Json} : Same j j' → SameItems js js' → SameItems (j :: js) (j' :: js')

/-- A member has its counterpart anywhere among the others. -/
inductive SameMembers : List (List Char × Json) → List (List Char × Json) → Prop
  | nil : SameMembers [] []
  | cons {k : List Char} {j j' : Json} {ms ms' members : List (List Char × Json)} :
      Same j j' → members.Perm ((k, j') :: ms') → SameMembers ms ms' → SameMembers ((k, j) :: ms) members

end

theorem SameMembers.perm {ms ns ns' : List (List Char × Json)} (h : SameMembers ms ns) (hperm : ns'.Perm ns) :
    SameMembers ms ns' := by
  cases h with
  | nil =>
    rw [hperm.eq_nil]
    exact SameMembers.nil
  | cons hj hns hms => exact SameMembers.cons hj (hperm.trans hns) hms

/-- **A value is the same as its canonical form.** -/
theorem same_sorted (j : Json) : Same j j.sorted := by
  induction j using Json.induction with
  | null => exact Same.null
  | bool b => exact Same.bool b
  | int i => exact Same.int i
  | num w => exact Same.num w
  | str s => exact Same.str s
  | arr items ih =>
    rw [sorted]
    apply Same.arr
    induction items with
    | nil => exact SameItems.nil
    | cons j js ihjs =>
      rw [List.forall_mem_cons] at ih
      exact SameItems.cons ih.1 (ihjs ih.2)
  | obj members ih =>
    rw [sorted]
    refine Same.obj (SameMembers.perm ?_ (sortByKey_perm _))
    induction members with
    | nil => exact SameMembers.nil
    | cons m ms ihms =>
      rw [List.forall_mem_cons] at ih
      exact SameMembers.cons ih.1 (List.Perm.refl _) (ihms ih.2)

/-! ### Readable values -/

section

variable {format : NumberFormat}

theorem readableItems_iff {items : List Json} : ReadableItems format items ↔ ∀ j ∈ items, Readable format j := by
  induction items with
  | nil => simp [ReadableItems]
  | cons j js ih => rw [ReadableItems, ih, List.forall_mem_cons]

theorem readableMembers_iff {members : List (List Char × Json)} :
    ReadableMembers format members ↔ ∀ m ∈ members, Readable format m.2 := by
  induction members with
  | nil => simp [ReadableMembers]
  | cons m ms ih => rw [ReadableMembers, ih, List.forall_mem_cons]

theorem readable_arr {items : List Json} : Readable format (arr items) ↔ ∀ j ∈ items, Readable format j := by
  rw [Readable, readableItems_iff]

theorem readable_obj {members : List (List Char × Json)} :
    Readable format (obj members) ↔ (members.map Prod.fst).Nodup ∧ ∀ m ∈ members, Readable format m.2 := by
  rw [Readable, readableMembers_iff]

/-- Keys stay distinct in their order. -/
theorem nodup_keys_sortByKey {α : Type*} {members : List (List Char × α)} :
    ((sortByKey members).map Prod.fst).Nodup ↔ (members.map Prod.fst).Nodup :=
  ((sortByKey_perm members).map Prod.fst).nodup_iff

theorem Readable.sorted {j : Json} (h : Readable format j) : Readable format j.sorted := by
  induction j using Json.induction with
  | null => exact h
  | bool b => exact h
  | int i => exact h
  | num w => exact h
  | str s => exact h
  | arr items ih =>
    rw [readable_arr] at h
    rw [sorted_arr, readable_arr, List.forall_mem_map]
    exact fun j hj => ih j hj (h j hj)
  | obj members ih =>
    rw [readable_obj] at h
    rw [sorted_obj, readable_obj, List.forall_mem_map, List.map_map]
    refine ⟨?_, fun m hm => ih m (mem_sortByKey.mp hm) (h.2 m (mem_sortByKey.mp hm))⟩
    exact nodup_keys_sortByKey.mpr h.1

/-- The integers of a readable value can be written. -/
theorem Readable.converts_ints {j : Json} (h : Readable format j) : ∀ i ∈ j.ints, format.converts i = true := by
  induction j using Json.induction with
  | null => simp [ints]
  | bool b => simp [ints]
  | int i =>
    rw [Readable] at h
    simpa [ints] using h
  | num w => simp [ints]
  | str s => simp [ints]
  | arr items ih =>
    rw [readable_arr] at h
    rw [ints, intsItems_eq_flatMap]
    intro i hi
    obtain ⟨j, hj, hi⟩ := List.mem_flatMap.mp hi
    exact ih j hj (h j hj) i hi
  | obj members ih =>
    rw [readable_obj] at h
    rw [ints, intsMembers_eq_flatMap]
    intro i hi
    obtain ⟨m, hm, hi⟩ := List.mem_flatMap.mp hi
    exact ih m hm (h.2 m hm) i hi

theorem nests_dumps : Nests format dumps where
  pos j hj := by
    cases j with
    | null => exact Nat.succ_pos _
    | bool b => cases b <;> exact Nat.succ_pos _
    | int i => exact length_toString_pos i
    | num w =>
      rw [Readable] at hj
      exact length_written_pos hj
    | str s => exact Nat.succ_pos _
    | arr items => exact Nat.succ_pos _
    | obj members => exact Nat.succ_pos _
  items items := by
    rw [dumps, dumpsItems_eq_map, commas]
    exact sum_length_lt_joined (fun _ => le_refl _) _ _ items
  members members := by
    have hperm := ((sortByKey_perm members).map fun m => m.2.dumps.length).sum_nat
    rw [dumps_obj, commas, ← hperm]
    refine sum_length_lt_joined (fun m => ?_) _ _ (sortByKey members)
    show m.2.dumps.length ≤ (quote m.1 ++ ':' :: m.2.dumps).length
    rw [List.length_append, List.length_cons]
    omega

theorem nodesItems_eq_sum (items : List Json) : nodesItems items = (items.map nodes).sum := by
  induction items with
  | nil => rfl
  | cons j js ih => rw [nodesItems, ih, List.map_cons, List.sum_cons]

theorem nodesMembers_eq_sum (members : List (List Char × Json)) :
    nodesMembers members = (members.map fun m => nodes m.2).sum := by
  induction members with
  | nil => rfl
  | cons m ms ih => rw [nodesMembers, ih, List.map_cons, List.sum_cons]

end

end Json

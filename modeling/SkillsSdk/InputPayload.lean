/-
SkillsSdk/InputPayload.lean

The input payload of a selected case, frozen before it is bound and dispatched.

A payload is first traversed under a budget of nodes and a bound on its depth,
then encoded piece by piece while the bytes are counted, then normalized, counted
again, and read back from its text.  The traversal is the cheap check; the count
decides (`canonicalInputPayload_exact`): a value is written in at least one byte,
so the budget of nodes is never what stops a payload whose encoding fits.
-/
import SkillsSdk.JsonLoads
import SkillsSdk.Lib.JsonOrder
import SkillsSdk.ProviderCalls
import SkillsSdk.SkillValidation

namespace SkillsSdk

/-! ### Payloads -/

/-- What a caller passes: a key that is no string is `none`, a finite float is the text
that `repr` gives, and a value of no JSON type is `foreign`.  Containers are finite trees. -/
inductive InputValue where
  | none
  | bool (b : Bool)
  | int (i : Int)
  | float (written : Text)
  | constant (c : JsonConstant)
  | str (s : PyStr)
  | list (items : List InputValue)
  | dict (members : List (Option PyStr × InputValue))
  | foreign

/-- A payload of exact types: every key is a string. -/
inductive PlainInput where
  | none
  | bool (b : Bool)
  | int (i : Int)
  | float (written : Text)
  | constant (c : JsonConstant)
  | str (s : PyStr)
  | list (items : List PlainInput)
  | dict (members : List (PyStr × PlainInput))

/-- `DEFAULT_PROVIDER_CALL_LIMITS.input_bytes`. -/
def defaultInputBytes : Nat := 262144

/-- `DEFAULT_PROVIDER_CALL_LIMITS.nesting_depth`. -/
def defaultNestingDepth : Nat := 32

/-! ### The bounded traversal -/

/-- The keys as strings, unless one is none. -/
def stringKeys {α : Type} : List (Option PyStr × α) → Option (List (PyStr × α))
  | [] => some []
  | (key, item) :: members => do
    let k ← key
    let ms ← stringKeys members
    return (k, item) :: ms

/-- `sorted(…, key=lambda pair: pair[0])`. -/
def sortPairs {α : Type} (pairs : List (PyStr × α)) : List (PyStr × α) :=
  pairs.insertionSort fun a b => a.1.map PyChar.code ≤ b.1.map PyChar.code

/-- The members of a dictionary in the order in which they are traversed. -/
def orderedMembers (members : List (Option PyStr × InputValue)) : Except CallExc (List (PyStr × InputValue)) :=
  match stringKeys members with
  | none => raiseContract "invalid_provider_input" "provider input must contain only string keys"
  | some items =>
    if ((sortPairs items).map Prod.fst).Nodup then .ok (sortPairs items)
    else raiseContract "invalid_provider_input" "provider input contains duplicate canonical keys"

/-- `_plain_input_containers`; `levels` is how far the depth may still grow, and the
number is what `remaining` holds. -/
def plainInputContainers : Nat → InputValue → Nat → Except CallExc (PlainInput × Nat)
  | _, _, 0 => raiseContract "provider_input_too_large" "provider input exceeds the byte limit"
  | 0, _, _ + 1 => raiseContract "provider_input_depth_exceeded" "provider input exceeds the depth limit"
  | levels + 1, value, remaining + 1 =>
    match value with
    | .none => .ok (.none, remaining)
    | .bool b => .ok (.bool b, remaining)
    | .int i => .ok (.int i, remaining)
    | .float w => .ok (.float w, remaining)
    | .constant c => .ok (.constant c, remaining)
    | .str s => .ok (.str s, remaining)
    | .list items => (threadItems (plainInputContainers levels) items remaining).map fun p => (.list p.1, p.2)
    | .dict members => do
      let ordered ← orderedMembers members
      let plain ← threadItems (fun m remaining =>
        (plainInputContainers levels m.2 remaining).map fun p => ((m.1, p.1), p.2)) ordered remaining
      return (.dict plain.1, plain.2)
    | .foreign => raiseContract "invalid_provider_input" "provider input must contain only JSON-compatible values"

/-! ### The encoding -/

section

variable (format : Json.NumberFormat)

/-- One code point of a string under `ensure_ascii`. -/
def escapePyChar : PyChar → Text
  | .scalar c => Json.escapeChar c
  | .surrogate n => Json.escapeUnit (0xd800 + n.val)

def encodeString (s : PyStr) : Text := '"' :: (s.flatMap escapePyChar ++ ['"'])

def JsonConstant.text : JsonConstant → Text
  | nan => "NaN".toList
  | infinity => "Infinity".toList
  | negInfinity => "-Infinity".toList

/-- A part of the encoding, or the error of an integer with too many digits. -/
abbrev EncodedPart := Except PyExc Text

mutual

/-- `json.JSONEncoder(sort_keys=True, separators=(",", ":")).iterencode(…)`. -/
def iterencode : PlainInput → List EncodedPart
  | .none => [.ok "null".toList]
  | .bool b => [.ok (if b then "true".toList else "false".toList)]
  | .int i => [if format.converts i then .ok (toString i).toList else .error .valueError]
  | .float w => [.ok w]
  | .constant c => [.ok c.text]
  | .str s => [.ok (encodeString s)]
  | .list [] => [.ok "[]".toList]
  | .list (item :: items) => .ok ['['] :: (iterencode item ++ (iterencodeItems items ++ [.ok [']']]))
  | .dict [] => [.ok "\x7b\x7d".toList]
  | .dict members =>
    .ok ['\x7b'] :: (List.intercalate [.ok [',']] ((sortPairs (iterencodeMembers members)).map fun m =>
      .ok (encodeString m.1) :: .ok [':'] :: m.2) ++ [.ok ['\x7d']])

/-- The items after the first. -/
def iterencodeItems : List PlainInput → List EncodedPart
  | [] => []
  | item :: items => .ok [','] :: (iterencode item ++ iterencodeItems items)

/-- The members with the parts of their values. -/
def iterencodeMembers : List (PyStr × PlainInput) → List (PyStr × List EncodedPart)
  | [] => []
  | (key, value) :: members => (key, iterencode value) :: iterencodeMembers members

end

/-- The encoding is counted until it exceeds the limit; `onError` is what an integer with too
many digits raises. -/
def countParts (onError : CallExc) : List EncodedPart → Nat → Except CallExc Unit
  | [], _ => .ok ()
  | .error _ :: _, _ => .error onError
  | .ok part :: parts, counted =>
    if defaultInputBytes < counted + (utf8 part).length then
      raiseContract "provider_input_too_large" "provider input exceeds the byte limit"
    else countParts onError parts (counted + (utf8 part).length)

end

/-! ### Normalization -/

/-- The strings of a value of exact types. -/
def normalizedString (message : String) (s : PyStr) : Except CallExc Text :=
  match s.encode? with
  | some t => .ok t
  | none => raiseContract "invalid_provider_input" message

/-- `_normalize_json` of a value of exact types; `levels` as in the traversal. -/
def normalizeJson : Nat → PlainInput → Except CallExc Json
  | 0, _ => raiseContract "provider_input_depth_exceeded" "provider input exceeds the nesting-depth limit"
  | levels + 1, value =>
    match value with
    | .none => .ok .null
    | .bool b => .ok (.bool b)
    | .int i => .ok (.int i)
    | .str s => (normalizedString "provider input strings must be valid UTF-8" s).map .str
    | .float w => .ok (.num w)
    | .constant _ => raiseContract "invalid_provider_input" "provider input contains a non-finite number"
    | .list items => (items.mapM (normalizeJson levels)).map .arr
    | .dict members => do
      let keys ← members.mapM fun m => normalizedString "provider input keys must be valid UTF-8" m.1
      let values ← members.mapM fun m => normalizeJson levels m.2
      return .obj (keys.zip values)

/-! ### The payload -/

mutual

/-- A JSON value as a caller passes it. -/
def inputOf : Json → InputValue
  | .null => .none
  | .bool b => .bool b
  | .int i => .int i
  | .num w => .float w
  | .str s => .str (PyStr.ofText s)
  | .arr items => .list (inputItems items)
  | .obj members => .dict (inputMembers members)

def inputItems : List Json → List InputValue
  | [] => []
  | j :: js => inputOf j :: inputItems js

def inputMembers : List (Text × Json) → List (Option PyStr × InputValue)
  | [] => []
  | (k, j) :: ms => (some (PyStr.ofText k), inputOf j) :: inputMembers ms

end

mutual

/-- A JSON value of exact types. -/
def plainOf : Json → PlainInput
  | .null => .none
  | .bool b => .bool b
  | .int i => .int i
  | .num w => .float w
  | .str s => .str (PyStr.ofText s)
  | .arr items => .list (plainItems items)
  | .obj members => .dict (plainMembers members)

def plainItems : List Json → List PlainInput
  | [] => []
  | j :: js => plainOf j :: plainItems js

def plainMembers : List (Text × Json) → List (PyStr × PlainInput)
  | [] => []
  | (k, j) :: ms => (PyStr.ofText k, plainOf j) :: plainMembers ms

end

/-- `except (TypeError, ValueError, UnicodeError)` about the encoding. -/
def notCompatible : CallExc :=
  .contractError ⟨"invalid_provider_input".toList, "provider input must contain only JSON-compatible values".toList⟩

/-- `_canonical_input_payload`. -/
def canonicalInputPayload (format : Json.NumberFormat) (payload : InputValue) : Except CallExc Json := do
  let plain ← plainInputContainers (defaultNestingDepth + 1) payload defaultInputBytes
  countParts notCompatible (iterencode format plain.1) 0
  let normalized ← normalizeJson (defaultNestingDepth + 1) plain.1
  countParts .other (iterencode format (plainOf normalized)) 0
  match Json.loads format normalized.dumpsSpaced with
  | some copy => .ok copy
  | none => .error .other

/-! ### Payloads of JSON values -/

theorem inputItems_eq_map (items : List Json) : inputItems items = items.map inputOf := by
  induction items with
  | nil => rfl
  | cons j js ih => rw [inputItems, ih, List.map_cons]

theorem plainItems_eq_map (items : List Json) : plainItems items = items.map plainOf := by
  induction items with
  | nil => rfl
  | cons j js ih => rw [plainItems, ih, List.map_cons]

theorem plainMembers_eq_map (members : List (Text × Json)) :
    plainMembers members = members.map fun m => (PyStr.ofText m.1, plainOf m.2) := by
  induction members with
  | nil => rfl
  | cons m ms ih => rw [plainMembers, ih, List.map_cons]

theorem plainOf_arr_sorted (items : List Json) :
    plainOf (Json.arr items).sorted = .list (items.map fun j => plainOf j.sorted) := by
  rw [Json.sorted_arr, plainOf, plainItems_eq_map, List.map_map]
  rfl

theorem plainOf_obj_sorted (members : List (Text × Json)) :
    plainOf (Json.obj members).sorted =
      .dict ((Json.sortByKey members).map fun m => (PyStr.ofText m.1, plainOf m.2.sorted)) := by
  rw [Json.sorted_obj, plainOf, plainMembers_eq_map, List.map_map]
  rfl

/-! ### Keys in order -/

theorem map_code_ofText (t : Text) : (PyStr.ofText t).map PyChar.code = t.map Char.toNat := by
  rw [PyStr.ofText, List.map_map]
  rfl

theorem strictMono_toNat : StrictMono Char.toNat := fun _ _ h => h

/-- Texts are ordered by their code points. -/
theorem sortPairs_ofText {α β : Type} (f : α → β) (members : List (Text × α)) :
    sortPairs (members.map fun m => (PyStr.ofText m.1, f m.2)) =
      (Json.sortByKey members).map fun m => (PyStr.ofText m.1, f m.2) := by
  symm
  apply List.map_insertionSort
  intro a _ b _
  dsimp only
  rw [map_code_ofText, map_code_ofText, Json.map_le_map_iff strictMono_toNat]

theorem stringKeys_inputMembers (members : List (Text × Json)) :
    stringKeys (inputMembers members) = some (members.map fun m => (PyStr.ofText m.1, inputOf m.2)) := by
  induction members with
  | nil => rfl
  | cons m ms ih =>
    obtain ⟨k, j⟩ := m
    rw [inputMembers, stringKeys, ih]
    rfl

theorem orderedMembers_inputMembers {members : List (Text × Json)} (hkeys : (members.map Prod.fst).Nodup) :
    orderedMembers (inputMembers members) =
      .ok ((Json.sortByKey members).map fun m => (PyStr.ofText m.1, inputOf m.2)) := by
  have hnodup : (((Json.sortByKey members).map fun m => (PyStr.ofText m.1, inputOf m.2)).map Prod.fst).Nodup := by
    rw [List.map_map]
    have hmap : (Prod.fst ∘ fun m : Text × Json => (PyStr.ofText m.1, inputOf m.2)) = PyStr.ofText ∘ Prod.fst := rfl
    rw [hmap, ← List.map_map]
    exact (Json.nodup_keys_sortByKey.mpr hkeys).map PyStr.ofText_injective
  rw [orderedMembers, stringKeys_inputMembers]
  dsimp only
  rw [sortPairs_ofText, if_pos hnodup]

/-! ### Depth -/

theorem jsonDepthItems_lt {items : List Json} {n : Nat} :
    jsonDepthItems items < n + 1 ↔ ∀ j ∈ items, jsonDepth j < n := by
  induction items with
  | nil => simp [jsonDepthItems]
  | cons j js ih => rw [jsonDepthItems, max_lt_iff, ih, List.forall_mem_cons, Nat.add_lt_add_iff_right]

theorem jsonDepthMembers_lt {members : List (Text × Json)} {n : Nat} :
    jsonDepthMembers members < n + 1 ↔ ∀ m ∈ members, jsonDepth m.2 < n := by
  induction members with
  | nil => simp [jsonDepthMembers]
  | cons m ms ih => rw [jsonDepthMembers, max_lt_iff, ih, List.forall_mem_cons, Nat.add_lt_add_iff_right]

theorem jsonDepth_arr_lt {items : List Json} {n : Nat} :
    jsonDepth (.arr items) < n + 1 ↔ ∀ j ∈ items, jsonDepth j < n := jsonDepthItems_lt

theorem jsonDepth_obj_lt {members : List (Text × Json)} {n : Nat} :
    jsonDepth (.obj members) < n + 1 ↔ ∀ m ∈ members, jsonDepth m.2 < n := jsonDepthMembers_lt

/-- Sorting keeps the depth. -/
theorem jsonDepth_sorted_lt (j : Json) (n : Nat) : jsonDepth j.sorted < n ↔ jsonDepth j < n := by
  induction j using Json.induction generalizing n with
  | null => exact Iff.rfl
  | bool b => exact Iff.rfl
  | int i => exact Iff.rfl
  | num w => exact Iff.rfl
  | str s => exact Iff.rfl
  | arr items ih =>
    cases n with
    | zero => exact iff_of_false (Nat.not_lt_zero _) (Nat.not_lt_zero _)
    | succ n =>
      rw [Json.sorted_arr, jsonDepth_arr_lt, jsonDepth_arr_lt, List.forall_mem_map]
      exact forall₂_congr fun j hj => ih j hj n
  | obj members ih =>
    cases n with
    | zero => exact iff_of_false (Nat.not_lt_zero _) (Nat.not_lt_zero _)
    | succ n =>
      rw [Json.sorted_obj, jsonDepth_obj_lt, jsonDepth_obj_lt, List.forall_mem_map]
      simp only [Json.mem_sortByKey]
      exact forall₂_congr fun m hm => ih m hm n

theorem jsonDepth_sorted (j : Json) : jsonDepth j.sorted = jsonDepth j :=
  eq_of_forall_gt_iff (jsonDepth_sorted_lt j)

/-! ### The traversal -/

def tooLarge : CallExc :=
  .contractError ⟨"provider_input_too_large".toList, "provider input exceeds the byte limit".toList⟩

def tooDeep : CallExc :=
  .contractError ⟨"provider_input_depth_exceeded".toList, "provider input exceeds the depth limit".toList⟩

theorem plainInputContainers_list (levels budget : Nat) (items : List Json) :
    plainInputContainers (levels + 1) (inputOf (.arr items)) (budget + 1) =
      (threadItems (fun j => plainInputContainers levels (inputOf j)) items budget).map
        fun p => (.list p.1, p.2) := by
  rw [inputOf, inputItems_eq_map, plainInputContainers, threadItems_map]

theorem plainInputContainers_dict (levels budget : Nat) {members : List (Text × Json)}
    (hkeys : (members.map Prod.fst).Nodup) :
    plainInputContainers (levels + 1) (inputOf (.obj members)) (budget + 1) =
      (threadItems (fun m remaining => (plainInputContainers levels (inputOf m.2) remaining).map
        fun p => ((PyStr.ofText m.1, p.1), p.2)) (Json.sortByKey members) budget).map
          fun p => (.dict p.1, p.2) := by
  rw [inputOf, plainInputContainers, orderedMembers_inputMembers hkeys]
  show (threadItems _ ((Json.sortByKey members).map _) budget >>= _) = _
  rw [threadItems_map]
  rfl

/-- **The budget is a count of the nodes**: the value has those that a traversal takes from it. -/
theorem nodes_of_plainInputContainers {format : Json.NumberFormat} {j : Json} {levels budget : Nat}
    {p : PlainInput × Nat} (hj : j.Readable format) (h : plainInputContainers levels (inputOf j) budget = .ok p) :
    j.nodes + p.2 = budget := by
  rcases budget with - | budget
  · cases levels <;> cases h
  induction j using Json.induction generalizing levels budget p with
  | null =>
    cases levels <;> cases h
    exact Nat.add_comm 1 budget
  | bool b =>
    cases levels <;> cases h
    exact Nat.add_comm 1 budget
  | int i =>
    cases levels <;> cases h
    exact Nat.add_comm 1 budget
  | num w =>
    cases levels <;> cases h
    exact Nat.add_comm 1 budget
  | str s =>
    cases levels <;> cases h
    exact Nat.add_comm 1 budget
  | arr items ih =>
    rcases levels with - | levels
    · cases h
    rw [Json.readable_arr] at hj
    rw [plainInputContainers_list] at h
    obtain ⟨result, hresult, rfl⟩ := except_map_eq_ok_iff.mp h
    have hsum : (items.map Json.nodes).sum + result.2 = budget := by
      refine sum_of_threadItems (fun j' hj' s r hr => ?_) hresult
      rcases s with - | s
      · cases levels <;> cases hr
      · exact ih j' hj' (hj j' hj') s hr
    rw [Json.nodes, Json.nodesItems_eq_sum]
    dsimp only
    omega
  | obj members ih =>
    rcases levels with - | levels
    · cases h
    rw [Json.readable_obj] at hj
    rw [plainInputContainers_dict levels budget hj.1] at h
    obtain ⟨result, hresult, rfl⟩ := except_map_eq_ok_iff.mp h
    have hsum : ((Json.sortByKey members).map fun m => m.2.nodes).sum + result.2 = budget := by
      refine sum_of_threadItems (fun m hm s r hr => ?_) hresult
      obtain ⟨q, hq, rfl⟩ := except_map_eq_ok_iff.mp hr
      rcases s with - | s
      · cases levels <;> cases hq
      · exact ih m (Json.mem_sortByKey.mp hm) (hj.2 m (Json.mem_sortByKey.mp hm)) s hq
    have hperm := ((Json.sortByKey_perm members).map fun m => m.2.nodes).sum_nat
    rw [Json.nodes, Json.nodesMembers_eq_sum]
    dsimp only
    omega

/-- **The traversal under a budget that holds the nodes**: only the depth can stop it. -/
theorem plainInputContainers_inputOf {format : Json.NumberFormat} {j : Json} (hj : j.Readable format)
    (levels : Nat) {budget : Nat} (hbudget : j.nodes ≤ budget) :
    plainInputContainers levels (inputOf j) budget =
      if jsonDepth j < levels then .ok (plainOf j.sorted, budget - j.nodes) else .error tooDeep := by
  have hpos := Json.nodes_pos j
  obtain ⟨budget, rfl⟩ : ∃ b, budget = b + 1 := ⟨budget - 1, by omega⟩
  clear hpos
  -- an item spends what it spends on its own; the budget is threaded through the items
  induction j using Json.induction generalizing levels budget with
  | null => cases levels <;> rfl
  | bool b => cases levels <;> rfl
  | int i => cases levels <;> rfl
  | num w => cases levels <;> rfl
  | str s => cases levels <;> rfl
  | arr items ih =>
    rcases levels with - | levels
    · rfl
    rw [Json.readable_arr] at hj
    rw [Json.nodes, Json.nodesItems_eq_sum] at hbudget ⊢
    have hitems : ∀ j' ∈ items, ∀ s, j'.nodes ≤ s → plainInputContainers levels (inputOf j') s =
        if jsonDepth j' < levels then .ok (plainOf j'.sorted, s - j'.nodes) else .error tooDeep := by
      intro j' hj' s hs
      have hpos := Json.nodes_pos j'
      obtain ⟨s, rfl⟩ : ∃ b, s = b + 1 := ⟨s - 1, by omega⟩
      exact ih j' hj' (hj j' hj') levels s hs
    rw [plainInputContainers_list, threadItems_of_budget hitems (by omega), plainOf_arr_sorted]
    by_cases hdepth : ∀ j' ∈ items, jsonDepth j' < levels
    · rw [if_pos hdepth, if_pos (jsonDepth_arr_lt.mpr hdepth), Nat.add_sub_add_right]
      rfl
    · rw [if_neg hdepth, if_neg fun h => hdepth (jsonDepth_arr_lt.mp h)]
      rfl
  | obj members ih =>
    rcases levels with - | levels
    · rfl
    rw [Json.readable_obj] at hj
    -- the members are visited in sorted order, which does not change their count
    have hperm := ((Json.sortByKey_perm members).map fun m => m.2.nodes).sum_nat
    rw [Json.nodes, Json.nodesMembers_eq_sum, ← hperm] at hbudget ⊢
    have hmembers : ∀ m ∈ Json.sortByKey members, ∀ s, m.2.nodes ≤ s →
        ((plainInputContainers levels (inputOf m.2) s).map fun p => ((PyStr.ofText m.1, p.1), p.2)) =
          if jsonDepth m.2 < levels then .ok ((PyStr.ofText m.1, plainOf m.2.sorted), s - m.2.nodes)
          else .error tooDeep := by
      intro m hm s hs
      have hpos := Json.nodes_pos m.2
      obtain ⟨s, rfl⟩ : ∃ b, s = b + 1 := ⟨s - 1, by omega⟩
      rw [ih m (Json.mem_sortByKey.mp hm) (hj.2 m (Json.mem_sortByKey.mp hm)) levels s hs]
      split_ifs <;> rfl
    rw [plainInputContainers_dict levels budget hj.1, threadItems_of_budget hmembers (by omega), plainOf_obj_sorted]
    have hiff : (∀ m ∈ Json.sortByKey members, jsonDepth m.2 < levels) ↔ jsonDepth (.obj members) < levels + 1 := by
      rw [jsonDepth_obj_lt]
      simp only [Json.mem_sortByKey]
    by_cases hdepth : jsonDepth (.obj members) < levels + 1
    · rw [if_pos (hiff.mpr hdepth), if_pos hdepth, Nat.add_sub_add_right]
      rfl
    · rw [if_neg fun h => hdepth (hiff.mp h), if_neg hdepth]
      rfl

/-! ### The encoding is the canonical text -/

/-- The parts are all there, and their texts make up a text. -/
def SpellsOut (parts : List EncodedPart) (t : Text) : Prop :=
  ∃ texts : List Text, parts = texts.map .ok ∧ texts.flatten = t

theorem spellsOut_singleton (t : Text) : SpellsOut [.ok t] t := ⟨[t], rfl, List.append_nil t⟩

theorem SpellsOut.append {parts parts' : List EncodedPart} {t t' : Text} (h : SpellsOut parts t)
    (h' : SpellsOut parts' t') : SpellsOut (parts ++ parts') (t ++ t') := by
  obtain ⟨texts, rfl, rfl⟩ := h
  obtain ⟨texts', rfl, rfl⟩ := h'
  exact ⟨texts ++ texts', List.map_append.symm, List.flatten_append⟩

theorem SpellsOut.cons {parts : List EncodedPart} {t : Text} (h : SpellsOut parts t) (part : Text) :
    SpellsOut (.ok part :: parts) (part ++ t) := (spellsOut_singleton part).append h

/-- Members between commas. -/
theorem spellsOut_commas {α : Type*} {f : α → List EncodedPart} {g : α → Text} {items : List α}
    (h : ∀ a ∈ items, SpellsOut (f a) (g a)) :
    SpellsOut (List.intercalate [.ok [',']] (items.map f)) (Json.commas (items.map g)) := by
  induction items with
  | nil => exact ⟨[], rfl, rfl⟩
  | cons a items ih =>
    rw [List.forall_mem_cons] at h
    cases items with
    | nil =>
      rw [Json.commas]
      simpa using h.1
    | cons b items =>
      rw [Json.commas, List.map_cons, List.map_cons, List.map_cons, List.map_cons, List.intercalate_cons_cons,
        List.intercalate_cons_cons]
      exact (h.1.append (spellsOut_singleton [','])).append (ih h.2)

theorem encodeString_ofText (t : Text) : encodeString (PyStr.ofText t) = Json.quote t := by
  rw [encodeString, Json.quote, PyStr.ofText, List.flatMap_map]
  rfl

theorem iterencodeMembers_eq_map (format : Json.NumberFormat) (members : List (PyStr × PlainInput)) :
    iterencodeMembers format members = members.map fun m => (m.1, iterencode format m.2) := by
  induction members with
  | nil => rfl
  | cons m ms ih => rw [iterencodeMembers, ih, List.map_cons]

/-- The items after the first, each behind its comma. -/
theorem spellsOut_iterencodeItems {format : Json.NumberFormat} {first : Json} {items : List Json}
    (hfirst : SpellsOut (iterencode format (plainOf first)) first.dumps)
    (h : ∀ j ∈ items, SpellsOut (iterencode format (plainOf j)) j.dumps) :
    SpellsOut (iterencode format (plainOf first) ++ iterencodeItems format (items.map plainOf))
      (Json.commas ((first :: items).map Json.dumps)) := by
  induction items generalizing first with
  | nil =>
    rw [List.map_nil, iterencodeItems, List.append_nil, Json.commas]
    simpa using hfirst
  | cons j items ih =>
    rw [List.forall_mem_cons] at h
    rw [Json.commas, List.map_cons, List.map_cons, List.map_cons, List.intercalate_cons_cons, iterencodeItems]
    have hrest := (ih h.1 h.2).cons [',']
    rw [List.append_assoc]
    exact hfirst.append hrest

/-- **The parts of the encoding** make up the canonical text. -/
theorem spellsOut_iterencode {format : Json.NumberFormat} {j : Json} (hj : j.Readable format) :
    SpellsOut (iterencode format (plainOf j)) j.dumps := by
  induction j using Json.induction with
  | null => exact spellsOut_singleton _
  | bool b => exact spellsOut_singleton _
  | int i =>
    rw [Json.Readable] at hj
    rw [plainOf, iterencode, if_pos hj]
    exact spellsOut_singleton _
  | num w => exact spellsOut_singleton _
  | str s =>
    rw [plainOf, iterencode, encodeString_ofText]
    exact spellsOut_singleton _
  | arr items ih =>
    rw [Json.readable_arr] at hj
    rw [plainOf, plainItems_eq_map, Json.dumps, Json.dumpsItems_eq_map]
    cases items with
    | nil => exact spellsOut_singleton _
    | cons first items =>
      rw [List.forall_mem_cons] at hj ih
      rw [List.map_cons, iterencode, ← List.append_assoc]
      have hitems := spellsOut_iterencodeItems (ih.1 hj.1) fun j hj' => ih.2 j hj' (hj.2 j hj')
      exact (hitems.append (spellsOut_singleton [']'])).cons ['[']
  | obj members ih =>
    rw [Json.readable_obj] at hj
    rw [plainOf, plainMembers_eq_map, Json.dumps_obj]
    cases members with
    | nil => exact spellsOut_singleton _
    | cons m members =>
      -- the encoder sorts the written members, the text the parsed ones
      have hsorted : sortPairs (iterencodeMembers format
          ((m :: members).map fun m => (PyStr.ofText m.1, plainOf m.2))) =
            (Json.sortByKey (m :: members)).map fun m => (PyStr.ofText m.1, iterencode format (plainOf m.2)) := by
        rw [iterencodeMembers_eq_map, List.map_map]
        exact sortPairs_ofText (fun j => iterencode format (plainOf j)) (m :: members)
      rw [List.map_cons] at hsorted ⊢
      rw [iterencode, hsorted, List.map_map]
      · refine SpellsOut.cons (SpellsOut.append (spellsOut_commas fun m' hm' => ?_) (spellsOut_singleton _)) ['\x7b']
        show SpellsOut (.ok (encodeString (PyStr.ofText m'.1)) :: .ok [':'] :: iterencode format (plainOf m'.2)) _
        rw [encodeString_ofText, Json.member]
        have hmem := Json.mem_sortByKey.mp hm'
        exact ((ih m' hmem (hj.2 m' hmem)).cons [':']).cons _
      · intro h
        cases h

/-- **The count** lets a text through that does not exceed the limit. -/
theorem countParts_of_spells {onError : CallExc} {parts : List EncodedPart} {t : Text} (h : SpellsOut parts t)
    {counted : Nat} (hcounted : counted ≤ defaultInputBytes) :
    countParts onError parts counted =
      if counted + (utf8 t).length ≤ defaultInputBytes then .ok () else .error tooLarge := by
  obtain ⟨texts, rfl, rfl⟩ := h
  induction texts generalizing counted with
  | nil =>
    rw [if_pos (by simpa [utf8] using hcounted)]
    rfl
  | cons part texts ih =>
    rw [List.map_cons, countParts, List.flatten_cons, utf8_append, List.length_append]
    split_ifs with hexceeds hfits hfits
    · omega
    · rfl
    · rw [ih (by omega), if_pos (by omega)]
    · rw [ih (by omega), if_neg (by omega)]

/-! ### Normalization keeps JSON values -/

theorem normalizedString_ofText (message : String) (t : Text) :
    normalizedString message (PyStr.ofText t) = .ok t := by
  rw [normalizedString, PyStr.encode?_ofText]

/-- A value within the depth is normalized to itself. -/
theorem normalizeJson_plainOf {j : Json} {levels : Nat} (hdepth : jsonDepth j < levels) :
    normalizeJson levels (plainOf j) = .ok j := by
  rcases levels with - | levels
  · exact absurd hdepth (Nat.not_lt_zero _)
  induction j using Json.induction generalizing levels with
  | null => rfl
  | bool b => rfl
  | int i => rfl
  | num w => rfl
  | str s =>
    rw [plainOf, normalizeJson, normalizedString_ofText]
    rfl
  | arr items ih =>
    rw [jsonDepth_arr_lt] at hdepth
    have hitems : (items.map plainOf).mapM (normalizeJson levels) = .ok items := by
      rw [mapM_eq_ok_iff, List.map_map]
      refine List.map_congr_left fun j' hj' => ?_
      have hlevels := hdepth j' hj'
      obtain ⟨n, rfl⟩ : ∃ n, levels = n + 1 := ⟨levels - 1, by omega⟩
      exact ih j' hj' n hlevels
    rw [plainOf, plainItems_eq_map, normalizeJson, hitems]
    rfl
  | obj members ih =>
    rw [jsonDepth_obj_lt] at hdepth
    -- keys and values are normalized apart and zipped again
    have hkeys : (members.map fun m => (PyStr.ofText m.1, plainOf m.2)).mapM
        (fun m => normalizedString "provider input keys must be valid UTF-8" m.1) = .ok (members.map Prod.fst) := by
      rw [mapM_eq_ok_iff, List.map_map, List.map_map]
      exact List.map_congr_left fun m _ => normalizedString_ofText _ m.1
    have hvalues : (members.map fun m => (PyStr.ofText m.1, plainOf m.2)).mapM (fun m => normalizeJson levels m.2) =
        .ok (members.map Prod.snd) := by
      rw [mapM_eq_ok_iff, List.map_map, List.map_map]
      refine List.map_congr_left fun m hm => ?_
      have hlevels := hdepth m hm
      obtain ⟨n, rfl⟩ : ∃ n, levels = n + 1 := ⟨levels - 1, by omega⟩
      exact ih m hm n hlevels
    rw [plainOf, plainMembers_eq_map, normalizeJson, hkeys]
    show (List.mapM (fun m : PyStr × PlainInput => normalizeJson levels m.2) _ >>= _) = _
    rw [hvalues]
    show Except.ok (Json.obj ((members.map Prod.fst).zip (members.map Prod.snd))) = _
    rw [← List.unzip_fst, ← List.unzip_snd, List.zip_unzip]

/-! ### The payload is bounded exactly -/

section

variable {format : Json.NumberFormat}

/-- What fits is accepted, in its canonical form. -/
theorem canonicalInputPayload_of_fits {j : Json} (hj : j.Readable format) (hdepth : jsonDepth j ≤ defaultNestingDepth)
    (hbytes : (utf8 j.dumps).length ≤ defaultInputBytes) :
    canonicalInputPayload format (inputOf j) = .ok j.sorted := by
  have hnodes : j.nodes ≤ defaultInputBytes :=
    (Json.nests_dumps.nodes_le_length j hj).trans ((length_le_utf8 _).trans hbytes)
  have hplain : plainInputContainers (defaultNestingDepth + 1) (inputOf j) defaultInputBytes =
      .ok (plainOf j.sorted, defaultInputBytes - j.nodes) := by
    rw [plainInputContainers_inputOf hj _ hnodes, if_pos (Nat.lt_succ_of_le hdepth)]
  have hcount : ∀ onError, countParts onError (iterencode format (plainOf j.sorted)) 0 = .ok () := by
    intro onError
    rw [countParts_of_spells (spellsOut_iterencode hj.sorted) (Nat.zero_le _), Json.dumps_sorted,
      if_pos (by rwa [Nat.zero_add])]
  have hnormalized : normalizeJson (defaultNestingDepth + 1) (plainOf j.sorted) = .ok j.sorted :=
    normalizeJson_plainOf (by rw [jsonDepth_sorted]; exact Nat.lt_succ_of_le hdepth)
  rw [canonicalInputPayload, hplain]
  show (countParts notCompatible (iterencode format (plainOf j.sorted)) 0 >>= _) = _
  rw [hcount]
  show (normalizeJson (defaultNestingDepth + 1) (plainOf j.sorted) >>= _) = _
  rw [hnormalized]
  show (countParts .other (iterencode format (plainOf j.sorted)) 0 >>= _) = _
  rw [hcount]
  show (match Json.loads format j.sorted.dumpsSpaced with | some copy => _ | none => _) = _
  rw [Json.loads_dumpsSpaced hj.sorted]

/-- What is accepted fits. -/
theorem fits_of_canonicalInputPayload {j copy : Json} (hj : j.Readable format)
    (h : canonicalInputPayload format (inputOf j) = .ok copy) :
    jsonDepth j ≤ defaultNestingDepth ∧ (utf8 j.dumps).length ≤ defaultInputBytes := by
  obtain ⟨p, hp, h⟩ := bind_eq_ok_iff.mp h
  obtain ⟨_, hcount, _⟩ := bind_eq_ok_iff.mp h
  have hnodes := nodes_of_plainInputContainers hj hp
  rw [plainInputContainers_inputOf hj _ (by omega)] at hp
  split_ifs at hp with hdepth
  obtain rfl := Except.ok.inj hp
  rw [countParts_of_spells (spellsOut_iterencode hj.sorted) (Nat.zero_le _), Json.dumps_sorted, Nat.zero_add] at hcount
  split_ifs at hcount with hbytes
  exact ⟨Nat.le_of_lt_succ hdepth, hbytes⟩

/-- `DEFAULT_PROVIDER_CALL_LIMITS`. -/
def defaultProviderCallLimits : ProviderCallLimits where
  inputBytes := defaultInputBytes
  metadataBytes := 65536
  nestingDepth := defaultNestingDepth
  outputBytes := 1048576
  chunkBytes := 16384
  events := 4096
  bufferedEvents := 8
  overallSeconds := 30
  idleSeconds := 5
  cleanupSeconds := 1

/-- The call takes what fits, but for the bytes of its metadata. -/
theorem validateRequestAndInput_of_fits {sha256 : List UInt8 → Sha256} {request : ProviderExecutionRequest} {j : Json}
    {converts : Int → Bool} (hints : ∀ i ∈ j.ints, converts i = true)
    (hdepth : jsonDepth j ≤ defaultNestingDepth) (hbytes : (utf8 j.dumps).length ≤ defaultInputBytes)
    (hprepared : request.val.status = .prepared) (hdigest : request.val.inputSha256 = canonicalJsonSha256 sha256 j)
    (hmetadata : ∀ m ∈ metadataOf j, (utf8 m.dumps).length ≤ defaultProviderCallLimits.metadataBytes) :
    validateRequestAndInput sha256 converts (some request) (some j) defaultProviderCallLimits = .ok request := by
  have hints' : ¬ (j.ints.any fun i => !converts i) = true := by
    rw [List.any_eq_true]
    rintro ⟨i, hi, hconverts⟩
    simp [hints i hi] at hconverts
  have hany : ¬ (metadataOf j).any
      (fun m => decide (defaultProviderCallLimits.metadataBytes < (utf8 m.dumps).length)) = true := by
    rw [Option.any_eq_true]
    rintro ⟨m, hm, hlarge⟩
    have hle := hmetadata m hm
    have hlt := of_decide_eq_true hlarge
    omega
  have hdepth' : ¬ defaultProviderCallLimits.nestingDepth < jsonDepth j := not_lt.mpr hdepth
  have hbytes' : ¬ defaultProviderCallLimits.inputBytes < (utf8 j.dumps).length := not_lt.mpr hbytes
  rw [validateRequestAndInput, if_neg (not_not.mpr hprepared), if_neg hdepth', if_neg hints', if_neg hbytes',
    if_neg hany, if_neg (not_not.mpr hdigest.symm)]

/-- **The bound on the payload is exact.**  A JSON value is accepted when no node lies deeper than
the limit and its canonical text is at most so long; the budget of the traversal does not refuse
what fits; and the copy is the same value with the same digest, a fixed point, and taken by the
call that follows. -/
theorem canonicalInputPayload_exact {j : Json} (hj : j.Readable format) :
    ((∃ copy, canonicalInputPayload format (inputOf j) = .ok copy) ↔
        jsonDepth j ≤ defaultNestingDepth ∧ (utf8 j.dumps).length ≤ defaultInputBytes) ∧
      (∀ levels budget, (utf8 j.dumps).length ≤ budget →
        plainInputContainers levels (inputOf j) budget ≠ .error tooLarge) ∧
      ∀ copy, canonicalInputPayload format (inputOf j) = .ok copy →
        Json.Same j copy ∧ (∀ sha256, canonicalJsonSha256 sha256 copy = canonicalJsonSha256 sha256 j) ∧
          canonicalInputPayload format (inputOf copy) = .ok copy ∧
          normalizeJson (defaultProviderCallLimits.nestingDepth + 1) (plainOf copy) = .ok copy ∧
          ∀ (sha256 : List UInt8 → Sha256) (request : ProviderExecutionRequest), request.val.status = .prepared →
            request.val.inputSha256 = canonicalJsonSha256 sha256 j →
            (∀ m ∈ metadataOf copy, (utf8 m.dumps).length ≤ defaultProviderCallLimits.metadataBytes) →
            validateRequestAndInput sha256 format.converts (some request) (some copy) defaultProviderCallLimits =
              .ok request := by
  refine ⟨⟨?_, ?_⟩, ?_, ?_⟩
  · rintro ⟨copy, hcopy⟩
    exact fits_of_canonicalInputPayload hj hcopy
  · rintro ⟨hdepth, hbytes⟩
    exact ⟨j.sorted, canonicalInputPayload_of_fits hj hdepth hbytes⟩
  -- a value has no more nodes than its text has bytes
  · intro levels budget hbudget
    rw [plainInputContainers_inputOf hj levels
      ((Json.nests_dumps.nodes_le_length j hj).trans ((length_le_utf8 _).trans hbudget))]
    split_ifs
    · exact nofun
    · intro h
      exact absurd (Except.error.inj h) (by decide +kernel)
  · intro copy hcopy
    obtain ⟨hdepth, hbytes⟩ := fits_of_canonicalInputPayload hj hcopy
    rw [canonicalInputPayload_of_fits hj hdepth hbytes] at hcopy
    obtain rfl := Except.ok.inj hcopy
    -- the copy is sorted, which changes neither its depth nor its text
    have hdepth' : jsonDepth j.sorted ≤ defaultNestingDepth := (jsonDepth_sorted j).symm ▸ hdepth
    have hbytes' : (utf8 j.sorted.dumps).length ≤ defaultInputBytes := (Json.dumps_sorted j).symm ▸ hbytes
    have hdigest : ∀ sha256, canonicalJsonSha256 sha256 j.sorted = canonicalJsonSha256 sha256 j := by
      intro sha256
      rw [canonicalJsonSha256, canonicalJsonSha256, Json.dumps_sorted]
    refine ⟨Json.same_sorted j, hdigest, ?_, normalizeJson_plainOf (Nat.lt_succ_of_le hdepth'), ?_⟩
    · rw [canonicalInputPayload_of_fits hj.sorted hdepth' hbytes', Json.sorted_sorted]
    · intro sha256 request hprepared hrequest hmetadata
      rw [← hdigest] at hrequest
      exact validateRequestAndInput_of_fits hj.sorted.converts_ints hdepth' hbytes' hprepared hrequest hmetadata

end

namespace InputPayloadDemo

/-- Integers of up to 4300 digits, and floats that are read back as they are written. -/
def format : Json.NumberFormat where
  converts i := decide (i.natAbs < 10 ^ 4300)
  IsWritten w := Json.isFloatLiteral w = true
  reread w := w
  literal _ h := h
  reread_eq _ _ := rfl

/-- `{"b": [1, 1.5], "a": ""}`. -/
def payload : Json :=
  .obj [("b".toList, .arr [.int 1, .num "1.5".toList]), ("a".toList, .str [])]

theorem payload_readable : payload.Readable format := by
  rw [payload, Json.readable_obj, List.forall_mem_cons, List.forall_mem_cons, Json.readable_arr,
    List.forall_mem_cons, List.forall_mem_cons]
  refine ⟨by decide +kernel, ⟨?_, ?_, nofun⟩, ?_, nofun⟩
  · rw [Json.Readable]
    decide +kernel
  · rw [Json.Readable]
    show Json.isFloatLiteral "1.5".toList = true
    decide +kernel
  · show (Json.str []).Readable format
    simp [Json.Readable]

theorem payload_accepted : ∃ copy, canonicalInputPayload format (inputOf payload) = .ok copy :=
  (canonicalInputPayload_exact payload_readable).1.mpr (by decide +kernel)

end InputPayloadDemo

end SkillsSdk

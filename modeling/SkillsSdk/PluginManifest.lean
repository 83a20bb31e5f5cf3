/-
SkillsSdk/PluginManifest.lean

The metadata of a plugin, decoded within a budget.

`_object` reads the captured bytes under hooks that refuse a member that is
repeated and a constant, but no number that is too large.  The budget check then
walks the value: it bounds the number of values and their depth, and it refuses
a string that does not encode and a number that is not finite.  Together they
accept the strict objects within the bounds, and nothing else
(`pluginObject_eq_ok_iff`).
-/
import SkillsSdk.JsonLoads
import SkillsSdk.Lib.BudgetWalk
import SkillsSdk.SkillValidation

namespace SkillsSdk

open BudgetWalk

/-! ### The budget -/

/-- What the walk puts for a value: the items of a list, the keys and the values
of an object. -/
def JsonDoc.children : JsonDoc → List JsonDoc
  | .arr items => items
  | .dict members => members.flatMap fun pair => [.str pair.1, pair.2]
  | .null | .bool _ | .int _ | .float _ | .str _ => []

/-- The rules for one value by itself: a string encodes, a number is finite. -/
def checkJsonLeaf : JsonDoc → Except PyExc Unit
  | .str s => if s.encode?.isSome then .ok () else .error .valueError
  | .float (.finite _) => .ok ()
  | .float .infinity | .float .negInfinity | .float .nan => .error .valueError
  | .null | .bool _ | .int _ | .arr _ | .dict _ => .ok ()

/-- One turn of the loop of `_check_json_budget`, after the count. -/
def checkJsonValue (item : JsonDoc) (depth : Nat) : Except PyExc Unit :=
  if 32 < depth then .error .valueError else checkJsonLeaf item

/-- `_check_json_budget`. -/
def checkJsonBudget (value : JsonDoc) : Except PyExc Unit :=
  walk JsonDoc.children checkJsonValue .valueError 65536 [(value, 0)]

mutual

/-- How many values a value has, itself and the keys included. -/
def JsonDoc.weight : JsonDoc → Nat
  | .arr items => 1 + JsonDoc.weightItems items
  | .dict members => 1 + JsonDoc.weightMembers members
  | .null | .bool _ | .int _ | .float _ | .str _ => 1

def JsonDoc.weightItems : List JsonDoc → Nat
  | [] => 0
  | item :: items => item.weight + JsonDoc.weightItems items

def JsonDoc.weightMembers : JsonMembers → Nat
  | [] => 0
  | (_, value) :: members => 1 + value.weight + JsonDoc.weightMembers members

end

theorem JsonDoc.weightItems_eq (items : List JsonDoc) : weightItems items = (items.map weight).sum := by
  induction items with
  | nil => rfl
  | cons item items ih =>
      rw [weightItems, ih, List.map_cons, List.sum_cons]

theorem JsonDoc.weightMembers_eq (members : JsonMembers) :
    weightMembers members = ((members.flatMap fun pair => [.str pair.1, pair.2]).map weight).sum := by
  induction members with
  | nil => rfl
  | cons pair members ih =>
      obtain ⟨key, value⟩ := pair
      rw [weightMembers, ih, List.flatMap_cons, List.map_append, List.sum_append, List.map_cons, List.sum_cons,
        List.map_cons, List.sum_cons, List.map_nil, List.sum_nil, Nat.add_zero, weight]

theorem JsonDoc.weight_eq (d : JsonDoc) : d.weight = 1 + (d.children.map weight).sum := by
  cases d with
  | arr items => rw [weight, weightItems_eq, children]
  | dict members => rw [weight, weightMembers_eq, children]
  | null => rw [weight, children]; rfl
  | bool b => rw [weight, children]; rfl
  | int i => rw [weight, children]; rfl
  | float f => rw [weight, children]; rfl
  | str s => rw [weight, children]; rfl

/-- A string that encodes, where it is a string. -/
def JsonDoc.EncodesHere (d : JsonDoc) : Prop := ∀ s, d = .str s → s.encode?.isSome = true

/-- A finite number, where it is a floating-point number. -/
def JsonDoc.FiniteHere (d : JsonDoc) : Prop := ∀ f, d = .float f → ∃ q, f = .finite q

theorem checkJsonLeaf_eq_ok_iff {item : JsonDoc} :
    checkJsonLeaf item = .ok () ↔ item.EncodesHere ∧ item.FiniteHere := by
  cases item with
  | str s =>
      rw [checkJsonLeaf]
      constructor
      · intro h
        refine ⟨fun t ht => ?_, nofun⟩
        obtain rfl := JsonDoc.str.inj ht
        by_contra hencode
        rw [if_neg hencode] at h
        cases h
      · rintro ⟨h, -⟩
        exact if_pos (h s rfl)
  | float f =>
      rcases f with q | _ | _ | _
      · exact iff_of_true rfl ⟨nofun, fun f hf => ⟨q, (JsonDoc.float.inj hf).symm⟩⟩
      all_goals
        refine iff_of_false nofun ?_
        rintro ⟨-, hfinite⟩
        obtain ⟨q, hq⟩ := hfinite _ rfl
        cases hq
  | null => exact iff_of_true rfl ⟨nofun, nofun⟩
  | bool b => exact iff_of_true rfl ⟨nofun, nofun⟩
  | int i => exact iff_of_true rfl ⟨nofun, nofun⟩
  | arr items => exact iff_of_true rfl ⟨nofun, nofun⟩
  | dict members => exact iff_of_true rfl ⟨nofun, nofun⟩

theorem checkJsonValue_eq_ok_iff {item : JsonDoc} {depth : Nat} :
    checkJsonValue item depth = .ok () ↔ depth ≤ 32 ∧ item.EncodesHere ∧ item.FiniteHere := by
  rw [checkJsonValue]
  split
  case isTrue hdepth => exact iff_of_false nofun fun h => absurd h.1 (Nat.not_le.mpr hdepth)
  case isFalse hdepth => rw [and_iff_right (Nat.not_lt.mp hdepth), checkJsonLeaf_eq_ok_iff]

/-- What the budget check accepts. -/
structure JsonDoc.InBudget (d : JsonDoc) : Prop where
  weight_le : d.weight ≤ 65536
  depth_le : ∀ n b, Level JsonDoc.children d n b → n ≤ 32
  encodes : ∀ n b, Level JsonDoc.children d n b → b.EncodesHere

/-- The numbers of a value are finite. -/
def JsonDoc.FiniteBelow (d : JsonDoc) : Prop := ∀ n b, Level JsonDoc.children d n b → b.FiniteHere

theorem checkJsonBudget_eq_ok_iff {d : JsonDoc} : checkJsonBudget d = .ok () ↔ d.InBudget ∧ d.FiniteBelow := by
  rw [checkJsonBudget, walk_eq_ok_iff JsonDoc.weight_eq]
  simp only [List.map_cons, List.map_nil, List.sum_cons, List.sum_nil, Nat.add_zero, List.forall_mem_cons,
    Nat.zero_add, checkJsonValue_eq_ok_iff]
  constructor
  · rintro ⟨hweight, hlevels, -⟩
    exact ⟨⟨hweight, fun n b hb => (hlevels n b hb).1, fun n b hb => (hlevels n b hb).2.1⟩,
      fun n b hb => (hlevels n b hb).2.2⟩
  · rintro ⟨hbudget, hfinite⟩
    refine ⟨hbudget.weight_le, fun n b hb => ?_, nofun⟩
    exact ⟨hbudget.depth_le n b hb, hbudget.encodes n b hb, hfinite n b hb⟩

/-! ### The hooks -/

/-- The hooks of `_object`: `_pairs` and `_reject_constant`. -/
def manifestHooks : JsonHooks where
  pairs := uniqueMembers
  float := fun f => .ok (.float f)
  constant := fun _ => .error .valueError

theorem finiteBelow_iff {d : JsonDoc} : d.FiniteBelow ↔ d.FiniteHere ∧ ∀ c ∈ d.children, c.FiniteBelow :=
  forall_level_iff

theorem finiteBelow_arr {items : List JsonDoc} : (JsonDoc.arr items).FiniteBelow ↔ ∀ d ∈ items, d.FiniteBelow := by
  rw [finiteBelow_iff, JsonDoc.children]
  exact and_iff_right nofun

theorem finiteBelow_dict {members : JsonMembers} :
    (JsonDoc.dict members).FiniteBelow ↔ ∀ p ∈ members, p.2.FiniteBelow := by
  have hkey : ∀ s, (JsonDoc.str s).FiniteBelow := fun s =>
    finiteBelow_iff.mpr ⟨nofun, fun c hc => absurd hc List.not_mem_nil⟩
  rw [finiteBelow_iff, JsonDoc.children, and_iff_right nofun]
  constructor
  · intro h p hp
    exact h p.2 (List.mem_flatMap.mpr ⟨p, hp, by simp⟩)
  · intro h c hc
    obtain ⟨p, hp, hc⟩ := List.mem_flatMap.mp hc
    rcases List.mem_cons.mp hc with rfl | hc
    · exact hkey p.1
    · obtain rfl := List.mem_singleton.mp hc
      exact h p hp

/-- A value without values of its own. -/
theorem finiteBelow_leaf {d : JsonDoc} (h : d.children = []) : d.FiniteBelow ↔ d.FiniteHere := by
  rw [finiteBelow_iff, h]
  exact and_iff_left fun c hc => absurd hc List.not_mem_nil

mutual

/-- What the hooks build is finite just for the strict documents. -/
theorem build_manifestHooks_iff {raw : RawJson} {d : JsonDoc} :
    RawJson.build manifestHooks raw = .ok d ∧ d.FiniteBelow ↔ raw.Strict ∧ d = raw.value := by
  match raw with
  | .null | .bool b | .int i | .str s =>
    rw [RawJson.build, RawJson.Strict, true_and, Except.ok.injEq, eq_comm, RawJson.value]
    refine and_iff_left_of_imp ?_
    rintro rfl
    exact (finiteBelow_leaf rfl).mpr nofun
  | .float f =>
    rw [RawJson.build, RawJson.Strict, RawJson.value]
    constructor
    · rintro ⟨h, hfinite⟩
      obtain rfl := Except.ok.inj h
      exact ⟨(finiteBelow_leaf rfl).mp hfinite f rfl, rfl⟩
    · rintro ⟨⟨q, rfl⟩, rfl⟩
      refine ⟨rfl, (finiteBelow_leaf rfl).mpr fun f hf => ⟨q, ?_⟩⟩
      exact (JsonDoc.float.inj hf).symm
  | .constant c =>
    rw [RawJson.build, RawJson.Strict]
    exact iff_of_false (fun h => by cases h.1) fun h => h.1
  | .arr items =>
    rw [RawJson.build, RawJson.Strict, RawJson.value, except_map_eq_ok_iff]
    constructor
    · rintro ⟨⟨ds, hds, rfl⟩, hfinite⟩
      obtain ⟨hstrict, rfl⟩ := buildItems_manifestHooks_iff.mp ⟨hds, finiteBelow_arr.mp hfinite⟩
      exact ⟨hstrict, rfl⟩
    · rintro ⟨hstrict, rfl⟩
      obtain ⟨hds, hfinite⟩ := buildItems_manifestHooks_iff.mpr ⟨hstrict, rfl⟩
      exact ⟨⟨_, hds, rfl⟩, finiteBelow_arr.mpr hfinite⟩
  | .obj pairs =>
    rw [RawJson.build, RawJson.Strict, RawJson.value, except_map_eq_ok_iff]
    constructor
    · rintro ⟨⟨ms, hms, rfl⟩, hfinite⟩
      obtain ⟨ds, hds, hunique⟩ := bind_eq_ok_iff.mp hms
      obtain ⟨hnodup, rfl⟩ := uniqueMembers_eq_ok_iff.mp hunique
      obtain ⟨hstrict, rfl⟩ := buildPairs_manifestHooks_iff.mp ⟨hds, finiteBelow_dict.mp hfinite⟩
      rw [RawJson.valuePairs_keys] at hnodup
      exact ⟨⟨hnodup, hstrict⟩, rfl⟩
    · rintro ⟨⟨hnodup, hstrict⟩, rfl⟩
      obtain ⟨hds, hfinite⟩ := buildPairs_manifestHooks_iff.mpr ⟨hstrict, rfl⟩
      refine ⟨⟨RawJson.valuePairs pairs, bind_eq_ok_iff.mpr ⟨_, hds, ?_⟩, rfl⟩, finiteBelow_dict.mpr hfinite⟩
      exact uniqueMembers_eq_ok_iff.mpr ⟨by rwa [RawJson.valuePairs_keys], rfl⟩

theorem buildItems_manifestHooks_iff {items : List RawJson} {ds : List JsonDoc} :
    (RawJson.buildItems manifestHooks items = .ok ds ∧ ∀ d ∈ ds, d.FiniteBelow) ↔
      RawJson.StrictItems items ∧ ds = RawJson.valueItems items := by
  match items with
  | [] =>
    rw [RawJson.buildItems, RawJson.StrictItems, true_and, Except.ok.injEq, eq_comm, RawJson.valueItems]
    refine and_iff_left_of_imp ?_
    rintro rfl
    exact fun d hd => absurd hd List.not_mem_nil
  | item :: items =>
    rw [RawJson.buildItems, RawJson.StrictItems, RawJson.valueItems, bind_eq_ok_iff]
    constructor
    · rintro ⟨⟨d, hd, h⟩, hfinite⟩
      obtain ⟨ds', hds, h⟩ := bind_eq_ok_iff.mp h
      obtain rfl := Except.ok.inj h
      rw [List.forall_mem_cons] at hfinite
      obtain ⟨hstrict, rfl⟩ := build_manifestHooks_iff.mp ⟨hd, hfinite.1⟩
      obtain ⟨hstricts, rfl⟩ := buildItems_manifestHooks_iff.mp ⟨hds, hfinite.2⟩
      exact ⟨⟨hstrict, hstricts⟩, rfl⟩
    · rintro ⟨⟨hstrict, hstricts⟩, rfl⟩
      obtain ⟨hd, hfinite⟩ := build_manifestHooks_iff.mpr ⟨hstrict, rfl⟩
      obtain ⟨hds, hfinites⟩ := buildItems_manifestHooks_iff.mpr ⟨hstricts, rfl⟩
      refine ⟨⟨_, hd, bind_eq_ok_iff.mpr ⟨_, hds, rfl⟩⟩, ?_⟩
      exact List.forall_mem_cons.mpr ⟨hfinite, hfinites⟩

theorem buildPairs_manifestHooks_iff {pairs : List (PyStr × RawJson)} {ds : JsonMembers} :
    (RawJson.buildPairs manifestHooks pairs = .ok ds ∧ ∀ p ∈ ds, p.2.FiniteBelow) ↔
      RawJson.StrictPairs pairs ∧ ds = RawJson.valuePairs pairs := by
  match pairs with
  | [] =>
    rw [RawJson.buildPairs, RawJson.StrictPairs, true_and, Except.ok.injEq, eq_comm, RawJson.valuePairs]
    refine and_iff_left_of_imp ?_
    rintro rfl
    exact fun d hd => absurd hd List.not_mem_nil
  | (key, value) :: pairs =>
    rw [RawJson.buildPairs, RawJson.StrictPairs, RawJson.valuePairs, bind_eq_ok_iff]
    constructor
    · rintro ⟨⟨d, hd, h⟩, hfinite⟩
      obtain ⟨ds', hds, h⟩ := bind_eq_ok_iff.mp h
      obtain rfl := Except.ok.inj h
      rw [List.forall_mem_cons] at hfinite
      obtain ⟨hstrict, rfl⟩ := build_manifestHooks_iff.mp ⟨hd, hfinite.1⟩
      obtain ⟨hstricts, rfl⟩ := buildPairs_manifestHooks_iff.mp ⟨hds, hfinite.2⟩
      exact ⟨⟨hstrict, hstricts⟩, rfl⟩
    · rintro ⟨⟨hstrict, hstricts⟩, rfl⟩
      obtain ⟨hd, hfinite⟩ := build_manifestHooks_iff.mpr ⟨hstrict, rfl⟩
      obtain ⟨hds, hfinites⟩ := buildPairs_manifestHooks_iff.mpr ⟨hstricts, rfl⟩
      refine ⟨⟨_, hd, bind_eq_ok_iff.mpr ⟨_, hds, rfl⟩⟩, ?_⟩
      exact List.forall_mem_cons.mpr ⟨hfinite, hfinites⟩

end

/-! ### Objects -/

/-- `PLUGIN_MANIFEST_MAX_BYTES`. -/
def pluginManifestMaxBytes : Nat := 1048576

/-- `_object`. -/
def pluginObject (decoder : JsonDecoder) (payload : List UInt8) : Except PyExc JsonMembers :=
  if pluginManifestMaxBytes < payload.length then .error .valueError
  else
    match decodeUtf8 payload with
    | none => .error .unicodeDecodeError
    | some text => do
      let parsed ← loadsWith manifestHooks (decoder.ofText (PyStr.ofText text))
      checkJsonBudget parsed
      match parsed with
      | .dict members => .ok members
      | _ => .error .valueError

theorem checkJsonLeaf_eq_error {item : JsonDoc} {e : PyExc} (h : checkJsonLeaf item = .error e) :
    e = .valueError := by
  cases item with
  | str s =>
      rw [checkJsonLeaf] at h
      split at h
      · cases h
      · exact (Except.error.inj h).symm
  | float f =>
      rcases f with q | _ | _ | _
      · cases h
      all_goals exact (Except.error.inj h).symm
  | null => cases h
  | bool b => cases h
  | int i => cases h
  | arr items => cases h
  | dict members => cases h

/-- The budget check raises value errors only. -/
theorem checkJsonBudget_eq_error {d : JsonDoc} {e : PyExc} (h : checkJsonBudget d = .error e) :
    e = .valueError := by
  rcases walk_eq_error h with rfl | ⟨item, depth, hitem⟩
  · rfl
  · rw [checkJsonValue] at hitem
    split at hitem
    · exact (Except.error.inj hitem).symm
    · exact checkJsonLeaf_eq_error hitem

theorem manifestHooks_raisesValueErrors : manifestHooks.RaisesValueErrors where
  pairs _ _ h := uniqueMembersFrom_eq_error h
  float _ _ h := by cases h
  constant _ _ h := (Except.error.inj h).symm

/-- What is raised is a value error, a decode error or a recursion error. -/
theorem pluginObject_eq_error {decoder : JsonDecoder} {payload : List UInt8} {e : PyExc}
    (h : pluginObject decoder payload = .error e) : ∃ fault : JsonFault, e = fault.exc := by
  rw [pluginObject] at h
  split at h
  · exact ⟨.valueError, (Except.error.inj h).symm⟩
  · split at h
    · exact ⟨.unicodeDecodeError, (Except.error.inj h).symm⟩
    · rcases bind_eq_error_iff.mp h with hparsed | ⟨parsed, -, h⟩
      · exact loadsWith_eq_error manifestHooks_raisesValueErrors hparsed
      · rcases bind_eq_error_iff.mp h with hbudget | ⟨⟨⟩, -, h⟩
        · exact ⟨.valueError, checkJsonBudget_eq_error hbudget⟩
        · split at h
          · cases h
          · exact ⟨.valueError, (Except.error.inj h).symm⟩

/-- The objects that are accepted are the strict ones within the budget: each
member once, no constants, finite numbers, strings that encode, at most 65536
values and no value more than 32 levels below the object. -/
theorem pluginObject_eq_ok_iff {decoder : JsonDecoder} {payload : List UInt8} {members : JsonMembers} :
    pluginObject decoder payload = .ok members ↔
      payload.length ≤ pluginManifestMaxBytes ∧ ∃ text raw, decodeUtf8 payload = some text ∧
        decoder.ofText (PyStr.ofText text) = .ok raw ∧ raw.Strict ∧ raw.value = .dict members ∧
        (JsonDoc.dict members).InBudget := by
  rw [pluginObject]
  split
  case isTrue hlength =>
    exact iff_of_false nofun fun h => absurd h.1 (Nat.not_le.mpr hlength)
  case isFalse hlength =>
    rw [and_iff_right (Nat.not_lt.mp hlength)]
    rcases htext : decodeUtf8 payload with - | text
    · exact iff_of_false nofun fun ⟨text, raw, h, _⟩ => by cases h
    -- the decoder refuses what is not strict; the budget is checked on its value
    · constructor
      · intro h
        obtain ⟨parsed, hparsed, h⟩ := bind_eq_ok_iff.mp h
        obtain ⟨⟨⟩, hbudget, h⟩ := bind_eq_ok_iff.mp h
        obtain ⟨hin, hfinite⟩ := checkJsonBudget_eq_ok_iff.mp hbudget
        obtain ⟨raw, hraw, hbuild⟩ := bind_eq_ok_iff.mp hparsed
        obtain ⟨hstrict, rfl⟩ := build_manifestHooks_iff.mp ⟨hbuild, hfinite⟩
        have hvalue : raw.value = .dict members := by
          split at h
          · rename_i ms heq
            rw [heq, Except.ok.inj h]
          · cases h
        exact ⟨text, raw, rfl, mapError_eq_ok_iff.mp hraw, hstrict, hvalue, hvalue ▸ hin⟩
      · rintro ⟨text', raw, heq, hraw, hstrict, hvalue, hin⟩
        obtain rfl := Option.some.inj heq
        obtain ⟨hbuild, hfinite⟩ := build_manifestHooks_iff.mpr ⟨hstrict, rfl⟩
        rw [hvalue] at hbuild hfinite
        refine bind_eq_ok_iff.mpr ⟨.dict members, ?_, bind_eq_ok_iff.mpr ⟨(), ?_, rfl⟩⟩
        · exact bind_eq_ok_iff.mpr ⟨raw, mapError_eq_ok_iff.mpr hraw, hbuild⟩
        · exact checkJsonBudget_eq_ok_iff.mpr ⟨hin, hfinite⟩

/-! ### Known fields -/

/-- `PLUGIN_SCHEMA_URI`. -/
def pluginSchemaUri : String := "https://agent-plugins.org/schemas/1.0.0/plugin.schema.json"

/-- `type(value) is str`. -/
def JsonDoc.isStr : JsonDoc → Bool
  | .str _ => true
  | .null | .bool _ | .int _ | .float _ | .arr _ | .dict _ => false

/-- `value == word`, of a written word. -/
def JsonDoc.isWord (word : String) : JsonDoc → Bool
  | .str s => decide (s = PyStr.lit word)
  | .null | .bool _ | .int _ | .float _ | .arr _ | .dict _ => false

/-- The optional fields that are texts. -/
def manifestTextFields : List String := ["version", "description", "homepage", "repository", "license"]

/-- The members of an author. -/
def authorFields : List PyStr := ["name", "email", "url"].map PyStr.lit

/-- A closed object of strings. -/
def JsonDoc.isAuthor : JsonDoc → Bool
  | .dict author => author.all fun p => decide (p.1 ∈ authorFields) && p.2.isStr
  | .null | .bool _ | .int _ | .float _ | .str _ | .arr _ => false

/-- An array of strings. -/
def JsonDoc.isKeywords : JsonDoc → Bool
  | .arr keywords => keywords.all JsonDoc.isStr
  | .null | .bool _ | .int _ | .float _ | .str _ | .dict _ => false

/-- `_known_fields`. -/
def knownFields (value : JsonMembers) : Except PyExc Unit :=
  if ¬ ((jsonGet value "$schema").any (JsonDoc.isWord pluginSchemaUri) ∧ (jsonGet value "name").any JsonDoc.isStr) then
    .error .valueError
  else if ¬ ∀ key ∈ manifestTextFields, (jsonGet value key).all JsonDoc.isStr then .error .valueError
  else if ¬ (jsonGet value "author").all JsonDoc.isAuthor then .error .valueError
  else if ¬ (jsonGet value "keywords").all JsonDoc.isKeywords then .error .valueError
  else .ok ()

/-- The fields of a manifest have their types. -/
structure TypedManifest (value : JsonMembers) : Prop where
  schema : jsonGet value "$schema" = some (.str (PyStr.lit pluginSchemaUri))
  name : ∃ s, jsonGet value "name" = some (.str s)
  texts : ∀ key ∈ manifestTextFields, ∀ d, jsonGet value key = some d → ∃ s, d = .str s
  author : ∀ d, jsonGet value "author" = some d →
    ∃ author, d = .dict author ∧ ∀ p ∈ author, p.1 ∈ authorFields ∧ ∃ s, p.2 = .str s
  keywords : ∀ d, jsonGet value "keywords" = some d → ∃ items, d = .arr items ∧ ∀ item ∈ items, ∃ s, item = .str s

theorem isStr_iff {d : JsonDoc} : d.isStr = true ↔ ∃ s, d = .str s := by
  cases d with
  | str s => exact iff_of_true rfl ⟨s, rfl⟩
  | null | bool | int | float | arr | dict => exact iff_of_false nofun nofun

theorem isWord_iff {word : String} {d : JsonDoc} : d.isWord word = true ↔ d = .str (PyStr.lit word) := by
  cases d with
  | str s => rw [JsonDoc.isWord, decide_eq_true_iff, JsonDoc.str.injEq]
  | null | bool | int | float | arr | dict => exact iff_of_false nofun nofun

theorem isAuthor_iff {d : JsonDoc} : d.isAuthor = true ↔
    ∃ author, d = .dict author ∧ ∀ p ∈ author, p.1 ∈ authorFields ∧ ∃ s, p.2 = .str s := by
  cases d with
  | dict author =>
      rw [JsonDoc.isAuthor]
      simp only [List.all_eq_true, Bool.and_eq_true, decide_eq_true_iff, isStr_iff, JsonDoc.dict.injEq,
        exists_eq_left']
  | null | bool | int | float | str | arr => exact iff_of_false nofun nofun

theorem isKeywords_iff {d : JsonDoc} : d.isKeywords = true ↔
    ∃ items, d = .arr items ∧ ∀ item ∈ items, ∃ s, item = .str s := by
  cases d with
  | arr items =>
      rw [JsonDoc.isKeywords]
      simp only [List.all_eq_true, isStr_iff, JsonDoc.arr.injEq, exists_eq_left']
  | null | bool | int | float | str | dict => exact iff_of_false nofun nofun

theorem knownFields_eq_ok_iff {value : JsonMembers} : knownFields value = .ok () ↔ TypedManifest value := by
  have hany : ∀ {p : JsonDoc → Bool} {d : Option JsonDoc}, d.any p = true ↔ ∃ x, d = some x ∧ p x = true := by
    intro p d
    rcases d with - | x <;> simp
  have hall : ∀ {p : JsonDoc → Bool} {d : Option JsonDoc}, d.all p = true ↔ ∀ x, d = some x → p x = true := by
    intro p d
    rcases d with - | x <;> simp
  -- each field is checked on its own, in the order of the source
  have hrules : knownFields value = .ok () ↔
      ((jsonGet value "$schema").any (JsonDoc.isWord pluginSchemaUri) = true ∧
        (jsonGet value "name").any JsonDoc.isStr = true) ∧
      (∀ key ∈ manifestTextFields, (jsonGet value key).all JsonDoc.isStr = true) ∧
      (jsonGet value "author").all JsonDoc.isAuthor = true ∧
      (jsonGet value "keywords").all JsonDoc.isKeywords = true := by
    rw [knownFields]
    split
    case isTrue hroot => exact iff_of_false nofun fun h => hroot h.1
    case isFalse hroot =>
      rw [and_iff_right (not_not.mp hroot)]
      split
      case isTrue htexts => exact iff_of_false nofun fun h => htexts h.1
      case isFalse htexts =>
        rw [and_iff_right (not_not.mp htexts)]
        split
        case isTrue hauthor => exact iff_of_false nofun fun h => hauthor h.1
        case isFalse hauthor =>
          rw [and_iff_right (not_not.mp hauthor)]
          split
          case isTrue hkeywords => exact iff_of_false nofun hkeywords
          case isFalse hkeywords => exact iff_of_true rfl (not_not.mp hkeywords)
  rw [hrules]
  simp only [hany, hall, isWord_iff, isStr_iff, isAuthor_iff, isKeywords_iff]
  constructor
  · rintro ⟨⟨⟨d, hschema, rfl⟩, ⟨e, hname, s, rfl⟩⟩, htexts, hauthor, hkeywords⟩
    exact ⟨hschema, ⟨s, hname⟩, htexts, hauthor, hkeywords⟩
  · rintro ⟨hschema, ⟨s, hname⟩, htexts, hauthor, hkeywords⟩
    exact ⟨⟨⟨_, hschema, rfl⟩, ⟨_, hname, s, rfl⟩⟩, htexts, hauthor, hkeywords⟩

theorem knownFields_eq_error {value : JsonMembers} {e : PyExc} (h : knownFields value = .error e) :
    e = .valueError := by
  unfold knownFields at h
  split_ifs at h
  all_goals exact (Except.error.inj h).symm

/-- The root metadata of `parse_plugin_manifest`: its object, with the known fields checked. -/
def manifestRoot (decoder : JsonDecoder) (payload : List UInt8) : Except PyExc JsonMembers := do
  let value ← pluginObject decoder payload
  knownFields value
  return value

/-- **The root metadata that is accepted**: bytes within the limit that hold a
strict object of bounded size and depth whose known fields have their types.
Whatever else the bytes are, the exception is one that a decoder raises. -/
theorem manifest_root_accepted (decoder : JsonDecoder) (payload : List UInt8) :
    (∀ members, manifestRoot decoder payload = .ok members ↔
      payload.length ≤ pluginManifestMaxBytes ∧ (∃ text raw, decodeUtf8 payload = some text ∧
        decoder.ofText (PyStr.ofText text) = .ok raw ∧ raw.Strict ∧ raw.value = .dict members) ∧
        (JsonDoc.dict members).InBudget ∧ TypedManifest members) ∧
      ∀ e, manifestRoot decoder payload = .error e → ∃ fault : JsonFault, e = fault.exc := by
  constructor
  · intro members
    rw [manifestRoot, bind_eq_ok_iff]
    constructor
    · rintro ⟨value, hvalue, h⟩
      obtain ⟨⟨⟩, hknown, h⟩ := bind_eq_ok_iff.mp h
      obtain rfl := Except.ok.inj h
      obtain ⟨hlength, text, raw, htext, hraw, hstrict, heq, hbudget⟩ := pluginObject_eq_ok_iff.mp hvalue
      exact ⟨hlength, ⟨text, raw, htext, hraw, hstrict, heq⟩, hbudget, knownFields_eq_ok_iff.mp hknown⟩
    · rintro ⟨hlength, ⟨text, raw, htext, hraw, hstrict, heq⟩, hbudget, htyped⟩
      refine ⟨members, pluginObject_eq_ok_iff.mpr ⟨hlength, text, raw, htext, hraw, hstrict, heq, hbudget⟩, ?_⟩
      exact bind_eq_ok_iff.mpr ⟨(), knownFields_eq_ok_iff.mpr htyped, rfl⟩
  · intro e h
    rcases bind_eq_error_iff.mp h with hobject | ⟨value, -, h⟩
    · exact pluginObject_eq_error hobject
    · rcases bind_eq_error_iff.mp h with hknown | ⟨⟨⟩, -, h⟩
      · exact ⟨.valueError, knownFields_eq_error hknown⟩
      · cases h

end SkillsSdk

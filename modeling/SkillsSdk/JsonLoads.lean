/-
SkillsSdk/JsonLoads.lean

`json.loads` and its hooks.

The decoder of the standard library is a parameter: it reads bytes or a string
into a raw tree, with every member of an object and with the constants that are
no JSON, or raises.  The hooks then build the value bottom-up.  The hooks that
the package uses against untrusted output refuse a repeated member, a constant
and a number that is not finite; what they accept is `RawJson.Strict`.
-/
import SkillsSdk.Lib.KeyedList
import SkillsSdk.Raising
import SkillsSdk.SkillIr
import SkillsSdk.YamlValues

namespace SkillsSdk

/-! ### Documents -/

/-- `NaN`, `Infinity` and `-Infinity`. -/
inductive JsonConstant where
  | nan
  | infinity
  | negInfinity
  deriving DecidableEq

/-- A document as it is read; `float` is what `float(…)` makes of the literal. -/
inductive RawJson where
  | null
  | bool (b : Bool)
  | int (i : Int)
  | float (f : PyFloat)
  | constant (c : JsonConstant)
  | str (s : PyStr)
  | arr (items : List RawJson)
  | obj (pairs : List (PyStr × RawJson))

/-- A loaded value. -/
inductive JsonDoc where
  | null
  | bool (b : Bool)
  | int (i : Int)
  | float (f : PyFloat)
  | str (s : PyStr)
  | arr (items : List JsonDoc)
  | dict (members : List (PyStr × JsonDoc))

abbrev JsonMembers := List (PyStr × JsonDoc)

/-- `mapping.get(key)`, where a missing member is told from `null`. -/
def jsonGet (members : JsonMembers) (key : String) : Option JsonDoc := members.lookup (PyStr.lit key)

/-- `float("NaN")` and so on. -/
def JsonConstant.value : JsonConstant → PyFloat
  | nan => .nan
  | infinity => .infinity
  | negInfinity => .negInfinity

/-- What the decoder raises: a `JSONDecodeError` or another `ValueError`, a
`UnicodeDecodeError`, or a `RecursionError`. -/
inductive JsonFault where
  | valueError
  | unicodeDecodeError
  | recursionError
  deriving DecidableEq

def JsonFault.exc : JsonFault → PyExc
  | valueError => .valueError
  | unicodeDecodeError => .unicodeDecodeError
  | recursionError => .recursionError

/-- The decoder of the standard library, on bytes and on strings. -/
structure JsonDecoder where
  ofBytes : List UInt8 → Except JsonFault RawJson
  ofText : PyStr → Except JsonFault RawJson

/-! ### Hooks -/

/-- `object_pairs_hook`, `parse_float` and `parse_constant`. -/
structure JsonHooks where
  pairs : JsonMembers → Except PyExc JsonMembers
  float : PyFloat → Except PyExc JsonDoc
  constant : JsonConstant → Except PyExc JsonDoc

mutual

/-- The value that the hooks build, members before their object. -/
def RawJson.build (hooks : JsonHooks) : RawJson → Except PyExc JsonDoc
  | .null => .ok .null
  | .bool b => .ok (.bool b)
  | .int i => .ok (.int i)
  | .float f => hooks.float f
  | .constant c => hooks.constant c
  | .str s => .ok (.str s)
  | .arr items => (RawJson.buildItems hooks items).map .arr
  | .obj pairs => (RawJson.buildPairs hooks pairs >>= hooks.pairs).map .dict

def RawJson.buildItems (hooks : JsonHooks) : List RawJson → Except PyExc (List JsonDoc)
  | [] => .ok []
  | item :: items => do
    let d ← RawJson.build hooks item
    let ds ← RawJson.buildItems hooks items
    pure (d :: ds)

def RawJson.buildPairs (hooks : JsonHooks) : List (PyStr × RawJson) → Except PyExc JsonMembers
  | [] => .ok []
  | (key, value) :: pairs => do
    let d ← RawJson.build hooks value
    let ds ← RawJson.buildPairs hooks pairs
    pure ((key, d) :: ds)

end

/-- `json.loads(…)` under some hooks, on what the decoder read. -/
def loadsWith (hooks : JsonHooks) (read : Except JsonFault RawJson) : Except PyExc JsonDoc :=
  read.mapError JsonFault.exc >>= RawJson.build hooks

/-- The loop of `_unique_members` and `_unique`. -/
def uniqueMembersFrom : JsonMembers → JsonMembers → Except PyExc JsonMembers
  | result, [] => .ok result
  | result, (key, value) :: pairs =>
    if key ∈ result.map Prod.fst then .error .valueError
    else uniqueMembersFrom (result ++ [(key, value)]) pairs

/-- `_unique_members`, `_unique`. -/
def uniqueMembers (pairs : JsonMembers) : Except PyExc JsonMembers := uniqueMembersFrom [] pairs

/-- `_finite_json_float`, `_finite`. -/
def finiteJsonFloat (f : PyFloat) : Except PyExc JsonDoc :=
  match f with
  | .finite q => .ok (.float (.finite q))
  | _ => .error .valueError

/-- The hooks of `_validated_events`. -/
def judgeHooks : JsonHooks where
  pairs := uniqueMembers
  float := finiteJsonFloat
  constant := fun _ => .error .valueError

/-- The hooks of `decode`. -/
def advisoryHooks : JsonHooks where
  pairs := uniqueMembers
  float := finiteJsonFloat
  constant := fun c => finiteJsonFloat c.value

/-- `dict(pairs)`: a repeated key keeps its place and takes the later value. -/
def dictOf (pairs : JsonMembers) : JsonMembers :=
  pairs.foldl (fun members p => KeyedList.upsert Prod.fst p members) []

/-- No hooks. -/
def defaultHooks : JsonHooks where
  pairs := fun pairs => .ok (dictOf pairs)
  float := fun f => .ok (.float f)
  constant := fun c => .ok (.float c.value)

theorem advisoryHooks_eq : advisoryHooks = judgeHooks := by
  have h : (fun c : JsonConstant => finiteJsonFloat c.value) = fun _ => .error .valueError := by
    funext c
    cases c <;> rfl
  rw [advisoryHooks, h, judgeHooks]

/-! ### What the hooks accept -/

mutual

/-- No constants, finite numbers, and no member twice in any object. -/
def RawJson.Strict : RawJson → Prop
  | .null | .bool _ | .int _ | .str _ => True
  | .float f => ∃ q, f = .finite q
  | .constant _ => False
  | .arr items => RawJson.StrictItems items
  | .obj pairs => (pairs.map Prod.fst).Nodup ∧ RawJson.StrictPairs pairs

def RawJson.StrictItems : List RawJson → Prop
  | [] => True
  | item :: items => RawJson.Strict item ∧ RawJson.StrictItems items

def RawJson.StrictPairs : List (PyStr × RawJson) → Prop
  | [] => True
  | (_, value) :: pairs => RawJson.Strict value ∧ RawJson.StrictPairs pairs

end

mutual

/-- The value of a document whose members are all kept. -/
def RawJson.value : RawJson → JsonDoc
  | .null => .null
  | .bool b => .bool b
  | .int i => .int i
  | .float f => .float f
  | .constant c => .float c.value
  | .str s => .str s
  | .arr items => .arr (RawJson.valueItems items)
  | .obj pairs => .dict (RawJson.valuePairs pairs)

def RawJson.valueItems : List RawJson → List JsonDoc
  | [] => []
  | item :: items => RawJson.value item :: RawJson.valueItems items

def RawJson.valuePairs : List (PyStr × RawJson) → JsonMembers
  | [] => []
  | (key, value) :: pairs => (key, RawJson.value value) :: RawJson.valuePairs pairs

end

theorem RawJson.valuePairs_keys (pairs : List (PyStr × RawJson)) :
    (RawJson.valuePairs pairs).map Prod.fst = pairs.map Prod.fst := by
  induction pairs with
  | nil => rfl
  | cons p pairs ih =>
    rw [RawJson.valuePairs, List.map_cons, List.map_cons, ih]

theorem uniqueMembersFrom_eq_ok_iff {result pairs members : JsonMembers}
    (h : (result.map Prod.fst).Nodup) :
    uniqueMembersFrom result pairs = .ok members ↔
      ((result ++ pairs).map Prod.fst).Nodup ∧ members = result ++ pairs := by
  induction pairs generalizing result with
  | nil =>
    rw [uniqueMembersFrom, List.append_nil, and_iff_right h, Except.ok.injEq, eq_comm]
  | cons p pairs ih =>
    obtain ⟨key, value⟩ := p
    rw [uniqueMembersFrom]
    split
    case isTrue hmem =>
      refine iff_of_false nofun ?_
      rintro ⟨hnodup, -⟩
      rw [List.map_append, List.map_cons] at hnodup
      exact (List.nodup_append.mp hnodup).2.2 key hmem key List.mem_cons_self rfl
    case isFalse hmem =>
      have hnodup : ((result ++ [(key, value)]).map Prod.fst).Nodup := by
        rw [List.map_append]
        refine List.nodup_append.mpr ⟨h, List.nodup_singleton key, ?_⟩
        rintro a ha b hb rfl
        obtain rfl := List.mem_singleton.mp hb
        exact hmem ha
      rw [ih hnodup, List.append_assoc]
      rfl

theorem uniqueMembers_eq_ok_iff {pairs members : JsonMembers} :
    uniqueMembers pairs = .ok members ↔ (pairs.map Prod.fst).Nodup ∧ members = pairs :=
  uniqueMembersFrom_eq_ok_iff List.nodup_nil

theorem finiteJsonFloat_eq_ok_iff {f : PyFloat} {d : JsonDoc} :
    finiteJsonFloat f = .ok d ↔ (∃ q, f = .finite q) ∧ d = .float f := by
  rcases f with q | _ | _ | _
  · constructor
    · intro h
      exact ⟨⟨q, rfl⟩, (Except.ok.inj h).symm⟩
    · rintro ⟨-, rfl⟩
      rfl
  all_goals exact iff_of_false nofun fun h => by obtain ⟨⟨q, hq⟩, -⟩ := h; cases hq

mutual

/-- The hooks build the value of a strict document, and of no other. -/
theorem build_eq_ok_iff {raw : RawJson} {d : JsonDoc} :
    RawJson.build judgeHooks raw = .ok d ↔ raw.Strict ∧ d = raw.value := by
  match raw with
  | .null | .bool b | .int i | .str s =>
    rw [RawJson.build, RawJson.Strict, true_and, Except.ok.injEq, eq_comm, RawJson.value]
  | .float f =>
    rw [RawJson.build, RawJson.Strict, RawJson.value]
    exact finiteJsonFloat_eq_ok_iff
  | .constant c =>
    rw [RawJson.build, RawJson.Strict]
    exact iff_of_false nofun fun h => h.1
  | .arr items =>
    rw [RawJson.build, RawJson.Strict, RawJson.value, except_map_eq_ok_iff]
    constructor
    · rintro ⟨ds, hds, rfl⟩
      obtain ⟨hstrict, rfl⟩ := buildItems_eq_ok_iff.mp hds
      exact ⟨hstrict, rfl⟩
    · rintro ⟨hstrict, rfl⟩
      exact ⟨_, buildItems_eq_ok_iff.mpr ⟨hstrict, rfl⟩, rfl⟩
  | .obj pairs =>
    rw [RawJson.build, RawJson.Strict, RawJson.value, except_map_eq_ok_iff]
    constructor
    · rintro ⟨ms, hms, rfl⟩
      obtain ⟨ds, hds, hunique⟩ := bind_eq_ok_iff.mp hms
      obtain ⟨hstrict, rfl⟩ := buildPairs_eq_ok_iff.mp hds
      obtain ⟨hnodup, rfl⟩ := uniqueMembers_eq_ok_iff.mp hunique
      rw [RawJson.valuePairs_keys] at hnodup
      exact ⟨⟨hnodup, hstrict⟩, rfl⟩
    · rintro ⟨⟨hnodup, hstrict⟩, rfl⟩
      refine ⟨RawJson.valuePairs pairs, ?_, rfl⟩
      refine bind_eq_ok_iff.mpr ⟨_, buildPairs_eq_ok_iff.mpr ⟨hstrict, rfl⟩, ?_⟩
      exact uniqueMembers_eq_ok_iff.mpr ⟨by rwa [RawJson.valuePairs_keys], rfl⟩

theorem buildItems_eq_ok_iff {items : List RawJson} {ds : List JsonDoc} :
    RawJson.buildItems judgeHooks items = .ok ds ↔
      RawJson.StrictItems items ∧ ds = RawJson.valueItems items := by
  match items with
  | [] =>
    rw [RawJson.buildItems, RawJson.StrictItems, true_and, Except.ok.injEq, eq_comm, RawJson.valueItems]
  | item :: items =>
    rw [RawJson.buildItems, RawJson.StrictItems, RawJson.valueItems, bind_eq_ok_iff]
    constructor
    · rintro ⟨d, hd, h⟩
      obtain ⟨ds', hds, h⟩ := bind_eq_ok_iff.mp h
      obtain ⟨hstrict, rfl⟩ := build_eq_ok_iff.mp hd
      obtain ⟨hstricts, rfl⟩ := buildItems_eq_ok_iff.mp hds
      exact ⟨⟨hstrict, hstricts⟩, (Except.ok.inj h).symm⟩
    · rintro ⟨⟨hstrict, hstricts⟩, rfl⟩
      exact ⟨_, build_eq_ok_iff.mpr ⟨hstrict, rfl⟩,
        bind_eq_ok_iff.mpr ⟨_, buildItems_eq_ok_iff.mpr ⟨hstricts, rfl⟩, rfl⟩⟩

theorem buildPairs_eq_ok_iff {pairs : List (PyStr × RawJson)} {ds : JsonMembers} :
    RawJson.buildPairs judgeHooks pairs = .ok ds ↔
      RawJson.StrictPairs pairs ∧ ds = RawJson.valuePairs pairs := by
  match pairs with
  | [] =>
    rw [RawJson.buildPairs, RawJson.StrictPairs, true_and, Except.ok.injEq, eq_comm, RawJson.valuePairs]
  | (key, value) :: pairs =>
    rw [RawJson.buildPairs, RawJson.StrictPairs, RawJson.valuePairs, bind_eq_ok_iff]
    constructor
    · rintro ⟨d, hd, h⟩
      obtain ⟨ds', hds, h⟩ := bind_eq_ok_iff.mp h
      obtain ⟨hstrict, rfl⟩ := build_eq_ok_iff.mp hd
      obtain ⟨hstricts, rfl⟩ := buildPairs_eq_ok_iff.mp hds
      exact ⟨⟨hstrict, hstricts⟩, (Except.ok.inj h).symm⟩
    · rintro ⟨⟨hstrict, hstricts⟩, rfl⟩
      exact ⟨_, build_eq_ok_iff.mpr ⟨hstrict, rfl⟩,
        bind_eq_ok_iff.mpr ⟨_, buildPairs_eq_ok_iff.mpr ⟨hstricts, rfl⟩, rfl⟩⟩

end

/-- What is loaded under the strict hooks. -/
theorem loadsWith_eq_ok_iff {read : Except JsonFault RawJson} {d : JsonDoc} :
    loadsWith judgeHooks read = .ok d ↔ ∃ raw, read = .ok raw ∧ raw.Strict ∧ d = raw.value := by
  rw [loadsWith, bind_eq_ok_iff]
  simp only [mapError_eq_ok_iff, build_eq_ok_iff]

/-! ### What is raised -/

theorem uniqueMembersFrom_eq_error {result pairs : JsonMembers} {e : PyExc}
    (h : uniqueMembersFrom result pairs = .error e) : e = .valueError := by
  induction pairs generalizing result with
  | nil => cases h
  | cons p pairs ih =>
    rw [uniqueMembersFrom] at h
    split at h
    · exact (Except.error.inj h).symm
    · exact ih h

/-- Hooks that raise value errors only. -/
structure JsonHooks.RaisesValueErrors (hooks : JsonHooks) : Prop where
  pairs : ∀ members e, hooks.pairs members = .error e → e = .valueError
  float : ∀ f e, hooks.float f = .error e → e = .valueError
  constant : ∀ c e, hooks.constant c = .error e → e = .valueError

theorem finiteJsonFloat_eq_error {f : PyFloat} {e : PyExc} (h : finiteJsonFloat f = .error e) : e = .valueError := by
  rcases f with q | _ | _ | _
  · cases h
  all_goals exact (Except.error.inj h).symm

theorem judgeHooks_raisesValueErrors : judgeHooks.RaisesValueErrors where
  pairs _ _ h := uniqueMembersFrom_eq_error h
  float _ _ h := finiteJsonFloat_eq_error h
  constant _ _ h := (Except.error.inj h).symm

section

variable {hooks : JsonHooks}

mutual

/-- Such hooks build a value or raise a value error. -/
theorem build_eq_error (hhooks : hooks.RaisesValueErrors) {raw : RawJson} {e : PyExc}
    (h : RawJson.build hooks raw = .error e) : e = .valueError := by
  match raw with
  | .null | .bool b | .int i | .str s => cases h
  | .float f => exact hhooks.float f e h
  | .constant c => exact hhooks.constant c e h
  | .arr items =>
    rw [RawJson.build, except_map_eq_error_iff] at h
    exact buildItems_eq_error hhooks h
  | .obj pairs =>
    rw [RawJson.build, except_map_eq_error_iff] at h
    rcases bind_eq_error_iff.mp h with h | ⟨ds, -, h⟩
    · exact buildPairs_eq_error hhooks h
    · exact hhooks.pairs ds e h

theorem buildItems_eq_error (hhooks : hooks.RaisesValueErrors) {items : List RawJson} {e : PyExc}
    (h : RawJson.buildItems hooks items = .error e) : e = .valueError := by
  match items with
  | [] => cases h
  | item :: items =>
    rw [RawJson.buildItems] at h
    rcases bind_eq_error_iff.mp h with h | ⟨d, -, h⟩
    · exact build_eq_error hhooks h
    · rcases bind_eq_error_iff.mp h with h | ⟨ds, -, h⟩
      · exact buildItems_eq_error hhooks h
      · cases h

theorem buildPairs_eq_error (hhooks : hooks.RaisesValueErrors) {pairs : List (PyStr × RawJson)} {e : PyExc}
    (h : RawJson.buildPairs hooks pairs = .error e) : e = .valueError := by
  match pairs with
  | [] => cases h
  | (key, value) :: pairs =>
    rw [RawJson.buildPairs] at h
    rcases bind_eq_error_iff.mp h with h | ⟨d, -, h⟩
    · exact build_eq_error hhooks h
    · rcases bind_eq_error_iff.mp h with h | ⟨ds, -, h⟩
      · exact buildPairs_eq_error hhooks h
      · cases h

end

/-- What a load raises is a value error, a decode error or a recursion error. -/
theorem loadsWith_eq_error (hhooks : hooks.RaisesValueErrors) {read : Except JsonFault RawJson} {e : PyExc}
    (h : loadsWith hooks read = .error e) : ∃ fault : JsonFault, e = fault.exc := by
  rcases bind_eq_error_iff.mp h with h | ⟨raw, -, h⟩
  · rcases read with fault | raw
    · exact ⟨fault, (Except.error.inj h).symm⟩
    · cases h
  · exact ⟨.valueError, build_eq_error hhooks h⟩

end

/-! ### Without hooks -/

mutual

/-- Without hooks every document is built. -/
theorem build_defaultHooks (raw : RawJson) : ∃ d, RawJson.build defaultHooks raw = .ok d := by
  match raw with
  | .null | .bool b | .int i | .str s | .float f | .constant c => exact ⟨_, rfl⟩
  | .arr items =>
    obtain ⟨ds, hds⟩ := buildItems_defaultHooks items
    exact ⟨.arr ds, by rw [RawJson.build, hds]; rfl⟩
  | .obj pairs =>
    obtain ⟨ds, hds⟩ := buildPairs_defaultHooks pairs
    exact ⟨.dict (dictOf ds), by rw [RawJson.build, hds]; rfl⟩

theorem buildItems_defaultHooks (items : List RawJson) :
    ∃ ds, RawJson.buildItems defaultHooks items = .ok ds := by
  match items with
  | [] => exact ⟨[], rfl⟩
  | item :: items =>
    obtain ⟨d, hd⟩ := build_defaultHooks item
    obtain ⟨ds, hds⟩ := buildItems_defaultHooks items
    exact ⟨d :: ds, by rw [RawJson.buildItems, hd, hds]; rfl⟩

theorem buildPairs_defaultHooks (pairs : List (PyStr × RawJson)) :
    ∃ ds, RawJson.buildPairs defaultHooks pairs = .ok ds := by
  match pairs with
  | [] => exact ⟨[], rfl⟩
  | (key, value) :: pairs =>
    obtain ⟨d, hd⟩ := build_defaultHooks value
    obtain ⟨ds, hds⟩ := buildPairs_defaultHooks pairs
    exact ⟨(key, d) :: ds, by rw [RawJson.buildPairs, hd, hds]; rfl⟩

end

theorem loadsWith_defaultHooks_error {read : Except JsonFault RawJson} {e : PyExc}
    (h : loadsWith defaultHooks read = .error e) : ∃ fault : JsonFault, e = fault.exc := by
  rcases bind_eq_error_iff.mp h with h | ⟨raw, -, h⟩
  · rcases read with fault | raw
    · exact ⟨fault, (Except.error.inj h).symm⟩
    · cases h
  · obtain ⟨d, hd⟩ := build_defaultHooks raw
    rw [hd] at h
    cases h

/-! ### Encoding -/

mutual

/-- Every string of the value encodes: `json.dumps(…, ensure_ascii=False).encode("utf-8")`
does not raise. -/
def JsonDoc.encodes : JsonDoc → Bool
  | .null | .bool _ | .int _ | .float _ => true
  | .str s => s.encode?.isSome
  | .arr items => JsonDoc.encodesItems items
  | .dict members => JsonDoc.encodesMembers members

def JsonDoc.encodesItems : List JsonDoc → Bool
  | [] => true
  | item :: items => JsonDoc.encodes item && JsonDoc.encodesItems items

def JsonDoc.encodesMembers : JsonMembers → Bool
  | [] => true
  | (key, value) :: members =>
    key.encode?.isSome && JsonDoc.encodes value && JsonDoc.encodesMembers members

end

end SkillsSdk

/-
SkillsSdk/Digests.lean

Content digests, and the shape shared by all contract models.

The hash is a parameter `sha256` of everything that hashes: no result relies on
more than that it is a function, unless it says so.  `hashlibSha256` is the one
the program runs with.

A contract model is a record of data with a `validate`.  The model itself is the
subtype of the data that `validate` accepts, so an instance carries the proof
that it is valid, and `construct` is the call of its constructor: it returns an
instance with the given data, or the error of `validate`.
-/
import Mathlib.Algebra.Ring.Nat
import SkillsSdk.Lib.Json
import SkillsSdk.Lib.Sha256
import SkillsSdk.Text

namespace SkillsSdk

/-! ### Digests -/

/-- `str.encode("utf-8")`. -/
def utf8 (t : Text) : List UInt8 := t.flatMap String.utf8EncodeChar

theorem utf8_append (u v : Text) : utf8 (u ++ v) = utf8 u ++ utf8 v := by
  simp [utf8]

theorem length_le_utf8 (t : Text) : t.length ≤ (utf8 t).length := by
  induction t with
  | nil => exact le_refl 0
  | cons c t ih =>
    have hpos := c.utf8Size_pos
    rw [show utf8 (c :: t) = String.utf8EncodeChar c ++ utf8 t from rfl, List.length_append,
      String.length_utf8EncodeChar, List.length_cons]
    omega

/-- `hashlib.sha256(…).hexdigest()`. -/
def hashlibSha256 (bytes : List UInt8) : Sha256 :=
  ⟨Sha256Core.hexdigest bytes, isHexOfLength_iff.mpr ⟨Sha256Core.length_hexdigest bytes, fun _ hc =>
    List.all_eq_true.mp (by decide : Sha256Core.hexAlphabet.all isHex = true) _
      (Sha256Core.mem_hexdigest hc)⟩⟩

/-- `sys.get_int_max_str_digits()`. -/
def intMaxStrDigits : Nat := 4300

/-- The integer has more digits than the interpreter writes. -/
def isLongInt (i : Int) : Bool := decide (10 ^ intMaxStrDigits ≤ i.natAbs)

/-- `json.dumps` refuses to write the value, for an integer in it. -/
def hasLongInt (value : Json) : Bool := value.ints.any isLongInt

variable (sha256 : List UInt8 → Sha256)

/-- `canonical_json_sha256` of a value whose integers can be written. -/
def canonicalJsonSha256 (value : Json) : Sha256 := sha256 (utf8 value.dumps)

/-- `canonical_json_sha256`, or nothing for its `ValueError`. -/
def canonicalJsonSha256? (value : Json) : Option Sha256 :=
  if hasLongInt value then none else some (canonicalJsonSha256 sha256 value)

variable {sha256} in
theorem canonicalJsonSha256?_eq_some {value : Json} (h : hasLongInt value = false) :
    canonicalJsonSha256? sha256 value = some (canonicalJsonSha256 sha256 value) := by
  rw [canonicalJsonSha256?, h]
  rfl

/-- What one file contributes to the candidate digest. -/
def digestRecord (path : Text) (digest : Sha256) : List UInt8 :=
  utf8 path ++ 0 :: (utf8 digest.val ++ [0])

/-- The bytes that `candidate_content_sha256` hashes. -/
def candidatePreimage (files : List (Text × Sha256)) : List UInt8 :=
  files.flatMap fun f => digestRecord f.1 f.2

/-- `candidate_content_sha256`, on the `(path, sha256)` pairs of the files. -/
def candidateContentSha256 (files : List (Text × Sha256)) : Sha256 :=
  sha256 (candidatePreimage files)

theorem canonicalJsonSha256_obj_perm {ms ns : List (Text × Json)} (h : ms.Perm ns)
    (hkeys : (ms.map Prod.fst).Nodup) :
    canonicalJsonSha256 sha256 (.obj ms) = canonicalJsonSha256 sha256 (.obj ns) := by
  rw [canonicalJsonSha256, Json.dumps_obj_perm h hkeys, canonicalJsonSha256]

/-! ### JSON of the models -/

/-- One member of a dumped model. -/
def field (key : String) (value : Json) : Text × Json := (key.toList, value)

/-- A dumped string. -/
def jsonText (t : Text) : Json := .str t

/-- A dumped literal. -/
def jsonLit (s : String) : Json := .str s.toList

/-- A dumped optional value. -/
def jsonOption {α : Type*} (f : α → Json) : Option α → Json
  | none => .null
  | some a => f a

/-- A dumped tuple. -/
def jsonList {α : Type*} (f : α → Json) (l : List α) : Json := .arr (l.map f)

/-! ### The integers of a dump -/

theorem ints_jsonText (t : Text) : (jsonText t).ints = [] := by
  rw [jsonText, Json.ints]

theorem ints_jsonLit (s : String) : (jsonLit s).ints = [] := ints_jsonText s.toList

theorem ints_jsonOption {α : Type*} {f : α → Json} (hf : ∀ a, (f a).ints = []) (o : Option α) :
    (jsonOption f o).ints = [] := by
  cases o with
  | none => rfl
  | some a => exact hf a

theorem ints_jsonList {α : Type*} {f : α → Json} (hf : ∀ a, (f a).ints = []) (l : List α) :
    (jsonList f l).ints = [] := by
  rw [jsonList, Json.ints, Json.intsItems_eq_flatMap, List.flatMap_map, List.flatMap_eq_nil_iff]
  exact fun a _ => hf a

/-! ### Validation -/

/-- A condition that must not hold, and the message raised when it does. -/
def violation (c : Prop) [Decidable c] (message : String) : Bool × String := (decide c, message)

@[simp] theorem violation_fst {c : Prop} [Decidable c] {message : String} :
    (violation c message).1 = false ↔ ¬ c := by
  simp [violation]

/-- The body of a model validator: conditions that must not hold, in order,
each with the message raised when it is the first to hold. -/
def raiseFirst (model : String) (violations : List (Bool × String)) : Except ValidationError Unit :=
  match violations.find? (·.1) with
  | some (_, message) => .error ⟨model.toList, [([], message.toList)]⟩
  | none => .ok ()

theorem raiseFirst_eq_ok {model : String} {violations : List (Bool × String)} :
    raiseFirst model violations = .ok () ↔ ∀ v ∈ violations, v.1 = false := by
  unfold raiseFirst
  split
  · rename_i b message h
    have hmem := List.mem_of_find?_eq_some h
    have hb : b = true := by simpa using List.find?_some h
    simp only [reduceCtorEq, false_iff]
    exact fun hall => by simpa [hb] using hall _ hmem
  · rename_i h
    simpa using h

/-- The field checks of a model, and its own validator when they pass. -/
def validateWith (model : String) (fields : List (Text × Text)) (violations : List (Bool × String)) :
    Except ValidationError Unit := do
  refuse model fields
  raiseFirst model violations

theorem validateWith_eq_ok {model : String} {fields : List (Text × Text)}
    {violations : List (Bool × String)} :
    validateWith model fields violations = .ok () ↔
      fields = [] ∧ ∀ v ∈ violations, v.1 = false := by
  rw [validateWith]
  by_cases h : fields = []
  · subst h
    simp [show refuse model [] = .ok () from rfl, raiseFirst_eq_ok, bind, Except.bind]
  · simp [refuse, h, bind, Except.bind]

/-- An instance of a model: data its validator accepts. -/
abbrev Accepted {α : Type*} (validate : α → Except ValidationError Unit) : Type _ :=
  { d : α // validate d = .ok () }

/-- A call of a model's constructor. -/
def construct {α : Type*} (validate : α → Except ValidationError Unit) (d : α) :
    Except ValidationError (Accepted validate) :=
  match h : validate d with
  | .ok () => .ok ⟨d, h⟩
  | .error e => .error e

/-- A sequence of two fallible steps succeeds when both do. -/
theorem bind_eq_ok_iff {ε : Type*} {α β : Type _} {x : Except ε α} {f : α → Except ε β} {b : β} :
    x >>= f = .ok b ↔ ∃ a, x = .ok a ∧ f a = .ok b := by
  cases x <;> simp [bind, Except.bind]

/-- A sequence of two fallible steps fails when one of them does. -/
theorem bind_eq_error_iff {ε : Type*} {α β : Type _} {x : Except ε α} {f : α → Except ε β} {e : ε} :
    x >>= f = .error e ↔ x = .error e ∨ ∃ a, x = .ok a ∧ f a = .error e := by
  cases x <;> simp [bind, Except.bind]

section

variable {α : Type*} {validate : α → Except ValidationError Unit} {d : α}

theorem construct_of_ok (h : validate d = .ok ()) : construct validate d = .ok ⟨d, h⟩ := by
  unfold construct
  split
  · rfl
  · rename_i e he
    rw [h] at he
    cases he

theorem construct_eq_ok_iff {m : Accepted validate} : construct validate d = .ok m ↔ m.val = d := by
  constructor
  · unfold construct
    split
    · intro h
      rw [← Except.ok.inj h]
    · intro h
      cases h
  · rintro rfl
    exact construct_of_ok m.2

theorem construct_eq_error_iff {e : ValidationError} :
    construct validate d = .error e ↔ validate d = .error e := by
  unfold construct
  split
  · rename_i h
    simp [h]
  · rename_i e' h
    simp [h]

/-- Constructing a list of instances succeeds with instances of the given data. -/
theorem mapM_construct_eq_ok_iff {β : Type*} {f : β → α} {l : List β}
    {ms : List (Accepted validate)} :
    (l.mapM fun b => construct validate (f b)) = .ok ms ↔ ms.map Subtype.val = l.map f := by
  induction l generalizing ms with
  | nil => rcases ms with - | ⟨m, ms⟩ <;> simp [pure, Except.pure]
  | cons b l ih =>
    simp only [List.mapM_cons, bind_eq_ok_iff, construct_eq_ok_iff, ih, pure, Except.pure,
      Except.ok.injEq]
    constructor
    · rintro ⟨m, hm, ms, hms, rfl⟩
      simp only [List.map_cons, hm, hms]
    · rcases ms with - | ⟨m, ms⟩
      · simp
      · intro h
        simp only [List.map_cons, List.cons.injEq] at h
        exact ⟨m, h.1, ms, h.2, rfl⟩

end

end SkillsSdk

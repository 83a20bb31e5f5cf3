/-
SkillsSdk/Text.lean

Texts, the string constraints of the contract models, and their errors.

A text is a list of Unicode scalars: the contract models refuse a string that
is none.  Each constrained string type of the models is a subtype, so a text
that a pattern refuses cannot be built:

    PackageId, ReceiptId, RuntimeIdentifier   `^[a-z0-9]+(?:[._-][a-z0-9]+)*$`
    BlockerCode                               `^[a-z0-9_]+$`
    GitRevision, Sha256                       40 or 64 lower-case hex digits
    NonEmptyText                              trimmed and not empty

The models strip surrounding whitespace before they look at a pattern
(`trim`); the package's own validators use Python's `strip`, which knows four
more blanks (`strip`).
-/
import SkillsSdk.Lib.Regex
import Mathlib.Data.List.DropRight
import Mathlib.Data.Char

namespace SkillsSdk

open Rx Rx.Regex

/-- A string of the contract models. -/
abbrev Text := List Char

instance : LawfulBEq Text := inferInstance

/-! ### Errors -/

/-- `ContractError`: a stable code and a message. -/
structure ContractError where
  code : Text
  message : Text
  deriving DecidableEq

/-- A `ValidationError`: the model that refused, and every refused field with
its message.  An error of a whole model stands under the empty field. -/
structure ValidationError where
  model : Text
  errors : List (Text × Text)
  deriving DecidableEq

/-- One field check of a model: the errors it adds. -/
def check (ok : Bool) (field message : String) : List (Text × Text) :=
  if ok then [] else [(field.toList, message.toList)]

@[simp] theorem check_eq_nil {ok : Bool} {field message : String} :
    check ok field message = [] ↔ ok = true := by
  cases ok <;> simp [check]

/-- A model refuses its input when some check added an error. -/
def refuse (model : String) (errors : List (Text × Text)) : Except ValidationError Unit :=
  if errors = [] then .ok () else .error ⟨model.toList, errors⟩

@[simp] theorem refuse_eq_ok {model : String} {errors : List (Text × Text)} :
    refuse model errors = .ok () ↔ errors = [] := by
  unfold refuse
  split <;> simp_all

/-! ### Whitespace -/

/-- The `White_Space` property of Unicode, which the models strip. -/
def isWhiteSpace (c : Char) : Bool :=
  let n := c.toNat
  (9 ≤ n && n ≤ 13) || n == 0x20 || n == 0x85 || n == 0xa0 || n == 0x1680 ||
    (0x2000 ≤ n && n ≤ 0x200a) || n == 0x2028 || n == 0x2029 || n == 0x202f ||
    n == 0x205f || n == 0x3000

/-- `str.isspace` of one letter: also the four information separators. -/
def isSpace (c : Char) : Bool :=
  isWhiteSpace c || (0x1c ≤ c.toNat && c.toNat ≤ 0x1f)

/-- A text without the leading and trailing letters of a class. -/
def stripBy (p : Char → Bool) (t : Text) : Text := (t.dropWhile p).rdropWhile p

/-- `strip_whitespace=True` of the models. -/
def trim (t : Text) : Text := stripBy isWhiteSpace t

/-- `str.strip()`. -/
def strip (t : Text) : Text := stripBy isSpace t

theorem stripBy_of_forall {p : Char → Bool} {t : Text} (h : ∀ c ∈ t, p c = false) :
    stripBy p t = t := by
  have hd : t.dropWhile p = t := by
    rcases t with - | ⟨c, t⟩
    · rfl
    · exact List.dropWhile_cons_of_neg (by simp [h c (by simp)])
  rw [stripBy, hd, List.rdropWhile_eq_self_iff]
  intro hne
  simp [h _ (List.getLast_mem hne)]

theorem stripBy_eq_nil_iff {p : Char → Bool} {t : Text} :
    stripBy p t = [] ↔ ∀ c ∈ t, p c = true := by
  rw [stripBy, List.rdropWhile_eq_nil_iff]
  constructor
  · intro h c hc
    rcases List.mem_append.mp (List.takeWhile_append_dropWhile (p := p) (l := t) ▸ hc) with hc | hc
    · exact List.mem_takeWhile_imp hc
    · exact h c hc
  · intro h c hc
    exact h c (List.dropWhile_sublist p |>.mem hc)

/-! ### Letter classes -/

/-- `[a-z]`. -/
def isLower (c : Char) : Bool := 'a' ≤ c && c ≤ 'z'

/-- `[A-Z]`. -/
def isUpper (c : Char) : Bool := 'A' ≤ c && c ≤ 'Z'

/-- `[0-9]`. -/
def isDigit (c : Char) : Bool := '0' ≤ c && c ≤ '9'

/-- `[A-Za-z]`. -/
def isAlpha (c : Char) : Bool := isUpper c || isLower c

/-- `[A-Za-z0-9]`. -/
def isAlnum (c : Char) : Bool := isAlpha c || isDigit c

/-- `[a-z0-9]`. -/
def isLowerAlnum (c : Char) : Bool := isLower c || isDigit c

/-- `[0-9a-f]`. -/
def isHex (c : Char) : Bool := isDigit c || ('a' ≤ c && c ≤ 'f')

/-- A class given by its members. -/
def oneOf (s : String) (c : Char) : Bool := s.toList.contains c

/-- A literal word. -/
def word (s : String) : Regex Char := concat (s.toList.map fun d => cls (· == d))

/-! ### Constrained strings -/

/-- `[a-z0-9]+(?:[._-][a-z0-9]+)*`. -/
def identifierPattern : Regex Char :=
  seq (plus (cls isLowerAlnum)) (many (seq (cls (oneOf "._-")) (plus (cls isLowerAlnum))))

/-- `StringConstraints(pattern=r"^[a-z0-9]+(?:[._-][a-z0-9]+)*$")`. -/
def isIdentifier (t : Text) : Bool := fullmatch identifierPattern t

/-- `^[a-z0-9_]+$`. -/
def isBlockerCode (t : Text) : Bool := fullmatch (plus (cls fun c => isLowerAlnum c || c == '_')) t

/-- `^[0-9a-f]{n}$`. -/
def isHexOfLength (n : Nat) (t : Text) : Bool := t.length == n && t.all isHex

/-- Trimmed and not empty. -/
def isNonEmptyText (t : Text) : Bool := trim t == t && t != []

abbrev PackageId := { t : Text // isIdentifier t = true }
abbrev ReceiptId := { t : Text // isIdentifier t = true }
abbrev RuntimeIdentifier := { t : Text // isIdentifier t = true }
abbrev BlockerCode := { t : Text // isBlockerCode t = true }
abbrev GitRevision := { t : Text // isHexOfLength 40 t = true }
abbrev Sha256 := { t : Text // isHexOfLength 64 t = true }
abbrev NonEmptyText := { t : Text // isNonEmptyText t = true }

instance : LawfulBEq NonEmptyText := inferInstance

/-- A text known to pass a check. -/
def literal {p : Text → Bool} (s : String) (h : p s.toList = true) : { t : Text // p t = true } :=
  ⟨s.toList, h⟩

/-- A written text passes a check when its letters do. -/
theorem check_ofList {p : Text → Bool} {l : Text} (h : p l = true) : p (String.ofList l).toList = true := by
  rw [String.toList_ofList]
  exact h

/-- Texts that are written with different letters differ. -/
theorem toList_ofList_ne {l l' : Text} (h : l ≠ l') : (String.ofList l).toList ≠ (String.ofList l').toList := by
  rw [String.toList_ofList, String.toList_ofList]
  exact h

/-- Words of lower-case letters and digits joined by single hyphens. -/
theorem isIdentifier_of_words {w : Text} {ws : List Text}
    (hw : ∀ u ∈ w :: ws, u ≠ [] ∧ ∀ c ∈ u, isLowerAlnum c = true) :
    isIdentifier (w ++ ws.flatMap fun u => '-' :: u) = true := by
  rw [isIdentifier, fullmatch_iff]
  obtain ⟨hne, hletters⟩ := hw w (by simp)
  refine ⟨⟨false, []⟩, ⟨_, rel_plus_cls hne hletters true _, ?_⟩, rfl⟩
  have hws : ∀ u ∈ ws, u ≠ [] ∧ ∀ c ∈ u, isLowerAlnum c = true := fun u hu => hw u (by simp [hu])
  clear hw hne hletters
  induction ws with
  | nil => exact Relation.ReflTransGen.refl
  | cons u ws ih =>
    obtain ⟨hne, hletters⟩ := hws u (by simp)
    refine Relation.ReflTransGen.head ?_ (ih fun v hv => hws v (by simp [hv]))
    exact ⟨⟨false, u ++ _⟩, ⟨'-', _, rfl, by decide, rfl⟩, rel_plus_cls hne hletters false _⟩

theorem isLowerAlnum_of_isHex {c : Char} (h : isHex c = true) : isLowerAlnum c = true := by
  simp only [isHex, isLowerAlnum, isLower, Bool.or_eq_true, Bool.and_eq_true, decide_eq_true_eq] at *
  rcases h with h | ⟨ha, hf⟩
  · exact Or.inr h
  · exact Or.inl ⟨ha, le_trans hf (by decide)⟩

theorem isHexOfLength_iff {n : Nat} {t : Text} :
    isHexOfLength n t = true ↔ t.length = n ∧ ∀ c ∈ t, isHex c = true := by
  simp [isHexOfLength]

theorem isHexOfLength_replicate {n : Nat} {c : Char} (h : isHex c = true) :
    isHexOfLength n (List.replicate n c) = true := by
  rw [isHexOfLength_iff, List.length_replicate]
  refine ⟨rfl, fun d hd => ?_⟩
  rw [List.eq_of_mem_replicate hd]
  exact h

/-- A word of lower-case letters and digits. -/
def isWord (u : Text) : Bool := u != [] && u.all isLowerAlnum

/-- Words, and the start of a digest. -/
theorem isIdentifier_receiptId {w : Text} (ws : List Text) (hw : (w :: ws).all isWord = true)
    (digest : Sha256) :
    isIdentifier (w ++ (ws ++ [digest.val.take 24]).flatMap fun u => '-' :: u) = true := by
  obtain ⟨hlen, hhex⟩ := isHexOfLength_iff.mp digest.2
  apply isIdentifier_of_words
  intro u hu
  rw [← List.cons_append, List.mem_append, List.mem_singleton] at hu
  rcases hu with hu | rfl
  · simpa [isWord] using List.all_eq_true.mp hw u hu
  · refine ⟨?_, fun c hc => isLowerAlnum_of_isHex (hhex c (List.mem_of_mem_take hc))⟩
    rw [← List.length_pos_iff, List.length_take]
    omega

theorem isNonEmptyText_iff {t : Text} : isNonEmptyText t = true ↔ trim t = t ∧ t ≠ [] := by
  simp [isNonEmptyText]

theorem isWhiteSpace_of_isLowerAlnum {c : Char} (h : isLowerAlnum c = true) :
    isWhiteSpace c = false := by
  have hrange : 0x21 ≤ c.toNat ∧ c.toNat < 0x80 := by
    simp only [isLowerAlnum, isLower, isDigit, Bool.or_eq_true, Bool.and_eq_true, decide_eq_true_eq] at h
    rcases h with ⟨h₁, h₂⟩ | ⟨h₁, h₂⟩
    · exact ⟨le_trans (by decide) h₁, lt_of_le_of_lt h₂ (by decide)⟩
    · exact ⟨le_trans (by decide) h₁, lt_of_le_of_lt h₂ (by decide)⟩
  rw [isWhiteSpace]
  simp only [Bool.or_eq_false_iff, Bool.and_eq_false_iff, decide_eq_false_iff_not, beq_eq_false_iff_ne]
  omega

/-- A code is a text of the models. -/
theorem isNonEmptyText_of_isBlockerCode {t : Text} (h : isBlockerCode t = true) :
    isNonEmptyText t = true := by
  have hletters : ∀ c ∈ t, isLowerAlnum c = true ∨ c = '_' := by
    refine FullMatch.within ?_ ((fullmatch_iff _ _).mp h)
    exact ⟨fun c hc => by simpa using hc, fun c hc => by simpa using hc⟩
  refine isNonEmptyText_iff.mpr ⟨stripBy_of_forall fun c hc => ?_, ?_⟩
  · rcases hletters c hc with hc | rfl
    · exact isWhiteSpace_of_isLowerAlnum hc
    · decide
  · rintro rfl
    exact absurd h (by decide)

end SkillsSdk

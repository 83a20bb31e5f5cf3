/-
SkillsSdk/YamlValues.lean

The values of a closed YAML document, and what `str(…)` makes of them.

A closed document has no aliases, and the keys of its mappings are strings, no
key twice; everything else of YAML it may hold.  `str(…)` of a string is the
string.  Of any other value it is the `repr(…)`, in which every string of the
value is quoted and every letter that is not printable is escaped: nothing of
the categories `Cc` and `Cf` is left (`reprs_clean`).
-/
import Mathlib.Algebra.Ring.Nat
import Mathlib.Data.Rat.Defs
import SkillsSdk.Raising
import SkillsSdk.SkillIr

namespace SkillsSdk

/-! ### Letters -/

/-- `unicodedata.category(c) in {"Cf", "Cc"}`. -/
def isFormatOrControl (c : Char) : Bool :=
  [(0x0, 0x1f), (0x7f, 0x9f), (0xad, 0xad), (0x600, 0x605), (0x61c, 0x61c), (0x6dd, 0x6dd),
    (0x70f, 0x70f), (0x890, 0x891), (0x8e2, 0x8e2), (0x180e, 0x180e), (0x200b, 0x200f),
    (0x202a, 0x202e), (0x2060, 0x2064), (0x2066, 0x206f), (0xfeff, 0xfeff), (0xfff9, 0xfffb),
    (0x110bd, 0x110bd), (0x110cd, 0x110cd), (0x13430, 0x1343f), (0x1bca0, 0x1bca3),
    (0x1d173, 0x1d17a), (0xe0001, 0xe0001), (0xe0020, 0xe007f)].any
      fun range => range.1 ≤ c.toNat && c.toNat ≤ range.2

/-- A printable letter of ASCII. -/
def isPrintableAscii (c : Char) : Bool := 0x20 ≤ c.toNat && c.toNat ≤ 0x7e

/-- A text of printable ASCII letters, as the interpreter writes numbers and dates. -/
abbrev PlainText := { t : Text // t.all isPrintableAscii = true }

instance : LawfulBEq PlainText := inferInstance

theorem not_isFormatOrControl_of_ascii {c : Char} (h : isPrintableAscii c = true) :
    isFormatOrControl c = false := by
  rw [isPrintableAscii, Bool.and_eq_true, decide_eq_true_eq, decide_eq_true_eq] at h
  rw [isFormatOrControl, List.any_eq_false]
  intro range hrange
  simp only [List.mem_cons, List.not_mem_nil, or_false] at hrange
  rw [Bool.and_eq_true, decide_eq_true_eq, decide_eq_true_eq]
  rcases hrange with rfl | rfl | rfl | rfl | rfl | rfl | rfl | rfl | rfl | rfl | rfl | rfl | rfl | rfl |
    rfl | rfl | rfl | rfl | rfl | rfl | rfl | rfl | rfl <;> dsimp only <;> omega

/-! ### Values -/

/-- A Python float. -/
inductive PyFloat where
  | finite (q : ℚ)
  | infinity
  | negInfinity
  | nan
  deriving DecidableEq

inductive YamlValue where
  | none
  | bool (b : Bool)
  | int (i : Int)
  | float (f : PyFloat)
  | str (s : PyStr)
  | bytes (b : List UInt8)
  /-- A date or a time, with its `str(…)` and its `repr(…)`. -/
  | date (iso shown : PlainText)
  | list (items : List YamlValue)
  | tuple (items : List YamlValue)
  /-- The members in the order in which the set yields them. -/
  | set (items : List YamlValue)
  | dict (members : List (PyStr × YamlValue))

/-- The members of a mapping. -/
abbrev YamlMembers := List (PyStr × YamlValue)

/-- `mapping.get(key)`. -/
def yamlGet (members : YamlMembers) (key : String) : YamlValue :=
  (members.lookup (PyStr.lit key)).getD .none

/-- `bool(value)`. -/
def YamlValue.truthy : YamlValue → Bool
  | .none => false
  | .bool b => b
  | .int i => i != 0
  | .float f => f != .finite 0
  | .str s => s != []
  | .bytes b => b != []
  | .date _ _ => true
  | .list items => !items.isEmpty
  | .tuple items => !items.isEmpty
  | .set items => !items.isEmpty
  | .dict members => !members.isEmpty

/-- What a `for` loop over the value runs through. -/
def YamlValue.iterate : YamlValue → Except PyExc (List YamlValue)
  | .str s => .ok (s.map fun c => .str [c])
  | .bytes b => .ok (b.map fun n => .int n.toNat)
  | .list items | .tuple items | .set items => .ok items
  | .dict members => .ok (members.map fun m => .str m.1)
  | .none | .bool _ | .int _ | .float _ | .date _ _ => .error .typeError

/-- The string of a value that is one and not blank: `_text`. -/
def YamlValue.text? : YamlValue → Option PyStr
  | .str s => if s.strip = [] then Option.none else some s
  | _ => Option.none

/-- The strings of a list of such values that is not empty: `_text_list`. -/
def YamlValue.textList? : YamlValue → Option (List PyStr)
  | .list items => if items.isEmpty then Option.none else items.mapM YamlValue.text?
  | _ => Option.none

/-! ### Writing values -/

/-- What the interpreter decides: how it writes floats, and which letters
outside ASCII, `Cc` and `Cf` it takes for printable. -/
structure PyInterpreter where
  floatRepr : PyFloat → PlainText
  printable : Char → Bool

variable (interp : PyInterpreter)

/-- `c.isprintable()`. -/
def PyInterpreter.isPrintable (c : Char) : Bool :=
  isPrintableAscii c || (0x80 ≤ c.toNat && !isFormatOrControl c && interp.printable c)

/-- The last hexadecimal digits of a number. -/
def hexDigits : Nat → Nat → Text
  | 0, _ => []
  | n + 1, k => hexDigits n (k / 16) ++ [Json.hexDigit k]

/-- The escape of a letter that is not printable. -/
def escapeCode (n : Nat) : Text :=
  if n = 9 then ['\\', 't']
  else if n = 10 then ['\\', 'n']
  else if n = 13 then ['\\', 'r']
  else if n < 0x100 then '\\' :: 'x' :: hexDigits 2 n
  else if n < 0x10000 then '\\' :: 'u' :: hexDigits 4 n
  else '\\' :: 'U' :: hexDigits 8 n

/-- One letter of a quoted string. -/
def reprChar (quote : Char) : PyChar → Text
  | .scalar c =>
    if c = quote ∨ c = '\\' then ['\\', c]
    else if interp.isPrintable c then [c]
    else escapeCode c.toNat
  | .surrogate n => escapeCode (0xd800 + n.val)

/-- `repr(…)` of a string. -/
def reprStr (s : PyStr) : Text :=
  let quote := if PyChar.scalar '\'' ∈ s ∧ PyChar.scalar '"' ∉ s then '"' else '\''
  quote :: (s.flatMap (reprChar interp quote) ++ [quote])

/-- One of quoted bytes. -/
def reprByte (quote : Char) (n : UInt8) : Text :=
  let c := Char.ofNat n.toNat
  if c = quote ∨ c = '\\' then ['\\', c]
  else if isPrintableAscii c then [c]
  else escapeCode n.toNat

/-- `repr(…)` of bytes. -/
def reprBytes (b : List UInt8) : Text :=
  let quote := if 0x27 ∈ b ∧ 0x22 ∉ b then '"' else '\''
  'b' :: quote :: (b.flatMap (reprByte quote) ++ [quote])

/-- Values with a comma between them. -/
def commaSeparated (items : List Text) : Text := List.intercalate [',', ' '] items

namespace YamlValue

mutual

/-- `repr(…)`. -/
def reprs : YamlValue → Except PyExc Text
  | .none => .ok "None".toList
  | .bool b => .ok (if b then "True".toList else "False".toList)
  | .int i => reprInt i
  | .float f => .ok (interp.floatRepr f).val
  | .str s => .ok (reprStr interp s)
  | .bytes b => .ok (reprBytes b)
  | .date _ shown => .ok shown.val
  | .list items => do return '[' :: (commaSeparated (← reprItems items) ++ [']'])
  | .tuple items => do
    let parts ← reprItems items
    return '(' :: (commaSeparated parts ++ if parts.length = 1 then [',', ')'] else [')'])
  | .set items => do
    let parts ← reprItems items
    return if parts = [] then "set()".toList else '\x7b' :: (commaSeparated parts ++ ['\x7d'])
  | .dict members => do return '\x7b' :: (commaSeparated (← reprMembers members) ++ ['\x7d'])

def reprItems : List YamlValue → Except PyExc (List Text)
  | [] => .ok []
  | v :: items => do return (← reprs v) :: (← reprItems items)

def reprMembers : List (PyStr × YamlValue) → Except PyExc (List Text)
  | [] => .ok []
  | (key, v) :: members => do
    return (reprStr interp key ++ ':' :: ' ' :: (← reprs v)) :: (← reprMembers members)

end

/-- `str(…)`. -/
def shown : YamlValue → Except PyExc PyStr
  | .str s => .ok s
  | .date iso _ => .ok (PyStr.ofText iso.val)
  | v => do return PyStr.ofText (← v.reprs interp)

end YamlValue

/-! ### What is left of the letters -/

/-- No letter of the text is of category `Cc` or `Cf`. -/
def Clean (t : Text) : Prop := ∀ c ∈ t, isFormatOrControl c = false

section

variable {interp}

theorem Clean.nil : Clean [] := fun _ hc => absurd hc List.not_mem_nil

theorem Clean.append {t u : Text} (ht : Clean t) (hu : Clean u) : Clean (t ++ u) := by
  intro c hc
  rcases List.mem_append.mp hc with hc | hc
  · exact ht c hc
  · exact hu c hc

theorem Clean.cons {c : Char} {t : Text} (hc : isPrintableAscii c = true) (ht : Clean t) :
    Clean (c :: t) := by
  intro d hd
  rcases List.mem_cons.mp hd with rfl | hd
  · exact not_isFormatOrControl_of_ascii hc
  · exact ht d hd

theorem clean_of_ascii {t : Text} (h : t.all isPrintableAscii = true) : Clean t :=
  fun c hc => not_isFormatOrControl_of_ascii (List.all_eq_true.mp h c hc)

theorem Clean.flatMap {α : Type*} {l : List α} {f : α → Text} (h : ∀ a ∈ l, Clean (f a)) :
    Clean (l.flatMap f) := by
  intro c hc
  obtain ⟨a, ha, hc⟩ := List.mem_flatMap.mp hc
  exact h a ha c hc

theorem clean_commaSeparated {items : List Text} (h : ∀ t ∈ items, Clean t) :
    Clean (commaSeparated items) := by
  induction items with
  | nil => exact Clean.nil
  | cons t items ih =>
    rcases items with - | ⟨u, items⟩
    · simpa [commaSeparated] using h t (by simp)
    · have hrest := ih fun v hv => h v (List.mem_cons_of_mem t hv)
      rw [commaSeparated, List.intercalate_cons_cons]
      exact ((h t List.mem_cons_self).append (clean_of_ascii (by decide))).append hrest

theorem isPrintableAscii_hexDigit (k : Nat) : isPrintableAscii (Json.hexDigit k) = true := by
  have hall : ∀ n < 16, isPrintableAscii (("0123456789abcdef".toList)[n]?.getD '0') = true := by
    decide +kernel
  exact hall (k % 16) (Nat.mod_lt k (by decide))

theorem clean_hexDigits (n k : Nat) : Clean (hexDigits n k) := by
  induction n generalizing k with
  | zero => exact Clean.nil
  | succ n ih =>
    rw [hexDigits]
    exact (ih (k / 16)).append (Clean.cons (isPrintableAscii_hexDigit k) Clean.nil)

theorem clean_escapeCode (n : Nat) : Clean (escapeCode n) := by
  rw [escapeCode]
  split_ifs
  · exact clean_of_ascii (by decide)
  · exact clean_of_ascii (by decide)
  · exact clean_of_ascii (by decide)
  · exact Clean.cons (by decide) (Clean.cons (by decide) (clean_hexDigits 2 n))
  · exact Clean.cons (by decide) (Clean.cons (by decide) (clean_hexDigits 4 n))
  · exact Clean.cons (by decide) (Clean.cons (by decide) (clean_hexDigits 8 n))

theorem not_isFormatOrControl_of_printable {c : Char} (h : interp.isPrintable c = true) :
    isFormatOrControl c = false := by
  rw [PyInterpreter.isPrintable, Bool.or_eq_true, Bool.and_eq_true, Bool.and_eq_true,
    Bool.not_eq_true'] at h
  rcases h with h | ⟨⟨-, h⟩, -⟩
  · exact not_isFormatOrControl_of_ascii h
  · exact h

theorem clean_reprChar {quote : Char} (hquote : isPrintableAscii quote = true) (c : PyChar) :
    Clean (reprChar interp quote c) := by
  cases c with
  | scalar c =>
    rw [reprChar]
    split_ifs with h₁ h₂
    · refine Clean.cons (by decide) (Clean.cons ?_ Clean.nil)
      rcases h₁ with rfl | rfl
      · exact hquote
      · decide
    · intro d hd
      rw [List.mem_singleton.mp hd]
      exact not_isFormatOrControl_of_printable h₂
    · exact clean_escapeCode c.toNat
  | surrogate n => exact clean_escapeCode _

theorem clean_reprStr (s : PyStr) : Clean (reprStr interp s) := by
  rw [reprStr]
  have hquote : isPrintableAscii
      (if PyChar.scalar '\'' ∈ s ∧ PyChar.scalar '"' ∉ s then '"' else '\'') = true := by
    split_ifs
    · decide
    · decide
  exact Clean.cons hquote ((Clean.flatMap fun c _ => clean_reprChar hquote c).append
    (Clean.cons hquote Clean.nil))

theorem clean_reprByte {quote : Char} (hquote : isPrintableAscii quote = true) (n : UInt8) :
    Clean (reprByte quote n) := by
  rw [reprByte]
  split_ifs with h₁ h₂
  · refine Clean.cons (by decide) (Clean.cons ?_ Clean.nil)
    rcases h₁ with h | h
    · rw [h]
      exact hquote
    · rw [h]
      decide
  · exact Clean.cons h₂ Clean.nil
  · exact clean_escapeCode _

theorem clean_reprBytes (b : List UInt8) : Clean (reprBytes b) := by
  have hquote : isPrintableAscii (if 0x27 ∈ b ∧ 0x22 ∉ b then '"' else '\'') = true := by
    split_ifs
    · decide
    · decide
  exact Clean.cons (by decide) (Clean.cons hquote ((Clean.flatMap fun n _ => clean_reprByte hquote n).append
    (Clean.cons hquote Clean.nil)))

theorem clean_toString (i : Int) : Clean (toString i).toList := by
  have hdigits : ∀ n : Nat, Clean (Nat.toDigits 10 n) := by
    intro n c hc
    have hdigit := Nat.isDigit_of_mem_toDigits (by decide) (by decide) hc
    apply not_isFormatOrControl_of_ascii
    rw [Char.isDigit, Bool.and_eq_true, decide_eq_true_eq, decide_eq_true_eq] at hdigit
    rw [isPrintableAscii, Bool.and_eq_true, decide_eq_true_eq, decide_eq_true_eq]
    exact ⟨le_trans (by decide) (UInt32.le_iff_toNat_le.mp hdigit.1),
      le_trans (UInt32.le_iff_toNat_le.mp hdigit.2) (by decide)⟩
  cases i with
  | ofNat n =>
    have htext : (toString (Int.ofNat n)).toList = Nat.toDigits 10 n := by simp [toString, Int.repr]
    rw [htext]
    exact hdigits n
  | negSucc n =>
    have htext : (toString (Int.negSucc n)).toList = '-' :: Nat.toDigits 10 (n + 1) := by
      simp [toString, Int.repr]
    rw [htext]
    exact Clean.cons (by decide) (hdigits (n + 1))

/-- An integer that is written is written in decimal digits. -/
theorem reprInt_eq_ok {i : Int} {t : Text} (h : reprInt i = .ok t) : t = (toString i).toList := by
  rw [reprInt] at h
  cases hlong : isLongInt i with
  | true =>
    rw [hlong] at h
    cases h
  | false =>
    rw [hlong] at h
    exact (Except.ok.inj h).symm

mutual

/-- **`repr(…)` leaves no hidden letter**, whatever the value holds. -/
theorem clean_reprs : ∀ (v : YamlValue) (t : Text), v.reprs interp = .ok t → Clean t
  -- one case for each type of the loader; a container goes through its items
  | .none => by
    intro t h
    rw [YamlValue.reprs] at h
    obtain rfl := Except.ok.inj h
    exact clean_of_ascii (by decide +kernel)
  | .bool b => by
    intro t h
    rw [YamlValue.reprs] at h
    obtain rfl := Except.ok.inj h
    cases b
    · exact clean_of_ascii (by decide +kernel)
    · exact clean_of_ascii (by decide +kernel)
  | .int i => by
    intro t h
    rw [YamlValue.reprs] at h
    rw [reprInt_eq_ok h]
    exact clean_toString i
  | .float f => by
    intro t h
    rw [YamlValue.reprs] at h
    obtain rfl := Except.ok.inj h
    exact clean_of_ascii (interp.floatRepr f).2
  | .str s => by
    intro t h
    rw [YamlValue.reprs] at h
    obtain rfl := Except.ok.inj h
    exact clean_reprStr s
  | .bytes b => by
    intro t h
    rw [YamlValue.reprs] at h
    obtain rfl := Except.ok.inj h
    exact clean_reprBytes b
  | .date _ shown => by
    intro t h
    rw [YamlValue.reprs] at h
    obtain rfl := Except.ok.inj h
    exact clean_of_ascii shown.2
  | .list items => by
    intro t h
    rw [YamlValue.reprs] at h
    obtain ⟨parts, hparts, h⟩ := bind_eq_ok_iff.mp h
    obtain rfl := Except.ok.inj h
    exact Clean.cons (by decide) ((clean_commaSeparated (clean_reprItems items _ hparts)).append
      (clean_of_ascii (by decide)))
  | .tuple items => by
    intro t h
    rw [YamlValue.reprs] at h
    obtain ⟨parts, hparts, h⟩ := bind_eq_ok_iff.mp h
    obtain rfl := Except.ok.inj h
    refine Clean.cons (by decide) ((clean_commaSeparated (clean_reprItems items _ hparts)).append ?_)
    split_ifs
    · exact clean_of_ascii (by decide)
    · exact clean_of_ascii (by decide)
  | .set items => by
    intro t h
    rw [YamlValue.reprs] at h
    obtain ⟨parts, hparts, h⟩ := bind_eq_ok_iff.mp h
    obtain rfl := Except.ok.inj h
    split_ifs
    · exact clean_of_ascii (by decide +kernel)
    · exact Clean.cons (by decide) ((clean_commaSeparated (clean_reprItems items _ hparts)).append
        (clean_of_ascii (by decide)))
  | .dict members => by
    intro t h
    rw [YamlValue.reprs] at h
    obtain ⟨parts, hparts, h⟩ := bind_eq_ok_iff.mp h
    obtain rfl := Except.ok.inj h
    exact Clean.cons (by decide) ((clean_commaSeparated (clean_reprMembers members _ hparts)).append
      (clean_of_ascii (by decide)))

theorem clean_reprItems : ∀ (items : List YamlValue) (ts : List Text),
    YamlValue.reprItems interp items = .ok ts → ∀ t ∈ ts, Clean t
  | [] => by
    intro ts h
    rw [YamlValue.reprItems] at h
    obtain rfl := Except.ok.inj h
    simp
  | v :: items => by
    intro ts h
    rw [YamlValue.reprItems] at h
    obtain ⟨u, hu, h⟩ := bind_eq_ok_iff.mp h
    obtain ⟨us, hus, h⟩ := bind_eq_ok_iff.mp h
    obtain rfl := Except.ok.inj h
    intro t ht
    rcases List.mem_cons.mp ht with rfl | ht
    · exact clean_reprs v _ hu
    · exact clean_reprItems items _ hus t ht

theorem clean_reprMembers : ∀ (members : List (PyStr × YamlValue)) (ts : List Text),
    YamlValue.reprMembers interp members = .ok ts → ∀ t ∈ ts, Clean t
  | [] => by
    intro ts h
    rw [YamlValue.reprMembers] at h
    obtain rfl := Except.ok.inj h
    simp
  | (key, v) :: members => by
    intro ts h
    rw [YamlValue.reprMembers] at h
    obtain ⟨u, hu, h⟩ := bind_eq_ok_iff.mp h
    obtain ⟨us, hus, h⟩ := bind_eq_ok_iff.mp h
    obtain rfl := Except.ok.inj h
    intro t ht
    rcases List.mem_cons.mp ht with rfl | ht
    · exact (clean_reprStr key).append (Clean.cons (by decide) (Clean.cons (by decide) (clean_reprs v _ hu)))
    · exact clean_reprMembers members _ hus t ht

end

/-! ### When a value is not written -/

mutual

/-- The value holds an integer that is too long to write. -/
def YamlValue.hasLongInt : YamlValue → Bool
  | .none | .bool _ | .float _ | .str _ | .bytes _ | .date _ _ => false
  | .int i => isLongInt i
  | .list items => anyLongInt items
  | .tuple items => anyLongInt items
  | .set items => anyLongInt items
  | .dict members => anyLongMember members

def YamlValue.anyLongInt : List YamlValue → Bool
  | [] => false
  | v :: items => v.hasLongInt || anyLongInt items

def YamlValue.anyLongMember : List (PyStr × YamlValue) → Bool
  | [] => false
  | (_, v) :: members => v.hasLongInt || anyLongMember members

end

theorem raises_reprInt_iff {i : Int} : Raises (reprInt i) ↔ isLongInt i = true := by
  rw [reprInt]
  cases isLongInt i with
  | true => exact iff_of_true ⟨_, rfl⟩ rfl
  | false => exact iff_of_false not_raises_ok Bool.false_ne_true

/-- Writing raises when what it starts with does. -/
theorem raises_pure_bind_iff {α β : Type _} {x : Except PyExc α} {f : α → β} :
    Raises (x >>= fun a => pure (f a)) ↔ Raises x := by
  rw [raises_bind_iff]
  constructor
  · rintro (h | ⟨a, -, h⟩)
    · exact h
    · exact absurd h not_raises_ok
  · exact Or.inl

/-- Of two writings the second may raise once the first has returned. -/
theorem raises_second_iff {α β γ : Type _} {x : Except PyExc α} {y : Except PyExc β} {f : α → β → γ} :
    (Raises x ∨ ∃ a, x = .ok a ∧ Raises (y >>= fun b => pure (f a b))) ↔ Raises x ∨ Raises y := by
  simp only [raises_pure_bind_iff]
  constructor
  · rintro (h | ⟨a, -, h⟩)
    · exact Or.inl h
    · exact Or.inr h
  · rintro (h | h)
    · exact Or.inl h
    · rcases x with e | a
      · exact Or.inl ⟨e, rfl⟩
      · exact Or.inr ⟨a, rfl, h⟩

mutual

/-- **`repr(…)` raises** exactly on a value with a long integer in it. -/
theorem raises_reprs_iff : ∀ v : YamlValue, Raises (v.reprs interp) ↔ v.hasLongInt = true
  | .none => by
    rw [YamlValue.reprs, YamlValue.hasLongInt]
    exact iff_of_false not_raises_ok Bool.false_ne_true
  | .bool _ => by
    rw [YamlValue.reprs, YamlValue.hasLongInt]
    exact iff_of_false not_raises_ok Bool.false_ne_true
  | .int i => by
    rw [YamlValue.reprs, YamlValue.hasLongInt]
    exact raises_reprInt_iff
  | .float _ => by
    rw [YamlValue.reprs, YamlValue.hasLongInt]
    exact iff_of_false not_raises_ok Bool.false_ne_true
  | .str _ => by
    rw [YamlValue.reprs, YamlValue.hasLongInt]
    exact iff_of_false not_raises_ok Bool.false_ne_true
  | .bytes _ => by
    rw [YamlValue.reprs, YamlValue.hasLongInt]
    exact iff_of_false not_raises_ok Bool.false_ne_true
  | .date _ _ => by
    rw [YamlValue.reprs, YamlValue.hasLongInt]
    exact iff_of_false not_raises_ok Bool.false_ne_true
  | .list items => by
    rw [YamlValue.reprs, YamlValue.hasLongInt, raises_pure_bind_iff]
    exact raises_reprItems_iff items
  | .tuple items => by
    rw [YamlValue.reprs, YamlValue.hasLongInt, raises_pure_bind_iff]
    exact raises_reprItems_iff items
  | .set items => by
    rw [YamlValue.reprs, YamlValue.hasLongInt, raises_pure_bind_iff]
    exact raises_reprItems_iff items
  | .dict members => by
    rw [YamlValue.reprs, YamlValue.hasLongInt, raises_pure_bind_iff]
    exact raises_reprMembers_iff members

theorem raises_reprItems_iff : ∀ items : List YamlValue,
    Raises (YamlValue.reprItems interp items) ↔ YamlValue.anyLongInt items = true
  | [] => by
    rw [YamlValue.reprItems, YamlValue.anyLongInt]
    exact iff_of_false not_raises_ok Bool.false_ne_true
  | v :: items => by
    rw [YamlValue.reprItems, YamlValue.anyLongInt, Bool.or_eq_true, ← raises_reprs_iff v,
      ← raises_reprItems_iff items, raises_bind_iff]
    exact raises_second_iff

theorem raises_reprMembers_iff : ∀ members : List (PyStr × YamlValue),
    Raises (YamlValue.reprMembers interp members) ↔ YamlValue.anyLongMember members = true
  | [] => by
    rw [YamlValue.reprMembers, YamlValue.anyLongMember]
    exact iff_of_false not_raises_ok Bool.false_ne_true
  | (_, v) :: members => by
    rw [YamlValue.reprMembers, YamlValue.anyLongMember, Bool.or_eq_true, ← raises_reprs_iff v,
      ← raises_reprMembers_iff members, raises_bind_iff]
    exact raises_second_iff

end

theorem raises_shown_iff {v : YamlValue} : Raises (v.shown interp) ↔ v.hasLongInt = true := by
  cases v with
  | str s =>
    rw [YamlValue.shown, YamlValue.hasLongInt]
    exact iff_of_false not_raises_ok Bool.false_ne_true
  | date iso shown =>
    rw [YamlValue.shown, YamlValue.hasLongInt]
    exact iff_of_false not_raises_ok Bool.false_ne_true
  | none | bool | int | float | bytes | list | tuple | set | dict =>
    exact raises_pure_bind_iff.trans (raises_reprs_iff _)

/-- What `str(…)` of a value shows beyond a string is clean. -/
theorem mem_shown {v : YamlValue} {t : PyStr} (h : v.shown interp = .ok t) {c : Char}
    (hc : isFormatOrControl c = true) : PyChar.scalar c ∈ t ↔ ∃ s, v = .str s ∧ PyChar.scalar c ∈ s := by
  have hclean : ∀ {u : Text}, Clean u → PyChar.scalar c ∉ PyStr.ofText u := by
    intro u hu hmem
    obtain ⟨d, hd, hdc⟩ := List.mem_map.mp hmem
    obtain rfl := PyChar.scalar.inj hdc
    rw [hu d hd] at hc
    cases hc
  cases v with
  | str s =>
    rw [YamlValue.shown] at h
    obtain rfl := Except.ok.inj h
    exact ⟨fun hmem => ⟨s, rfl, hmem⟩, fun ⟨s', hs', hmem⟩ => YamlValue.str.inj hs' ▸ hmem⟩
  | date iso shown =>
    rw [YamlValue.shown] at h
    obtain rfl := Except.ok.inj h
    exact iff_of_false (hclean (clean_of_ascii iso.2)) (by simp)
  | none | bool | int | float | bytes | list | tuple | set | dict =>
    obtain ⟨u, hu, h⟩ := bind_eq_ok_iff.mp h
    obtain rfl := Except.ok.inj h
    exact iff_of_false (hclean (clean_reprs _ _ hu)) (by simp)

end

end SkillsSdk

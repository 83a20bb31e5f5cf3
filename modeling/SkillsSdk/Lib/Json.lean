/-
SkillsSdk/Lib/Json.lean

JSON values and their canonical one-line text: keys sorted, no blanks, every
letter outside printable ASCII escaped.

A value is written bottom-up: the members of an object are written first and
the written members are then sorted by key.  Two objects with the same members
in different orders therefore have the same text (`Json.dumps_obj_perm`), which
is all a digest of the text ever relies on.
-/
import Mathlib.Data.List.Sort
import Mathlib.Data.List.Lex
import Mathlib.Data.Char
import Mathlib.Tactic.Common

/-- A JSON value; the members of an object keep the order they were written in.
A number that is not an integer is kept as it is written. -/
inductive Json where
  | null
  | bool (b : Bool)
  | int (i : Int)
  | num (written : List Char)
  | str (s : List Char)
  | arr (items : List Json)
  | obj (members : List (List Char × Json))

namespace Json

/-! ### Strings -/

/-- The lower-case hexadecimal digit of `n % 16`. -/
def hexDigit (n : Nat) : Char :=
  ("0123456789abcdef".toList)[n % 16]?.getD '0'

/-- The escape of one UTF-16 code unit. -/
def escapeUnit (n : Nat) : List Char :=
  ['\\', 'u', hexDigit (n / 4096), hexDigit (n / 256), hexDigit (n / 16), hexDigit n]

/-- One letter of a string: itself, a short escape, or its UTF-16 units. -/
def escapeChar (c : Char) : List Char :=
  if c = '"' then ['\\', '"']
  else if c = '\\' then ['\\', '\\']
  else if c = '\n' then ['\\', 'n']
  else if c = '\r' then ['\\', 'r']
  else if c = '\t' then ['\\', 't']
  else if c.toNat = 8 then ['\\', 'b']
  else if c.toNat = 12 then ['\\', 'f']
  else if 32 ≤ c.toNat ∧ c.toNat ≤ 126 then [c]
  else if c.toNat < 65536 then escapeUnit c.toNat
  else
    escapeUnit (55296 + (c.toNat - 65536) / 1024) ++
      escapeUnit (56320 + (c.toNat - 65536) % 1024)

/-- A quoted string. -/
def quote (s : List Char) : List Char :=
  '"' :: (s.flatMap escapeChar ++ ['"'])

/-- One letter of a string under `ensure_ascii=False`. -/
def plainChar (c : Char) : List Char := if 127 ≤ c.toNat then [c] else escapeChar c

def plainQuote (s : List Char) : List Char := '"' :: (s.flatMap plainChar ++ ['"'])

/-! ### Values -/

/-- The order of object keys: by code point, the shorter of two equal starts first. -/
def KeyLe (x y : List Char × List Char) : Prop := x.1 ≤ y.1

instance : DecidableRel KeyLe := fun x y => inferInstanceAs (Decidable (x.1 ≤ y.1))

/-- The members of an object in the order of their keys. -/
def sortMembers (members : List (List Char × List Char)) : List (List Char × List Char) :=
  members.insertionSort KeyLe

/-- `"key":value`. -/
def member (m : List Char × List Char) : List Char := quote m.1 ++ ':' :: m.2

/-- A comma between consecutive texts. -/
def commas (items : List (List Char)) : List Char := List.intercalate [','] items

mutual

/-- The canonical text of a value. -/
def dumps : Json → List Char
  | null => "null".toList
  | bool b => if b then "true".toList else "false".toList
  | int i => (toString i).toList
  | num written => written
  | str s => quote s
  | arr items => '[' :: (commas (dumpsItems items) ++ [']'])
  | obj members =>
      '\x7b' :: (commas ((sortMembers (dumpsMembers members)).map member) ++ ['\x7d'])

/-- The texts of the items of an array, in order. -/
def dumpsItems : List Json → List (List Char)
  | [] => []
  | j :: js => dumps j :: dumpsItems js

/-- The written members of an object, in the order they are given. -/
def dumpsMembers : List (List Char × Json) → List (List Char × List Char)
  | [] => []
  | (k, j) :: ms => (k, dumps j) :: dumpsMembers ms

end

mutual

/-- The integers of a value, in the order they are written. -/
def ints : Json → List Int
  | null => []
  | bool _ => []
  | int i => [i]
  | num _ => []
  | str _ => []
  | arr items => intsItems items
  | obj members => intsMembers members

def intsItems : List Json → List Int
  | [] => []
  | j :: js => ints j ++ intsItems js

def intsMembers : List (List Char × Json) → List Int
  | [] => []
  | (_, j) :: ms => ints j ++ intsMembers ms

end

theorem intsItems_eq_flatMap (items : List Json) : intsItems items = items.flatMap ints := by
  induction items with
  | nil => rfl
  | cons j js ih => rw [intsItems, ih, List.flatMap_cons]

theorem intsMembers_eq_flatMap (members : List (List Char × Json)) :
    intsMembers members = members.flatMap fun m => ints m.2 := by
  induction members with
  | nil => rfl
  | cons m ms ih => rw [intsMembers, ih, List.flatMap_cons]

theorem dumpsMembers_eq_map (members : List (List Char × Json)) :
    dumpsMembers members = members.map fun m => (m.1, dumps m.2) := by
  induction members with
  | nil => rfl
  | cons m ms ih =>
    obtain ⟨k, j⟩ := m
    simp [dumpsMembers, ih]

/-! ### The order of members does not show -/

instance : Std.Total KeyLe := ⟨fun x y => le_total x.1 y.1⟩

instance : IsTrans (List Char × List Char) KeyLe := ⟨fun _ _ _ h h' => le_trans h h'⟩

/-- Sorting by key forgets the order of members with distinct keys. -/
theorem sortMembers_perm {ms ns : List (List Char × List Char)} (h : ms.Perm ns)
    (hkeys : (ms.map Prod.fst).Nodup) : sortMembers ms = sortMembers ns := by
  have hms := List.perm_insertionSort KeyLe ms
  have hns := List.perm_insertionSort KeyLe ns
  refine List.Perm.eq_of_pairwise ?_ (List.pairwise_insertionSort KeyLe ms)
    (List.pairwise_insertionSort KeyLe ns) (hms.trans (h.trans hns.symm))
  -- two members with the same key are the same member
  intro x y hx hy hxy hyx
  have hx : x ∈ ms := hms.mem_iff.mp hx
  have hy : y ∈ ms := h.mem_iff.mpr (hns.mem_iff.mp hy)
  exact List.inj_on_of_nodup_map hkeys hx hy (le_antisymm hxy hyx)

/-- **Canonical text**: objects with the same members have the same text,
whatever the order their members are written in. -/
theorem dumps_obj_perm {ms ns : List (List Char × Json)} (h : ms.Perm ns)
    (hkeys : (ms.map Prod.fst).Nodup) : dumps (obj ms) = dumps (obj ns) := by
  have : sortMembers (dumpsMembers ms) = sortMembers (dumpsMembers ns) := by
    rw [dumpsMembers_eq_map, dumpsMembers_eq_map]
    refine sortMembers_perm (h.map _) ?_
    rwa [List.map_map, show (Prod.fst ∘ fun m : List Char × Json => (m.1, dumps m.2))
      = Prod.fst from rfl]
  simp only [dumps, this]

end Json

/-
SkillsSdk/Lib/JsonReading.lean

Reading JSON text: what is written with a blank after each comma and colon is
read back.

The reader takes blanks wherever the grammar allows them, joins the escapes of a
surrogate pair, and lets a repeated key of an object replace the earlier member.
Its fuel bounds the nesting and the number of values; twice the number of values
is enough (`readValue_dumpsSpaced`), and a text has no more values than letters.
A float is kept as its text, so what a host makes of a literal is a parameter
(`NumberFormat`).
-/
import SkillsSdk.Lib.Json
import SkillsSdk.Lib.KeyedList
import Mathlib.Algebra.Order.BigOperators.Group.List
import Mathlib.Algebra.Order.Group.Nat
import Mathlib.Algebra.Ring.Nat
import Mathlib.Data.List.TakeWhile

namespace Json

/-! ### Numbers -/

/-- The digits of an integer without leading zeros, and what follows them. -/
def readNatural : List Char → Option (List Char × List Char)
  | [] => none
  | c :: t =>
    if c = '0' then some (['0'], t)
    else if c.isDigit then some (c :: t.takeWhile Char.isDigit, t.dropWhile Char.isDigit)
    else none

def readInteger : List Char → Option (List Char × List Char)
  | '-' :: t => (readNatural t).map fun p => ('-' :: p.1, p.2)
  | t => readNatural t

/-- A point with digits after it. -/
def readFraction : List Char → List Char × List Char
  | [] => ([], [])
  | c :: t =>
    if c = '.' ∧ t.takeWhile Char.isDigit ≠ [] then
      ('.' :: t.takeWhile Char.isDigit, t.dropWhile Char.isDigit)
    else ([], c :: t)

def readSign : List Char → List Char × List Char
  | [] => ([], [])
  | c :: t => if c = '+' ∨ c = '-' then ([c], t) else ([], c :: t)

/-- The letter `e` with digits after it, perhaps behind a sign. -/
def readExponent : List Char → List Char × List Char
  | [] => ([], [])
  | c :: t =>
    if (c = 'e' ∨ c = 'E') ∧ (readSign t).2.takeWhile Char.isDigit ≠ [] then
      (c :: ((readSign t).1 ++ (readSign t).2.takeWhile Char.isDigit), (readSign t).2.dropWhile Char.isDigit)
    else ([], c :: t)

/-- A number that has been read: its integer part, its decimals and exponent, and what follows. -/
structure NumberText where
  integer : List Char
  decimals : List Char
  rest : List Char
  deriving DecidableEq

def readNumber (t : List Char) : Option NumberText :=
  (readInteger t).map fun i =>
    let f := readFraction i.2
    let e := readExponent f.2
    ⟨i.1, f.1 ++ e.1, e.2⟩

/-- The text is one number, with decimals or an exponent. -/
def isFloatLiteral (w : List Char) : Bool :=
  match readNumber w with
  | some n => n.decimals != [] && n.rest == []
  | none => false

/-- The integer that its text denotes. -/
def intOf : List Char → Int
  | '-' :: ds => -(Nat.ofDigitChars 10 ds 0 : Int)
  | ds => (Nat.ofDigitChars 10 ds 0 : Int)

/-- What a host makes of numbers: the integers that it converts, the texts in which it
writes floats, and the text of the float that a literal denotes. -/
structure NumberFormat where
  converts : Int → Bool
  IsWritten : List Char → Prop
  reread : List Char → List Char
  literal : ∀ w, IsWritten w → isFloatLiteral w = true
  reread_eq : ∀ w, IsWritten w → reread w = w

/-- The value of a number. -/
def numberValue (format : NumberFormat) (n : NumberText) : Option Json :=
  if n.decimals ≠ [] then some (num (format.reread (n.integer ++ n.decimals)))
  else if format.converts (intOf n.integer) then some (int (intOf n.integer))
  else none

/-! ### Strings -/

/-- A letter of a string, or an escaped UTF-16 unit. -/
inductive Piece where
  | letter (c : Char)
  | unit (n : Nat)

def hexValue (c : Char) : Option Nat :=
  if c.isDigit then some (c.toNat - 48)
  else if 'a' ≤ c ∧ c ≤ 'f' then some (c.toNat - 87)
  else if 'A' ≤ c ∧ c ≤ 'F' then some (c.toNat - 55)
  else none

def hexUnit (a b c d : Char) : Option Nat := do
  return (((← hexValue a) * 16 + (← hexValue b)) * 16 + (← hexValue c)) * 16 + (← hexValue d)

/-- The letter that a short escape stands for. -/
def shortEscape : Char → Option Char
  | '"' => some '"'
  | '\\' => some '\\'
  | '/' => some '/'
  | 'b' => some (Char.ofNat 8)
  | 'f' => some (Char.ofNat 12)
  | 'n' => some '\n'
  | 'r' => some '\r'
  | 't' => some '\t'
  | _ => none

/-- The pieces up to the closing quote, and what follows it. -/
def readPieces : List Char → Option (List Piece × List Char)
  | [] => none
  | '"' :: t => some ([], t)
  | '\\' :: 'u' :: a :: b :: c :: d :: t => do
    let n ← hexUnit a b c d
    let p ← readPieces t
    return (.unit n :: p.1, p.2)
  | '\\' :: e :: t => do
    let c ← shortEscape e
    let p ← readPieces t
    return (.letter c :: p.1, p.2)
  | c :: t =>
    if c.toNat < 32 ∨ c = '\\' then none
    else do
      let p ← readPieces t
      return (.letter c :: p.1, p.2)

/-- The letters of the pieces: a pair of surrogates is one letter, and a surrogate alone is none. -/
def joinPieces : List Piece → Option (List Char)
  | [] => some []
  | .letter c :: ps => (joinPieces ps).map (c :: ·)
  | .unit n :: ps =>
    if 0xd800 ≤ n ∧ n < 0xdc00 then
      match ps with
      | .unit m :: qs =>
        if 0xdc00 ≤ m ∧ m < 0xe000 then
          (joinPieces qs).map (Char.ofNat (0x10000 + (n - 0xd800) * 1024 + (m - 0xdc00)) :: ·)
        else none
      | _ => none
    else if 0xdc00 ≤ n ∧ n < 0xe000 then none
    else (joinPieces ps).map (Char.ofNat n :: ·)

/-- A string behind its opening quote, and what follows it. -/
def readString (t : List Char) : Option (List Char × List Char) := do
  let p ← readPieces t
  let s ← joinPieces p.1
  return (s, p.2)

/-! ### Values -/

def isBlank (c : Char) : Bool := c == ' ' || c == '\t' || c == '\n' || c == '\r'

def skipBlanks (t : List Char) : List Char := t.dropWhile isBlank

/-- A value that is a word. -/
def readWord (word : String) (value : Json) (t : List Char) : Option (Json × List Char) :=
  if word.toList.isPrefixOf t then some (value, t.drop word.toList.length) else none

/-- A literal, or a constant that is no number of JSON. -/
def readLiteral (format : NumberFormat) (t : List Char) : Option (Json × List Char) :=
  readWord "null" null t <|> readWord "true" (bool true) t <|> readWord "false" (bool false) t <|>
    readWord "NaN" (num (format.reread "NaN".toList)) t <|>
    readWord "Infinity" (num (format.reread "Infinity".toList)) t <|>
    readWord "-Infinity" (num (format.reread "-Infinity".toList)) t

def readScalar (format : NumberFormat) (t : List Char) : Option (Json × List Char) :=
  match readNumber t with
  | some n => (numberValue format n).map fun v => (v, n.rest)
  | none => readLiteral format t

/-- The members of an object: a repeated key keeps its place and takes the later value. -/
def keepLast (members : List (List Char × Json)) : List (List Char × Json) :=
  members.foldl (fun kept m => KeyedList.upsert Prod.fst m kept) []

mutual

def readValue (format : NumberFormat) : Nat → List Char → Option (Json × List Char)
  | 0, _ => none
  | _ + 1, [] => none
  | fuel + 1, c :: t =>
    if c = '"' then (readString t).map fun p => (str p.1, p.2)
    else if c = '[' then
      if (skipBlanks t).head? = some ']' then some (arr [], (skipBlanks t).tail)
      else (readItems format fuel (skipBlanks t)).map fun p => (arr p.1, p.2)
    else if c = '\x7b' then
      if (skipBlanks t).head? = some '\x7d' then some (obj [], (skipBlanks t).tail)
      else (readMembers format fuel (skipBlanks t)).map fun p => (obj (keepLast p.1), p.2)
    else readScalar format (c :: t)

/-- The items of an array up to its end. -/
def readItems (format : NumberFormat) : Nat → List Char → Option (List Json × List Char)
  | 0, _ => none
  | fuel + 1, t => do
    let v ← readValue format fuel t
    match skipBlanks v.2 with
    | ',' :: t => do
      let vs ← readItems format fuel (skipBlanks t)
      return (v.1 :: vs.1, vs.2)
    | ']' :: t => some ([v.1], t)
    | _ => none

/-- The members of an object up to its end. -/
def readMembers (format : NumberFormat) : Nat → List Char → Option (List (List Char × Json) × List Char)
  | 0, _ => none
  | _ + 1, [] => none
  | fuel + 1, c :: t =>
    if c ≠ '"' then none
    else do
      let k ← readString t
      match skipBlanks k.2 with
      | ':' :: t => do
        let v ← readValue format fuel (skipBlanks t)
        match skipBlanks v.2 with
        | ',' :: t => do
          let ms ← readMembers format fuel (skipBlanks t)
          return ((k.1, v.1) :: ms.1, ms.2)
        | '\x7d' :: t => some ([(k.1, v.1)], t)
        | _ => none
      | _ => none

end

/-- `json.loads(…)` of a text. -/
def loads (format : NumberFormat) (t : List Char) : Option Json := do
  let v ← readValue format (2 * t.length) (skipBlanks t)
  if skipBlanks v.2 = [] then some v.1 else none

/-! ### Writing with blanks -/

mutual

/-- The text of a value with its members in their order and its letters as they are,
and a blank after each comma and colon. -/
def dumpsSpaced : Json → List Char
  | null => "null".toList
  | bool b => if b then "true".toList else "false".toList
  | int i => (toString i).toList
  | num written => written
  | str s => plainQuote s
  | arr items => '[' :: (List.intercalate [',', ' '] (dumpsSpacedItems items) ++ [']'])
  | obj members => '\x7b' :: (List.intercalate [',', ' '] (dumpsSpacedMembers members) ++ ['\x7d'])

def dumpsSpacedItems : List Json → List (List Char)
  | [] => []
  | j :: js => dumpsSpaced j :: dumpsSpacedItems js

def dumpsSpacedMembers : List (List Char × Json) → List (List Char)
  | [] => []
  | (k, j) :: ms => (plainQuote k ++ ':' :: ' ' :: dumpsSpaced j) :: dumpsSpacedMembers ms

end

mutual

/-- The number of values in a value. -/
def nodes : Json → Nat
  | arr items => nodesItems items + 1
  | obj members => nodesMembers members + 1
  | _ => 1

def nodesItems : List Json → Nat
  | [] => 0
  | j :: js => nodes j + nodesItems js

def nodesMembers : List (List Char × Json) → Nat
  | [] => 0
  | (_, j) :: ms => nodes j + nodesMembers ms

end

mutual

/-- The host writes and converts every number, and no object has a key twice. -/
def Readable (format : NumberFormat) : Json → Prop
  | int i => format.converts i = true
  | num w => format.IsWritten w
  | arr items => ReadableItems format items
  | obj members => (members.map Prod.fst).Nodup ∧ ReadableMembers format members
  | _ => True

def ReadableItems (format : NumberFormat) : List Json → Prop
  | [] => True
  | j :: js => Readable format j ∧ ReadableItems format js

def ReadableMembers (format : NumberFormat) : List (List Char × Json) → Prop
  | [] => True
  | (_, j) :: ms => Readable format j ∧ ReadableMembers format ms

end

/-! ### Numbers are read back -/

section

variable {a r t : List Char}

/-- Nothing in front of the rest belongs to a number. -/
def Stops (r : List Char) : Prop := ∀ c ∈ r.head?, c.isDigit = false ∧ c ≠ '.' ∧ c ≠ 'e' ∧ c ≠ 'E'

theorem stops_nil : Stops [] := fun c hc => by cases hc

theorem stops_cons {c : Char} (h : c.isDigit = false) (hpoint : c ≠ '.') (he : c ≠ 'e') (hE : c ≠ 'E') :
    Stops (c :: t) := by
  intro d hd
  obtain rfl := Option.some.inj hd
  exact ⟨h, hpoint, he, hE⟩

theorem stops_bracket : Stops (']' :: t) := stops_cons (by decide) (by decide) (by decide) (by decide)

theorem stops_brace : Stops ('\x7d' :: t) := stops_cons (by decide) (by decide) (by decide) (by decide)

theorem stops_comma : Stops (',' :: t) := stops_cons (by decide) (by decide) (by decide) (by decide)

/-- The digits in front are those of the first text. -/
theorem takeWhile_digits_append (h : Stops r) :
    (a ++ r).takeWhile Char.isDigit = a.takeWhile Char.isDigit ∧
      (a ++ r).dropWhile Char.isDigit = a.dropWhile Char.isDigit ++ r := by
  induction a with
  | nil =>
    rcases r with - | ⟨c, r⟩
    · exact ⟨rfl, rfl⟩
    · have hc := (h c rfl).1
      rw [List.nil_append, List.takeWhile_cons_of_neg (by simp [hc]), List.dropWhile_cons_of_neg (by simp [hc])]
      exact ⟨rfl, rfl⟩
  | cons c a ih =>
    by_cases hc : c.isDigit = true
    · rw [List.cons_append, List.takeWhile_cons_of_pos hc, List.takeWhile_cons_of_pos hc,
        List.dropWhile_cons_of_pos hc, List.dropWhile_cons_of_pos hc, ih.1]
      exact ⟨rfl, ih.2⟩
    · rw [List.cons_append, List.takeWhile_cons_of_neg hc, List.takeWhile_cons_of_neg hc,
        List.dropWhile_cons_of_neg hc, List.dropWhile_cons_of_neg hc]
      exact ⟨rfl, rfl⟩

theorem readNatural_append {p : List Char × List Char} (h : Stops r) (ha : readNatural a = some p) :
    readNatural (a ++ r) = some (p.1, p.2 ++ r) := by
  rcases a with - | ⟨c, a⟩
  · cases ha
  · obtain ⟨htake, hdrop⟩ : (a ++ r).takeWhile Char.isDigit = a.takeWhile Char.isDigit ∧
        (a ++ r).dropWhile Char.isDigit = a.dropWhile Char.isDigit ++ r := takeWhile_digits_append h
    rw [List.cons_append]
    unfold readNatural at ha ⊢
    dsimp only at ha ⊢
    split_ifs at ha ⊢
    · rw [← Option.some.inj ha]
    · rw [← Option.some.inj ha, htake, hdrop]

theorem readInteger_append {p : List Char × List Char} (h : Stops r) (ha : readInteger a = some p) :
    readInteger (a ++ r) = some (p.1, p.2 ++ r) := by
  rcases a with - | ⟨c, a⟩
  · cases ha
  · by_cases hc : c = '-'
    · subst hc
      obtain ⟨q, hq, rfl⟩ := Option.map_eq_some_iff.mp ha
      rw [List.cons_append, readInteger, readNatural_append h hq]
      rfl
    · have hplain : ∀ u, readInteger (c :: u) = readNatural (c :: u) := by
        intro u
        rw [readInteger]
        rintro v ⟨⟩
        exact hc rfl
      rw [hplain] at ha
      rw [List.cons_append, hplain]
      exact readNatural_append h ha

theorem readFraction_append (h : Stops r) :
    readFraction (a ++ r) = ((readFraction a).1, (readFraction a).2 ++ r) := by
  rcases a with - | ⟨c, a⟩
  · rcases r with - | ⟨c, r⟩
    · rfl
    · show readFraction (c :: r) = ([], c :: r)
      rw [readFraction, if_neg fun hc => (h c rfl).2.1 hc.1]
  · obtain ⟨htake, hdrop⟩ : (a ++ r).takeWhile Char.isDigit = a.takeWhile Char.isDigit ∧
        (a ++ r).dropWhile Char.isDigit = a.dropWhile Char.isDigit ++ r := takeWhile_digits_append h
    rw [List.cons_append, readFraction, readFraction, htake, hdrop]
    split_ifs <;> rfl

theorem readSign_append (ha : a ≠ []) : readSign (a ++ r) = ((readSign a).1, (readSign a).2 ++ r) := by
  rcases a with - | ⟨c, a⟩
  · exact absurd rfl ha
  · rw [List.cons_append, readSign, readSign]
    split_ifs <;> rfl

/-- An exponent that is read to the end ends before what follows. -/
theorem readExponent_append (h : Stops r) (ha : (readExponent a).2 = []) :
    readExponent (a ++ r) = ((readExponent a).1, r) := by
  rcases a with - | ⟨c, a⟩
  · rcases r with - | ⟨c, r⟩
    · rfl
    · show readExponent (c :: r) = ([], c :: r)
      rw [readExponent, if_neg]
      rintro ⟨rfl | rfl, -⟩
      · exact (h _ rfl).2.2.1 rfl
      · exact (h _ rfl).2.2.2 rfl
  · rw [readExponent] at ha ⊢
    split_ifs at ha ⊢ with hc
    · have hne : a ≠ [] := by
        rintro rfl
        exact hc.2 rfl
      obtain ⟨htake, hdrop⟩ : ((readSign a).2 ++ r).takeWhile Char.isDigit =
          (readSign a).2.takeWhile Char.isDigit ∧ ((readSign a).2 ++ r).dropWhile Char.isDigit =
            (readSign a).2.dropWhile Char.isDigit ++ r := takeWhile_digits_append h
      rw [List.cons_append, readExponent, readSign_append hne]
      dsimp only at ha ⊢
      rw [htake, hdrop, if_pos hc, ha]
      rfl

/-- **A number that is the whole text** is read in front of what does not continue it. -/
theorem readNumber_append {n : NumberText} (h : Stops r) (ha : readNumber a = some n) (hrest : n.rest = []) :
    readNumber (a ++ r) = some ⟨n.integer, n.decimals, r⟩ := by
  obtain ⟨i, hi, rfl⟩ := Option.map_eq_some_iff.mp ha
  rw [readNumber, readInteger_append h hi, Option.map_some]
  dsimp only at hrest ⊢
  rw [readFraction_append h, readExponent_append h hrest]

theorem takeWhile_append_dropWhile (t : List Char) :
    t.takeWhile Char.isDigit ++ t.dropWhile Char.isDigit = t := List.takeWhile_append_dropWhile

/-- Nothing of a number is lost. -/
theorem readNumber_concat {n : NumberText} (h : readNumber t = some n) :
    n.integer ++ (n.decimals ++ n.rest) = t := by
  -- no part of the number reads a letter that it does not keep
  have hnatural : ∀ {u : List Char} {p}, readNatural u = some p → p.1 ++ p.2 = u := by
    intro u p hp
    rcases u with - | ⟨c, u⟩
    · cases hp
    · unfold readNatural at hp
      dsimp only at hp
      split_ifs at hp with hzero
      · rw [← Option.some.inj hp, hzero]
        rfl
      · rw [← Option.some.inj hp, List.cons_append, takeWhile_append_dropWhile]
  have hinteger : ∀ {u : List Char} {p}, readInteger u = some p → p.1 ++ p.2 = u := by
    intro u p hp
    unfold readInteger at hp
    split at hp
    · obtain ⟨q, hq, rfl⟩ := Option.map_eq_some_iff.mp hp
      rw [List.cons_append, hnatural hq]
    · exact hnatural hp
  have hfraction : ∀ u : List Char, (readFraction u).1 ++ (readFraction u).2 = u := by
    intro u
    rcases u with - | ⟨c, u⟩
    · rfl
    · rw [readFraction]
      split_ifs with hc
      · rw [List.cons_append, takeWhile_append_dropWhile, hc.1]
      · rfl
  have hsign : ∀ u : List Char, (readSign u).1 ++ (readSign u).2 = u := by
    intro u
    rcases u with - | ⟨c, u⟩
    · rfl
    · rw [readSign]
      split_ifs <;> rfl
  have hexponent : ∀ u : List Char, (readExponent u).1 ++ (readExponent u).2 = u := by
    intro u
    rcases u with - | ⟨c, u⟩
    · rfl
    · rw [readExponent]
      split_ifs
      · rw [List.cons_append, List.append_assoc, takeWhile_append_dropWhile, hsign]
      · rfl
  obtain ⟨i, hi, rfl⟩ := Option.map_eq_some_iff.mp h
  dsimp only
  rw [List.append_assoc, hexponent, hfraction, hinteger hi]

/-- A float literal is a number with decimals, and nothing more. -/
theorem readNumber_of_isFloatLiteral {w : List Char} (h : isFloatLiteral w = true) :
    ∃ n, readNumber w = some n ∧ n.decimals ≠ [] ∧ n.rest = [] ∧ n.integer ++ n.decimals = w := by
  rw [isFloatLiteral] at h
  split at h
  · rename_i n hn
    rw [Bool.and_eq_true, bne_iff_ne, beq_iff_eq] at h
    refine ⟨n, hn, h.1, h.2, ?_⟩
    have hconcat := readNumber_concat hn
    rwa [h.2, List.append_nil] at hconcat
  · cases h

/-! ### Integers -/

/-- The digits of a positive number start with no zero. -/
theorem head_toDigits {n : Nat} (h : 0 < n) : ∃ c ds, Nat.toDigits 10 n = c :: ds ∧ c ≠ '0' := by
  induction n using Nat.strongRecOn with
  | ind n ih =>
    by_cases hn : n < 10
    · refine ⟨n.digitChar, [], Nat.toDigits_of_lt_base hn, ?_⟩
      have hdigit : ∀ m < 10, 0 < m → Nat.digitChar m ≠ '0' := by decide
      exact hdigit n hn h
    · obtain ⟨c, ds, hds, hc⟩ := ih (n / 10) (by omega) (by omega)
      refine ⟨c, ds ++ [(n % 10).digitChar], ?_, hc⟩
      rw [Nat.toDigits_of_base_le (by omega) (by omega), hds]
      rfl

theorem readNatural_toDigits (n : Nat) : readNatural (Nat.toDigits 10 n) = some (Nat.toDigits 10 n, []) := by
  rcases Nat.eq_zero_or_pos n with rfl | hn
  · rfl
  · obtain ⟨c, ds, hds, hc⟩ := head_toDigits hn
    have hdigits : ∀ d ∈ c :: ds, d.isDigit = true := fun d hd =>
      Nat.isDigit_of_mem_toDigits (by omega) (by omega) (hds ▸ hd)
    have htail : ∀ d ∈ ds, d.isDigit = true := fun d hd => hdigits d (List.mem_cons_of_mem c hd)
    rw [hds, readNatural, if_neg hc, if_pos (hdigits c List.mem_cons_self),
      List.takeWhile_eq_self_iff.mpr htail, List.dropWhile_eq_nil_iff.mpr htail]

/-- The text of an integer is its digits, behind a sign if it is negative. -/
theorem toString_toList_cases (i : Int) :
    (∃ n : Nat, i = n ∧ (toString i).toList = Nat.toDigits 10 n) ∨
      (∃ n : Nat, i = -(n : Int) ∧ (toString i).toList = '-' :: Nat.toDigits 10 n) := by
  cases i with
  | ofNat n =>
    refine Or.inl ⟨n, rfl, ?_⟩
    change (Nat.repr n).toList = _
    rw [Nat.repr, String.toList_ofList]
  | negSucc n =>
    refine Or.inr ⟨n + 1, rfl, ?_⟩
    change ("-" ++ Nat.repr (n + 1)).toList = _
    rw [String.toList_append, Nat.repr, String.toList_ofList, String.toList_ofList]
    exact List.singleton_append

/-- **An integer is read back** from its text. -/
theorem readNumber_toString (i : Int) :
    readNumber (toString i).toList = some ⟨(toString i).toList, [], []⟩ ∧ intOf (toString i).toList = i := by
  have hnumber : ∀ u : List Char, readInteger u = some (u, []) → readNumber u = some ⟨u, [], []⟩ := by
    intro u hu
    rw [readNumber, hu]
    rfl
  -- the digits of a number begin with no sign
  have hhead : ∀ n : Nat, ∃ c ds, Nat.toDigits 10 n = c :: ds ∧ c ≠ '-' := by
    intro n
    rcases Nat.eq_zero_or_pos n with rfl | hn
    · exact ⟨'0', [], rfl, by decide⟩
    · obtain ⟨c, ds, hds, -⟩ := head_toDigits hn
      refine ⟨c, ds, hds, ?_⟩
      rintro rfl
      have hdigit : ('-' : Char).isDigit = true :=
        Nat.isDigit_of_mem_toDigits (by omega) (by omega) (hds ▸ List.mem_cons_self)
      exact absurd hdigit (by decide)
  rcases toString_toList_cases i with ⟨n, rfl, htext⟩ | ⟨n, rfl, htext⟩
  · obtain ⟨c, ds, hds, hc⟩ := hhead n
    have hinteger : readInteger (c :: ds) = readNatural (c :: ds) := by
      rw [readInteger]
      rintro v ⟨⟩
      exact hc rfl
    have hint : intOf (c :: ds) = (Nat.ofDigitChars 10 (c :: ds) 0 : Int) := by
      rw [intOf]
      rintro v ⟨⟩
      exact hc rfl
    rw [htext]
    refine ⟨hnumber _ ?_, ?_⟩
    · rw [hds, hinteger, ← hds, readNatural_toDigits]
    · rw [hds, hint, ← hds, Nat.ofDigitChars_ten_toDigits]
  · rw [htext]
    refine ⟨hnumber _ ?_, ?_⟩
    · rw [readInteger, readNatural_toDigits]
      rfl
    · rw [intOf, Nat.ofDigitChars_ten_toDigits]

end

/-! ### Strings are read back -/

/-- The piece that a written letter is read as. -/
def pieceOf (c : Char) : Piece :=
  if c.toNat < 32 ∧ c ≠ '\n' ∧ c ≠ '\r' ∧ c ≠ '\t' ∧ c.toNat ≠ 8 ∧ c.toNat ≠ 12 then .unit c.toNat else .letter c

theorem hexUnit_escapeUnit : ∀ n < 32,
    hexUnit (hexDigit (n / 4096)) (hexDigit (n / 256)) (hexDigit (n / 16)) (hexDigit n) = some n := by
  decide +kernel

theorem eq_ofNat {c : Char} {n : Nat} (h : c.toNat = n) : c = Char.ofNat n := by
  rw [← h, Char.ofNat_toNat]

theorem readPieces_letter {c : Char} {t : List Char} (hquote : c ≠ '"') (hslash : c ≠ '\\')
    (hcontrol : ¬ c.toNat < 32) :
    readPieces (c :: t) = (readPieces t).map fun p => (.letter c :: p.1, p.2) := by
  rw [readPieces.eq_def]
  split
  · rename_i heq
    cases heq
  · rename_i heq
    exact absurd (List.cons.inj heq).1 hquote
  · rename_i heq
    exact absurd (List.cons.inj heq).1 hslash
  · rename_i heq
    exact absurd (List.cons.inj heq).1 hslash
  · rename_i d u _ _ _ heq
    obtain ⟨rfl, rfl⟩ := List.cons.inj heq
    rw [if_neg (by simp [hcontrol, hslash])]
    rcases readPieces t with - | p <;> rfl

/-- A short escape is read as its letter. -/
theorem readPieces_short {e c : Char} {t : List Char} (he : e ≠ 'u') (h : shortEscape e = some c) :
    readPieces ('\\' :: e :: t) = (readPieces t).map fun p => (.letter c :: p.1, p.2) := by
  rw [readPieces.eq_def]
  split
  · rename_i heq
    cases heq
  · rename_i heq
    exact absurd (List.cons.inj heq).1 (by decide)
  · rename_i heq
    exact absurd (List.cons.inj (List.cons.inj heq).2).1 he
  · rename_i d u _ heq
    obtain ⟨rfl, rfl⟩ := List.cons.inj (List.cons.inj heq).2
    rw [h]
    rcases readPieces t with - | p <;> rfl
  · rename_i hnone heq
    obtain ⟨rfl, rfl⟩ := List.cons.inj heq
    exact absurd rfl (hnone _ _ rfl)

/-- A written letter is read as its piece. -/
theorem readPieces_plainChar (c : Char) (t : List Char) :
    readPieces (plainChar c ++ t) = (readPieces t).map fun p => (pieceOf c :: p.1, p.2) := by
  by_cases hhigh : 127 ≤ c.toNat
  · have hletter : pieceOf c = .letter c := if_neg (by omega)
    rw [plainChar, if_pos hhigh, hletter]
    refine readPieces_letter ?_ ?_ (by omega)
    · rintro rfl
      exact absurd hhigh (by decide)
    · rintro rfl
      exact absurd hhigh (by decide)
  rw [plainChar, if_neg hhigh, escapeChar]
  -- the short escapes, in the order of the writer
  by_cases hquote : c = '"'
  · subst hquote
    exact readPieces_short (by decide) rfl
  by_cases hslash : c = '\\'
  · subst hslash
    exact readPieces_short (by decide) rfl
  by_cases hn : c = '\n'
  · subst hn
    exact readPieces_short (by decide) rfl
  by_cases hr : c = '\r'
  · subst hr
    exact readPieces_short (by decide) rfl
  by_cases ht : c = '\t'
  · subst ht
    exact readPieces_short (by decide) rfl
  by_cases hb : c.toNat = 8
  · obtain rfl := eq_ofNat hb
    exact readPieces_short (by decide) rfl
  by_cases hf : c.toNat = 12
  · obtain rfl := eq_ofNat hf
    exact readPieces_short (by decide) rfl
  rw [if_neg hquote, if_neg hslash, if_neg hn, if_neg hr, if_neg ht, if_neg hb, if_neg hf]
  by_cases hprint : 32 ≤ c.toNat ∧ c.toNat ≤ 126
  · have hletter : pieceOf c = .letter c := if_neg (by omega)
    rw [if_pos hprint, hletter]
    exact readPieces_letter hquote hslash (by omega)
  · have hunit : pieceOf c = .unit c.toNat := if_pos ⟨by omega, hn, hr, ht, hb, hf⟩
    rw [if_neg hprint, if_pos (by omega), hunit, escapeUnit]
    show readPieces ('\\' :: 'u' :: _ :: _ :: _ :: _ :: t) = _
    rw [readPieces, hexUnit_escapeUnit c.toNat (by omega)]
    rcases readPieces t with - | p <;> rfl

theorem joinPieces_pieceOf (c : Char) (ps : List Piece) :
    joinPieces (pieceOf c :: ps) = (joinPieces ps).map (c :: ·) := by
  rw [pieceOf]
  split_ifs with h
  · rw [joinPieces.eq_def]
    dsimp only
    rw [if_neg (by omega), if_neg (by omega), Char.ofNat_toNat]
  · rfl

/-- **A string is read back** from its text. -/
theorem readString_plain (s t : List Char) : readString (s.flatMap plainChar ++ '"' :: t) = some (s, t) := by
  have hpieces : readPieces (s.flatMap plainChar ++ '"' :: t) = some (s.map pieceOf, t) := by
    induction s with
    | nil => rfl
    | cons c s ih =>
      rw [List.flatMap_cons, List.append_assoc, readPieces_plainChar, ih]
      rfl
  have hjoin : joinPieces (s.map pieceOf) = some s := by
    clear hpieces
    induction s with
    | nil => rfl
    | cons c s ih =>
      rw [List.map_cons, joinPieces_pieceOf, ih]
      rfl
  rw [readString, hpieces]
  show (do let u ← joinPieces (s.map pieceOf); return (u, t)) = _
  rw [hjoin]
  rfl

/-! ### Values are read back -/

section

variable {format : NumberFormat} {c : Char} {t rest : List Char}

theorem skipBlanks_cons (h : isBlank c = false) : skipBlanks (c :: t) = c :: t :=
  List.dropWhile_cons_of_neg (by simp [h])

theorem skipBlanks_space : skipBlanks (' ' :: t) = skipBlanks t := List.dropWhile_cons_of_pos rfl

/-- The letter with which a value starts. -/
structure Opens (c : Char) : Prop where
  blank : isBlank c = false
  bracket : c ≠ ']'

/-- A number starts with a sign or a digit. -/
theorem head_of_readNumber {n : NumberText} (h : readNumber t = some n) :
    ∃ c u, t = c :: u ∧ (c = '-' ∨ c.isDigit = true) := by
  obtain ⟨i, hi, -⟩ := Option.map_eq_some_iff.mp h
  rcases t with - | ⟨c, u⟩
  · cases hi
  · refine ⟨c, u, rfl, ?_⟩
    by_cases hc : c = '-'
    · exact Or.inl hc
    · have hplain : readInteger (c :: u) = readNatural (c :: u) := by
        rw [readInteger]
        rintro v ⟨⟩
        exact hc rfl
      rw [hplain, readNatural] at hi
      split_ifs at hi with hzero hdigit
      · rw [hzero]
        exact Or.inr (by decide)
      · exact Or.inr hdigit

/-- A sign or a digit opens no other kind of value. -/
theorem number_head (h : c = '-' ∨ c.isDigit = true) : Opens c ∧ c ≠ '"' ∧ c ≠ '[' ∧ c ≠ '\x7b' := by
  have hother : ∀ d : Char, d ≠ '-' → d.isDigit = false → c ≠ d := by
    rintro d hminus hdigit rfl
    rcases h with h | h
    · exact hminus h
    · rw [hdigit] at h
      cases h
  refine ⟨⟨?_, hother _ (by decide) (by decide)⟩, hother _ (by decide) (by decide),
    hother _ (by decide) (by decide), hother _ (by decide) (by decide)⟩
  simp only [isBlank, Bool.or_eq_false_iff, beq_eq_false_iff_ne]
  exact ⟨⟨⟨hother _ (by decide) (by decide), hother _ (by decide) (by decide)⟩,
    hother _ (by decide) (by decide)⟩, hother _ (by decide) (by decide)⟩

/-- A written value starts with such a letter. -/
theorem dumpsSpaced_opens {j : Json} (h : Readable format j) : ∃ c u, dumpsSpaced j = c :: u ∧ Opens c := by
  have hnumber : ∀ {u : List Char} {n : NumberText}, readNumber u = some n → ∃ c v, u = c :: v ∧ Opens c := by
    intro u n hn
    obtain ⟨c, v, hu, hc⟩ := head_of_readNumber hn
    exact ⟨c, v, hu, (number_head hc).1⟩
  cases j with
  | null => exact ⟨'n', _, rfl, by decide, by decide⟩
  | bool b =>
    cases b with
    | true => exact ⟨'t', _, rfl, by decide, by decide⟩
    | false => exact ⟨'f', _, rfl, by decide, by decide⟩
  | int i => exact hnumber (readNumber_toString i).1
  | num w =>
    rw [Readable] at h
    obtain ⟨n, hn, -⟩ := readNumber_of_isFloatLiteral (format.literal w h)
    exact hnumber hn
  | str s => exact ⟨'"', _, rfl, by decide, by decide⟩
  | arr items => exact ⟨'[', _, rfl, by decide, by decide⟩
  | obj members => exact ⟨'\x7b', _, rfl, by decide, by decide⟩

theorem dumpsSpacedItems_singleton (j : Json) :
    List.intercalate [',', ' '] (dumpsSpacedItems [j]) = dumpsSpaced j := by
  rw [dumpsSpacedItems, dumpsSpacedItems, List.intercalate_singleton]

theorem dumpsSpacedItems_cons_cons (j j' : Json) (js : List Json) :
    List.intercalate [',', ' '] (dumpsSpacedItems (j :: j' :: js)) ++ rest =
      dumpsSpaced j ++ ',' :: ' ' :: (List.intercalate [',', ' '] (dumpsSpacedItems (j' :: js)) ++ rest) := by
  rw [dumpsSpacedItems, dumpsSpacedItems, List.intercalate_cons_cons, List.append_assoc, List.append_assoc]
  rfl

theorem dumpsSpacedMembers_singleton (k : List Char) (j : Json) :
    List.intercalate [',', ' '] (dumpsSpacedMembers [(k, j)]) ++ rest =
      '"' :: (k.flatMap plainChar ++ '"' :: ':' :: ' ' :: (dumpsSpaced j ++ rest)) := by
  rw [dumpsSpacedMembers, dumpsSpacedMembers, List.intercalate_singleton, plainQuote, List.cons_append,
    List.cons_append, List.append_assoc, List.append_assoc]
  rfl

theorem dumpsSpacedMembers_cons_cons (k : List Char) (j : Json) (m : List Char × Json)
    (ms : List (List Char × Json)) :
    List.intercalate [',', ' '] (dumpsSpacedMembers ((k, j) :: m :: ms)) ++ rest =
      '"' :: (k.flatMap plainChar ++ '"' :: ':' :: ' ' :: (dumpsSpaced j ++
        ',' :: ' ' :: (List.intercalate [',', ' '] (dumpsSpacedMembers (m :: ms)) ++ rest))) := by
  obtain ⟨k', j'⟩ := m
  rw [dumpsSpacedMembers, dumpsSpacedMembers, List.intercalate_cons_cons, plainQuote, List.cons_append,
    List.cons_append, List.cons_append, List.cons_append, List.append_assoc, List.append_assoc, List.append_assoc,
    List.append_assoc]
  rfl

/-- Items start with the letter of the first. -/
theorem dumpsSpacedItems_opens {j : Json} (h : Readable format j) (js : List Json) :
    ∃ c u, List.intercalate [',', ' '] (dumpsSpacedItems (j :: js)) = c :: u ∧ Opens c := by
  obtain ⟨c, u, hu, hc⟩ := dumpsSpaced_opens h
  cases js with
  | nil => exact ⟨c, u, (dumpsSpacedItems_singleton j).trans hu, hc⟩
  | cons j' js =>
    rw [dumpsSpacedItems, dumpsSpacedItems, List.intercalate_cons_cons, hu]
    exact ⟨c, _, rfl, hc⟩

/-- Members start with the quote of the first key. -/
theorem dumpsSpacedMembers_head (k : List Char) (j : Json) (ms : List (List Char × Json)) :
    ∃ u, List.intercalate [',', ' '] (dumpsSpacedMembers ((k, j) :: ms)) = '"' :: u := by
  rcases ms with - | ⟨⟨k', j'⟩, ms⟩
  · exact ⟨_, (List.append_nil _).symm.trans (dumpsSpacedMembers_singleton k j)⟩
  · exact ⟨_, (List.append_nil _).symm.trans (dumpsSpacedMembers_cons_cons k j (k', j') ms)⟩

/-- The last item of an array. -/
theorem readItems_last {fuel : Nat} {j : Json} (hvalue : readValue format fuel t = some (j, ']' :: rest)) :
    readItems format (fuel + 1) t = some ([j], rest) := by
  rw [readItems, hvalue]
  dsimp only [bind, Option.bind]
  rw [skipBlanks_cons rfl]
  rfl

/-- An item and the items after it. -/
theorem readItems_comma {fuel : Nat} {j : Json} {js : List Json} {u : List Char}
    (hvalue : readValue format fuel t = some (j, ',' :: ' ' :: u)) (hblank : skipBlanks u = u)
    (hitems : readItems format fuel u = some (js, rest)) :
    readItems format (fuel + 1) t = some (j :: js, rest) := by
  rw [readItems, hvalue]
  show (match skipBlanks (',' :: ' ' :: u) with
    | ',' :: t => (readItems format fuel (skipBlanks t)).bind fun vs => some (j :: vs.1, vs.2)
    | ']' :: t => some ([j], t)
    | _ => none) = _
  rw [skipBlanks_cons rfl]
  show (readItems format fuel (skipBlanks (' ' :: u))).bind _ = _
  rw [skipBlanks_space, hblank, hitems]
  rfl

/-- The key of a member and the blank before its value. -/
theorem readMembers_key {fuel : Nat} {k u : List Char} {j : Json}
    (hblank : skipBlanks t = t) (hvalue : readValue format fuel t = some (j, u)) :
    readMembers format (fuel + 1) ('"' :: (k.flatMap plainChar ++ '"' :: ':' :: ' ' :: t)) =
      (match skipBlanks u with
        | ',' :: t => (readMembers format fuel (skipBlanks t)).bind fun ms => some ((k, j) :: ms.1, ms.2)
        | '\x7d' :: t => some ([(k, j)], t)
        | _ => none) := by
  rw [readMembers, if_neg (by simp), readString_plain]
  show (match skipBlanks (':' :: ' ' :: t) with
    | ':' :: t => (readValue format fuel (skipBlanks t)).bind fun v =>
        match skipBlanks v.2 with
        | ',' :: t => (readMembers format fuel (skipBlanks t)).bind fun ms => some ((k, v.1) :: ms.1, ms.2)
        | '\x7d' :: t => some ([(k, v.1)], t)
        | _ => none
    | _ => none) = _
  rw [skipBlanks_cons rfl]
  show (readValue format fuel (skipBlanks (' ' :: t))).bind _ = _
  rw [skipBlanks_space, hblank, hvalue]
  rfl

theorem nodes_pos (j : Json) : 0 < nodes j := by
  cases j <;> simp [nodes]

theorem skipBlanks_dumpsSpaced {j : Json} (h : Readable format j) :
    skipBlanks (dumpsSpaced j ++ rest) = dumpsSpaced j ++ rest := by
  obtain ⟨c, u, hu, hc⟩ := dumpsSpaced_opens h
  rw [hu]
  exact skipBlanks_cons hc.blank

/-- Distinct keys are all kept. -/
theorem keepLast_of_nodup {members : List (List Char × Json)} (h : (members.map Prod.fst).Nodup) :
    keepLast members = members := by
  have hfrom : ∀ (rest kept : List (List Char × Json)), ((kept ++ rest).map Prod.fst).Nodup →
      rest.foldl (fun kept m => KeyedList.upsert Prod.fst m kept) kept = kept ++ rest := by
    intro rest
    induction rest with
    | nil => simp
    | cons m rest ih =>
      intro kept hnodup
      have hnew : m.1 ∉ kept.map Prod.fst := by
        rw [List.map_append, List.map_cons] at hnodup
        intro hmem
        exact (List.nodup_append.mp hnodup).2.2 m.1 hmem m.1 List.mem_cons_self rfl
      rw [List.foldl_cons, KeyedList.upsert_of_not_mem hnew, ih _ (by simpa using hnodup), List.append_assoc]
      rfl
  exact hfrom members [] h

/-- A text that starts with another letter is read as a scalar. -/
theorem readValue_scalar {fuel : Nat} (hquote : c ≠ '"') (hbracket : c ≠ '[') (hbrace : c ≠ '\x7b') :
    readValue format (fuel + 1) (c :: t) = readScalar format (c :: t) := by
  rw [readValue, if_neg hquote, if_neg hbracket, if_neg hbrace]

theorem readScalar_number {w : List Char} {n : NumberText} (hn : readNumber w = some n) (hend : n.rest = [])
    (hrest : Stops rest) :
    readScalar format (w ++ rest) =
      (numberValue format ⟨n.integer, n.decimals, rest⟩).map fun v => (v, rest) := by
  rw [readScalar, readNumber_append hrest hn hend]

/-- A number is read back as a value. -/
theorem readValue_number {fuel : Nat} {w : List Char} {n : NumberText} {j : Json} (hn : readNumber w = some n)
    (hend : n.rest = []) (hrest : Stops rest)
    (hvalue : numberValue format ⟨n.integer, n.decimals, rest⟩ = some j) :
    readValue format (fuel + 1) (w ++ rest) = some (j, rest) := by
  obtain ⟨c, u, rfl, hc⟩ := head_of_readNumber hn
  obtain ⟨-, hquote, hbracket, hbrace⟩ := number_head hc
  rw [List.cons_append, readValue_scalar hquote hbracket hbrace, ← List.cons_append,
    readScalar_number hn hend hrest, hvalue]
  rfl

mutual

/-- **A written value is read back**, in front of what continues no number. -/
theorem readValue_dumpsSpaced (j : Json) {fuel : Nat} {rest : List Char} (hj : Readable format j)
    (hfuel : 2 * nodes j ≤ fuel) (hrest : Stops rest) :
    readValue format fuel (dumpsSpaced j ++ rest) = some (j, rest) := by
  -- the fuel is spent at each value and each member
  match fuel, j with
  | 0, j => cases j <;> simp [nodes] at hfuel
  | fuel + 1, .null => rfl
  | fuel + 1, .bool true => rfl
  | fuel + 1, .bool false => rfl
  | fuel + 1, .int i =>
    rw [Readable] at hj
    obtain ⟨hn, hint⟩ := readNumber_toString i
    refine readValue_number hn rfl hrest ?_
    rw [numberValue]
    dsimp only
    rw [if_neg (by simp), hint, if_pos hj]
  | fuel + 1, .num w =>
    rw [Readable] at hj
    obtain ⟨n, hn, hdecimals, hend, hconcat⟩ := readNumber_of_isFloatLiteral (format.literal w hj)
    refine readValue_number hn hend hrest ?_
    rw [numberValue]
    dsimp only
    rw [if_pos hdecimals, hconcat, format.reread_eq w hj]
  | fuel + 1, .str s =>
    rw [dumpsSpaced, plainQuote, List.cons_append, List.append_assoc, readValue, if_pos rfl, List.singleton_append,
      readString_plain]
    rfl
  | fuel + 1, .arr items =>
    rw [Readable] at hj
    rw [nodes] at hfuel
    rw [dumpsSpaced, List.cons_append, List.append_assoc, List.singleton_append, readValue, if_neg (by decide),
      if_pos rfl]
    match items with
    | [] => rfl
    | j :: js =>
      obtain ⟨c, u, hu, hc⟩ := dumpsSpacedItems_opens hj.1 js
      rw [hu, List.cons_append, skipBlanks_cons hc.blank, if_neg (by simpa using hc.bracket), ← List.cons_append,
        ← hu, readItems_dumpsSpaced (j :: js) (List.cons_ne_nil _ _) hj (by omega)]
      rfl
  | fuel + 1, .obj members =>
    rw [Readable] at hj
    rw [nodes] at hfuel
    rw [dumpsSpaced, List.cons_append, List.append_assoc, List.singleton_append, readValue, if_neg (by decide),
      if_neg (by decide), if_pos rfl]
    match members with
    | [] => rfl
    | (k, j) :: ms =>
      obtain ⟨u, hu⟩ := dumpsSpacedMembers_head k j ms
      rw [hu, List.cons_append, skipBlanks_cons rfl, if_neg (by simp), ← List.cons_append, ← hu,
        readMembers_dumpsSpaced ((k, j) :: ms) (List.cons_ne_nil _ _) hj.2 (by omega), Option.map_some,
        keepLast_of_nodup hj.1]

/-- Written items are read back up to the end of their array. -/
theorem readItems_dumpsSpaced (items : List Json) {fuel : Nat} {rest : List Char} (hne : items ≠ [])
    (hitems : ReadableItems format items) (hfuel : 2 * nodesItems items + 1 ≤ fuel) :
    readItems format fuel (List.intercalate [',', ' '] (dumpsSpacedItems items) ++ ']' :: rest) =
      some (items, rest) := by
  match fuel, items with
  | 0, _ => exact absurd hfuel (by omega)
  | _, [] => exact absurd rfl hne
  | fuel + 1, [j] =>
    rw [ReadableItems] at hitems
    rw [nodesItems, nodesItems] at hfuel
    rw [dumpsSpacedItems_singleton]
    exact readItems_last (readValue_dumpsSpaced j hitems.1 (by omega) stops_bracket)
  | fuel + 1, j :: j' :: js =>
    rw [ReadableItems] at hitems
    rw [nodesItems] at hfuel
    have hpos : 0 < nodes j := nodes_pos j
    obtain ⟨c, u, hu, hc⟩ := dumpsSpacedItems_opens hitems.2.1 js
    rw [dumpsSpacedItems_cons_cons]
    refine readItems_comma (readValue_dumpsSpaced j hitems.1 (by omega) stops_comma) ?_ ?_
    · rw [hu]
      exact skipBlanks_cons hc.blank
    · exact readItems_dumpsSpaced (j' :: js) (List.cons_ne_nil _ _) hitems.2 (by omega)

/-- Written members are read back up to the end of their object. -/
theorem readMembers_dumpsSpaced (members : List (List Char × Json)) {fuel : Nat} {rest : List Char}
    (hne : members ≠ []) (hmembers : ReadableMembers format members)
    (hfuel : 2 * nodesMembers members + 1 ≤ fuel) :
    readMembers format fuel (List.intercalate [',', ' '] (dumpsSpacedMembers members) ++ '\x7d' :: rest) =
      some (members, rest) := by
  match fuel, members with
  | 0, _ => exact absurd hfuel (by omega)
  | _, [] => exact absurd rfl hne
  | fuel + 1, [(k, j)] =>
    rw [ReadableMembers] at hmembers
    rw [nodesMembers, nodesMembers] at hfuel
    rw [dumpsSpacedMembers_singleton, readMembers_key (skipBlanks_dumpsSpaced hmembers.1)
      (readValue_dumpsSpaced j hmembers.1 (by omega) stops_brace), skipBlanks_cons rfl]
    rfl
  | fuel + 1, (k, j) :: (k', j') :: ms =>
    rw [ReadableMembers] at hmembers
    rw [nodesMembers] at hfuel
    have hpos : 0 < nodes j := nodes_pos j
    have htail : readMembers format fuel (List.intercalate [',', ' '] (dumpsSpacedMembers ((k', j') :: ms)) ++
        '\x7d' :: rest) = some ((k', j') :: ms, rest) :=
      readMembers_dumpsSpaced ((k', j') :: ms) (List.cons_ne_nil _ _) hmembers.2 (by omega)
    obtain ⟨u, hu⟩ := dumpsSpacedMembers_head k' j' ms
    rw [dumpsSpacedMembers_cons_cons, readMembers_key (skipBlanks_dumpsSpaced hmembers.1)
      (readValue_dumpsSpaced j hmembers.1 (by omega) stops_comma), skipBlanks_cons rfl]
    show (readMembers format fuel (skipBlanks (' ' :: (_ ++ '\x7d' :: rest)))).bind _ = _
    rw [skipBlanks_space, hu, List.cons_append, skipBlanks_cons rfl, ← List.cons_append, ← hu, htail]
    rfl

end

theorem length_toString_pos (i : Int) : 0 < (toString i).toList.length := by
  obtain ⟨c, u, hu, -⟩ := head_of_readNumber (readNumber_toString i).1
  rw [hu]
  exact Nat.succ_pos _

theorem length_written_pos {w : List Char} (h : format.IsWritten w) : 0 < w.length := by
  obtain ⟨n, hn, -⟩ := readNumber_of_isFloatLiteral (format.literal w h)
  obtain ⟨c, u, hu, -⟩ := head_of_readNumber hn
  rw [hu]
  exact Nat.succ_pos _

/-- Texts are no longer than what is joined of them. -/
theorem sum_length_le_intercalate (sep : List Char) (texts : List (List Char)) :
    (texts.map List.length).sum ≤ (List.intercalate sep texts).length := by
  induction texts with
  | nil => exact Nat.zero_le _
  | cons t texts ih =>
    cases texts with
    | nil => simp
    | cons u texts =>
      rw [List.intercalate_cons_cons, List.map_cons, List.sum_cons, List.length_append, List.length_append]
      omega

/-- A way of writing values: none is written as nothing, and a container is longer than its values. -/
structure Nests (format : NumberFormat) (write : Json → List Char) : Prop where
  pos : ∀ j, Readable format j → 0 < (write j).length
  items : ∀ items, (items.map fun j => (write j).length).sum < (write (arr items)).length
  members : ∀ members : List (List Char × Json),
    (members.map fun m => (write m.2).length).sum < (write (obj members)).length

section

variable {write : Json → List Char}

mutual

/-- A text has no fewer letters than values. -/
theorem Nests.nodes_le_length (hw : Nests format write) (j : Json) (hj : Readable format j) :
    nodes j ≤ (write j).length := by
  match j with
  | .null => exact hw.pos _ hj
  | .bool _ => exact hw.pos _ hj
  | .int _ => exact hw.pos _ hj
  | .num _ => exact hw.pos _ hj
  | .str _ => exact hw.pos _ hj
  | .arr items =>
    rw [Readable] at hj
    exact Nat.lt_of_le_of_lt (hw.nodesItems_le_length items hj) (hw.items items)
  | .obj members =>
    rw [Readable] at hj
    exact Nat.lt_of_le_of_lt (hw.nodesMembers_le_length members hj.2) (hw.members members)

theorem Nests.nodesItems_le_length (hw : Nests format write) (items : List Json)
    (h : ReadableItems format items) : nodesItems items ≤ (items.map fun j => (write j).length).sum := by
  match items with
  | [] => exact le_refl 0
  | j :: js =>
    rw [ReadableItems] at h
    rw [nodesItems, List.map_cons, List.sum_cons]
    exact Nat.add_le_add (hw.nodes_le_length j h.1) (hw.nodesItems_le_length js h.2)

theorem Nests.nodesMembers_le_length (hw : Nests format write) (members : List (List Char × Json))
    (h : ReadableMembers format members) :
    nodesMembers members ≤ (members.map fun m => (write m.2).length).sum := by
  match members with
  | [] => exact le_refl 0
  | (k, j) :: ms =>
    rw [ReadableMembers] at h
    rw [nodesMembers, List.map_cons, List.sum_cons]
    exact Nat.add_le_add (hw.nodes_le_length j h.1) (hw.nodesMembers_le_length ms h.2)

end

end

/-- Joined texts between two letters are longer than texts that each is no shorter than. -/
theorem sum_length_lt_joined {α : Type*} {sep : List Char} {text : α → List Char} {length : α → Nat}
    (h : ∀ a, length a ≤ (text a).length) (first last : Char) (as : List α) :
    (as.map length).sum < (first :: (List.intercalate sep (as.map text) ++ [last])).length := by
  have hsum : (as.map length).sum ≤ ((as.map text).map List.length).sum := by
    rw [List.map_map]
    exact List.sum_le_sum fun a _ => h a
  have hjoin := sum_length_le_intercalate sep (as.map text)
  rw [List.length_cons, List.length_append, List.length_singleton]
  omega

theorem dumpsSpacedItems_eq_map (items : List Json) : dumpsSpacedItems items = items.map dumpsSpaced := by
  induction items with
  | nil => rfl
  | cons j js ih => rw [dumpsSpacedItems, ih, List.map_cons]

theorem dumpsSpacedMembers_eq_map (members : List (List Char × Json)) :
    dumpsSpacedMembers members = members.map fun m => plainQuote m.1 ++ ':' :: ' ' :: dumpsSpaced m.2 := by
  induction members with
  | nil => rfl
  | cons m ms ih =>
    obtain ⟨k, j⟩ := m
    rw [dumpsSpacedMembers, ih, List.map_cons]

theorem nests_dumpsSpaced : Nests format dumpsSpaced where
  pos j hj := by
    obtain ⟨c, u, hu, -⟩ := dumpsSpaced_opens hj
    rw [hu]
    exact Nat.succ_pos _
  items items := by
    rw [dumpsSpaced, dumpsSpacedItems_eq_map]
    exact sum_length_lt_joined (fun _ => le_refl _) _ _ items
  members members := by
    rw [dumpsSpaced, dumpsSpacedMembers_eq_map]
    refine sum_length_lt_joined (fun m => ?_) _ _ members
    rw [List.length_append, List.length_cons, List.length_cons]
    omega

/-- **What is written with blanks is read back.** -/
theorem loads_dumpsSpaced {j : Json} (h : Readable format j) : loads format (dumpsSpaced j) = some j := by
  have hnodes := nests_dumpsSpaced.nodes_le_length j h
  have hblank : skipBlanks (dumpsSpaced j) = dumpsSpaced j := by
    have hnil : skipBlanks (dumpsSpaced j ++ []) = dumpsSpaced j ++ [] := skipBlanks_dumpsSpaced h
    rwa [List.append_nil] at hnil
  have hvalue : readValue format (2 * (dumpsSpaced j).length) (dumpsSpaced j ++ []) = some (j, []) :=
    readValue_dumpsSpaced j h (by omega) stops_nil
  rw [List.append_nil] at hvalue
  rw [loads, hblank, hvalue]
  rfl

end

end Json

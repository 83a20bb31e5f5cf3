/-
SkillsSdk/Lib/Regex.lean

Regular expressions over an arbitrary alphabet, as a small library.

A pattern denotes a relation between *positions* of a subject.  A position
is what is left to read together with one bit, whether it is the start of the
subject: that bit is all that `^` needs, and a one-letter negative lookahead
needs only what is left.  Sequence is composition, alternation is union and
`*` is the reflexive transitive closure, so the algebra of patterns is the
algebra of relations.

    Rel r x y        the pattern `r` leads from position `x` to position `y`
    Searches r s     `r` matches somewhere in `s`
    FullMatch r s    `r` matches the whole of `s`

`accepts` decides `Rel` by backtracking with a continuation; `search` and
`fullmatch` are its two uses (`search_iff`, `fullmatch_iff`).

The last part is about a separator, a letter `z` that the body of a pattern
never consumes: a match then stays on one side of `z`
(`searches_append_cons`), and a pattern that needs a letter outside a set
matches nothing written in that set (`not_searches_of_needs`).
-/
import Mathlib.Logic.Relation
import Mathlib.Tactic.Common

namespace Rx

variable {α : Type*}

/-! ### Patterns and positions -/

/-- Patterns over the alphabet `α`; a letter class is a decidable predicate. -/
inductive Regex (α : Type*) where
  | eps
  | start
  | notNext (p : α → Bool)
  | cls (p : α → Bool)
  | seq (r s : Regex α)
  | alt (r s : Regex α)
  | many (r : Regex α)

/-- A position in a subject: is it the start, and what is left to read. -/
@[ext] structure Pos (α : Type*) where
  first : Bool
  rest : List α

namespace Regex

/-- `r+`. -/
def plus (r : Regex α) : Regex α := seq r (many r)

/-- `r?`. -/
def opt (r : Regex α) : Regex α := alt r eps

/-- The concatenation of a list of patterns. -/
def concat : List (Regex α) → Regex α
  | [] => eps
  | [r] => r
  | r :: rs => seq r (concat rs)

/-- The union of a list of patterns; the empty union never matches. -/
def union : List (Regex α) → Regex α
  | [] => cls fun _ => false
  | [r] => r
  | r :: rs => alt r (union rs)

end Regex

open Regex

/-! ### Meaning -/

/-- The relation between positions that a pattern denotes. -/
def Rel : Regex α → Pos α → Pos α → Prop
  | eps, x, y => y = x
  | start, x, y => y = x ∧ x.first = true
  | notNext p, x, y => y = x ∧ ∀ c t, x.rest = c :: t → p c = false
  | cls p, x, y => ∃ c t, x.rest = c :: t ∧ p c = true ∧ y = ⟨false, t⟩
  | seq r s, x, y => ∃ m, Rel r x m ∧ Rel s m y
  | alt r s, x, y => Rel r x y ∨ Rel s x y
  | many r, x, y => Relation.ReflTransGen (Rel r) x y

/-- The pattern matches somewhere in the subject. -/
def Searches (r : Regex α) (s : List α) : Prop :=
  (∃ y, Rel r ⟨true, s⟩ y) ∨ ∃ u c v y, s = u ++ c :: v ∧ Rel r ⟨false, v⟩ y

/-- The pattern matches the whole subject. -/
def FullMatch (r : Regex α) (s : List α) : Prop :=
  ∃ y, Rel r ⟨true, s⟩ y ∧ y.rest = []

/-- A step either stays where it is or moves strictly forward, past the start. -/
theorem Rel.advance {r : Regex α} {x y : Pos α} (h : Rel r x y) :
    y = x ∨ (y.first = false ∧ ∃ u, u ≠ [] ∧ x.rest = u ++ y.rest) := by
  induction r generalizing x y with
  | eps => exact Or.inl h
  | start => exact Or.inl h.1
  | notNext p => exact Or.inl h.1
  | cls p =>
    obtain ⟨c, t, hx, -, rfl⟩ := h
    exact Or.inr ⟨rfl, [c], by simp, hx⟩
  | seq r s ihr ihs =>
    obtain ⟨m, h₁, h₂⟩ := h
    rcases ihr h₁ with rfl | ⟨hf, u, hu, hx⟩
    · exact ihs h₂
    · rcases ihs h₂ with rfl | ⟨hf', u', hu', hx'⟩
      · exact Or.inr ⟨hf, u, hu, hx⟩
      · exact Or.inr ⟨hf', u ++ u', by simp [hu], by rw [hx, hx', List.append_assoc]⟩
  | alt r s ihr ihs =>
    rcases h with h | h
    · exact ihr h
    · exact ihs h
  -- an iteration that reads nothing stays where it is
  | many r ih =>
    induction h with
    | refl => exact Or.inl rfl
    | tail _ hstep ih' =>
      rcases ih hstep with rfl | ⟨hf, u, hu, hx⟩
      · exact ih'
      · rcases ih' with rfl | ⟨_, u', hu', hx'⟩
        · exact Or.inr ⟨hf, u, hu, hx⟩
        · exact Or.inr ⟨hf, u' ++ u, by simp [hu'], by rw [hx', hx, List.append_assoc]⟩

theorem Rel.eq_or_length_lt {r : Regex α} {x y : Pos α} (h : Rel r x y) :
    y = x ∨ y.rest.length < x.rest.length := by
  rcases h.advance with rfl | ⟨-, u, hu, hx⟩
  · exact Or.inl rfl
  · have : 0 < u.length := List.length_pos_iff.mpr hu
    exact Or.inr (by rw [hx, List.length_append]; omega)

/-! ### Deciding a match -/

/-- At most `n` productive rounds of `step`, then the continuation. -/
def manyRounds (step : Pos α → (Pos α → Bool) → Bool) :
    Nat → Pos α → (Pos α → Bool) → Bool
  | 0, x, k => k x
  | n + 1, x, k =>
      k x || step x fun y =>
        decide (y.rest.length < x.rest.length) && manyRounds step n y k

/-- Backtracking: some way of matching `r` from `x` satisfies the continuation. -/
def accepts : Regex α → Pos α → (Pos α → Bool) → Bool
  | eps, x, k => k x
  | start, x, k => x.first && k x
  | notNext p, x, k => (match x.rest with | [] => true | c :: _ => !p c) && k x
  | cls p, x, k => match x.rest with | [] => false | c :: t => p c && k ⟨false, t⟩
  | seq r s, x, k => accepts r x fun m => accepts s m k
  | alt r s, x, k => accepts r x k || accepts s x k
  | many r, x, k => manyRounds (accepts r) x.rest.length x k

/-- The first position from the current one on at which the pattern matches. -/
def searchFrom (r : Regex α) : List α → Bool
  | [] => accepts r ⟨false, []⟩ fun _ => true
  | c :: t => (accepts r ⟨false, c :: t⟩ fun _ => true) || searchFrom r t

/-- `re.search(...) is not None`. -/
def search (r : Regex α) (s : List α) : Bool :=
  (accepts r ⟨true, s⟩ fun _ => true) ||
    match s with
    | [] => false
    | _ :: t => searchFrom r t

/-- `re.fullmatch(...) is not None`. -/
def fullmatch (r : Regex α) (s : List α) : Bool :=
  accepts r ⟨true, s⟩ fun y => y.rest.isEmpty

/-- The loop of `accepts` is the closure, once the rounds cover the subject. -/
theorem manyRounds_iff {R : Pos α → Pos α → Prop}
    {step : Pos α → (Pos α → Bool) → Bool}
    (hstep : ∀ x k, step x k = true ↔ ∃ y, R x y ∧ k y = true)
    (hadv : ∀ {x y}, R x y → y = x ∨ y.rest.length < x.rest.length)
    (n : Nat) (x : Pos α) (k : Pos α → Bool) (hn : x.rest.length ≤ n) :
    manyRounds step n x k = true ↔
      ∃ y, Relation.ReflTransGen R x y ∧ k y = true := by
  induction n generalizing x with
  | zero =>
    constructor
    · intro h
      exact ⟨x, .refl, h⟩
    · rintro ⟨y, hxy, hk⟩
      have hy : y = x := by
        clear hk
        induction hxy with
        | refl => rfl
        | tail _ hs ih =>
          subst ih
          rcases hadv hs with h | h
          · exact h
          · omega
      subst hy
      exact hk
  | succ n ih =>
    simp only [manyRounds, Bool.or_eq_true, hstep, Bool.and_eq_true, decide_eq_true_eq]
    constructor
    · rintro (h | ⟨y, hxy, hlt, hk⟩)
      · exact ⟨x, .refl, h⟩
      · obtain ⟨z, hyz, hz⟩ := (ih y (by omega)).mp hk
        exact ⟨z, .head hxy hyz, hz⟩
    · rintro ⟨z, hxz, hz⟩
      -- skip the rounds that do not move: the first one that does is the witness
      induction hxz using Relation.ReflTransGen.head_induction_on with
      | refl => exact Or.inl hz
      | @head a b hab hbz ih' =>
        rcases hadv hab with rfl | hlt
        · exact ih' hn
        · exact Or.inr ⟨b, hab, hlt, (ih b (by omega)).mpr ⟨z, hbz, hz⟩⟩

theorem accepts_iff (r : Regex α) (x : Pos α) (k : Pos α → Bool) :
    accepts r x k = true ↔ ∃ y, Rel r x y ∧ k y = true := by
  induction r generalizing x k with
  | eps => simp [accepts, Rel]
  | start => simp [accepts, Rel, and_assoc]
  | notNext p =>
    obtain ⟨b, _ | ⟨c, t⟩⟩ := x <;> simp [accepts, Rel, and_assoc]
  | cls p =>
    obtain ⟨b, _ | ⟨c, t⟩⟩ := x
    · simp [accepts, Rel]
    · constructor
      · intro h
        simp only [accepts, Bool.and_eq_true] at h
        exact ⟨_, ⟨c, t, rfl, h.1, rfl⟩, h.2⟩
      · rintro ⟨y, ⟨c', t', hx, hp, rfl⟩, hk⟩
        obtain ⟨rfl, rfl⟩ := List.cons.inj hx
        simp [accepts, hp, hk]
  | seq r s ihr ihs =>
    simp only [accepts, Rel, ihr, ihs]
    constructor
    · rintro ⟨m, hm, y, hy, hk⟩
      exact ⟨y, ⟨m, hm, hy⟩, hk⟩
    · rintro ⟨y, ⟨m, hm, hy⟩, hk⟩
      exact ⟨m, hm, y, hy, hk⟩
  | alt r s ihr ihs =>
    simp only [accepts, Rel, Bool.or_eq_true, ihr, ihs, or_and_right, exists_or]
  | many r ih =>
    exact manyRounds_iff (fun x k => ih x k) Rel.eq_or_length_lt _ x k (Nat.le_refl _)

theorem searchFrom_iff (r : Regex α) (s : List α) :
    searchFrom r s = true ↔ ∃ u v y, s = u ++ v ∧ Rel r ⟨false, v⟩ y := by
  induction s with
  | nil =>
    simp only [searchFrom, accepts_iff, and_true]
    constructor
    · rintro ⟨y, h⟩
      exact ⟨[], [], y, rfl, h⟩
    · rintro ⟨u, v, y, h, hr⟩
      obtain ⟨-, rfl⟩ := List.append_eq_nil_iff.mp h.symm
      exact ⟨y, hr⟩
  | cons c t ih =>
    simp only [searchFrom, Bool.or_eq_true, accepts_iff, and_true, ih]
    constructor
    · rintro (⟨y, h⟩ | ⟨u, v, y, rfl, h⟩)
      · exact ⟨[], c :: t, y, rfl, h⟩
      · exact ⟨c :: u, v, y, rfl, h⟩
    · rintro ⟨_ | ⟨d, u⟩, v, y, hs, h⟩
      · simp only [List.nil_append] at hs
        subst hs
        exact Or.inl ⟨y, h⟩
      · simp only [List.cons_append, List.cons.injEq] at hs
        exact Or.inr ⟨u, v, y, hs.2, h⟩

/-- `search` decides `Searches`. -/
theorem search_iff (r : Regex α) (s : List α) : search r s = true ↔ Searches r s := by
  rcases s with - | ⟨c, t⟩
  · simp [search, Searches, accepts_iff]
  · simp only [search, Searches, Bool.or_eq_true, accepts_iff, and_true, searchFrom_iff]
    refine or_congr Iff.rfl ⟨?_, ?_⟩
    · rintro ⟨u, v, y, rfl, h⟩
      rcases List.eq_nil_or_concat u with rfl | ⟨u, d, rfl⟩
      · exact ⟨[], c, v, y, rfl, h⟩
      · exact ⟨c :: u, d, v, y, by simp, h⟩
    · rintro ⟨_ | ⟨e, u⟩, d, v, y, hs, h⟩
      · obtain ⟨-, rfl⟩ := List.cons.inj hs
        exact ⟨[], t, y, rfl, h⟩
      · simp only [List.cons_append, List.cons.injEq] at hs
        exact ⟨u ++ [d], v, y, by simp [hs.2], h⟩

/-- `fullmatch` decides `FullMatch`. -/
theorem fullmatch_iff (r : Regex α) (s : List α) :
    fullmatch r s = true ↔ FullMatch r s := by
  simp [fullmatch, FullMatch, accepts_iff]

/-! ### Searching and the connectives -/

theorem searches_alt {r t : Regex α} {s : List α} :
    Searches (alt r t) s ↔ Searches r s ∨ Searches t s := by
  simp only [Searches, Rel]
  constructor
  · rintro (⟨y, h | h⟩ | ⟨u, c, v, y, hs, h | h⟩)
    · exact Or.inl (Or.inl ⟨y, h⟩)
    · exact Or.inr (Or.inl ⟨y, h⟩)
    · exact Or.inl (Or.inr ⟨u, c, v, y, hs, h⟩)
    · exact Or.inr (Or.inr ⟨u, c, v, y, hs, h⟩)
  · rintro ((⟨y, h⟩ | ⟨u, c, v, y, hs, h⟩) | (⟨y, h⟩ | ⟨u, c, v, y, hs, h⟩))
    · exact Or.inl ⟨y, Or.inl h⟩
    · exact Or.inr ⟨u, c, v, y, hs, Or.inl h⟩
    · exact Or.inl ⟨y, Or.inr h⟩
    · exact Or.inr ⟨u, c, v, y, hs, Or.inr h⟩

/-- `(?:^|p)`: the start of the subject, or one letter of the class `p`. -/
def guard (p : α → Bool) : Regex α := alt start (cls p)

theorem rel_guard {p : α → Bool} {x y : Pos α} :
    Rel (guard p) x y ↔
      (y = x ∧ x.first = true) ∨ ∃ c t, x.rest = c :: t ∧ p c = true ∧ y = ⟨false, t⟩ :=
  Iff.rfl

/-- A guarded pattern matches at the start, or right after a letter of the guard. -/
theorem searches_guard {p : α → Bool} {r : Regex α} {s : List α} :
    Searches (seq (guard p) r) s ↔
      (∃ y, Rel r ⟨true, s⟩ y) ∨
        ∃ u c v y, s = u ++ c :: v ∧ p c = true ∧ Rel r ⟨false, v⟩ y := by
  constructor
  · rintro (⟨y, m, hm, h⟩ | ⟨u, c, v, y, rfl, m, hm, h⟩)
    · rcases rel_guard.mp hm with ⟨rfl, -⟩ | ⟨c, t, hs, hp, rfl⟩
      · exact Or.inl ⟨y, h⟩
      · exact Or.inr ⟨[], c, t, y, hs, hp, h⟩
    · rcases rel_guard.mp hm with ⟨rfl, hf⟩ | ⟨d, t, hs, hp, rfl⟩
      · cases hf
      · dsimp only at hs
        exact Or.inr ⟨u ++ [c], d, t, y, by simp [hs], hp, h⟩
  · rintro (⟨y, h⟩ | ⟨u, c, v, y, rfl, hp, h⟩)
    · exact Or.inl ⟨y, _, Or.inl ⟨rfl, rfl⟩, h⟩
    · rcases List.eq_nil_or_concat u with rfl | ⟨u, d, rfl⟩
      · exact Or.inl ⟨y, _, Or.inr ⟨c, v, rfl, hp, rfl⟩, h⟩
      · refine Or.inr ⟨u, d, c :: v, y, by simp, ⟨false, v⟩, ?_, h⟩
        exact Or.inr ⟨c, v, rfl, hp, rfl⟩

/-! ### Runs of a class -/

theorem rel_many_cls {p : α → Bool} {u : List α} (hu : ∀ c ∈ u, p c = true) (v : List α) :
    Rel (many (cls p)) ⟨false, u ++ v⟩ ⟨false, v⟩ := by
  induction u with
  | nil => exact Relation.ReflTransGen.refl
  | cons c u ih =>
    have hstep : Rel (cls p) ⟨false, c :: (u ++ v)⟩ ⟨false, u ++ v⟩ :=
      ⟨c, u ++ v, rfl, hu c (by simp), rfl⟩
    exact Relation.ReflTransGen.head hstep (ih fun d hd => hu d (by simp [hd]))

/-- `[p]+` reads any run of letters of the class that is not empty. -/
theorem rel_plus_cls {p : α → Bool} {u : List α} (hne : u ≠ []) (hu : ∀ c ∈ u, p c = true)
    (b : Bool) (v : List α) : Rel (plus (cls p)) ⟨b, u ++ v⟩ ⟨false, v⟩ := by
  obtain ⟨c, u, rfl⟩ := List.exists_cons_of_ne_nil hne
  exact ⟨⟨false, u ++ v⟩, ⟨c, u ++ v, rfl, hu c (by simp), rfl⟩,
    rel_many_cls (fun d hd => hu d (by simp [hd])) v⟩

/-! ### A letter that the body never reads -/

/-- The pattern never consumes `z`, does not ask for the start, and a lookahead
at `z` behaves as at the end. -/
def Avoids (z : α) : Regex α → Prop
  | eps => True
  | start => False
  | notNext p => p z = false
  | cls p => p z = false
  | seq r s => Avoids z r ∧ Avoids z s
  | alt r s => Avoids z r ∧ Avoids z s
  | many r => Avoids z r

instance instDecidableAvoids (z : α) : (r : Regex α) → Decidable (Avoids z r)
  | eps => .isTrue trivial
  | start => .isFalse id
  | notNext p => inferInstanceAs (Decidable (p z = false))
  | cls p => inferInstanceAs (Decidable (p z = false))
  | seq r s =>
    have := instDecidableAvoids z r
    have := instDecidableAvoids z s
    inferInstanceAs (Decidable (Avoids z r ∧ Avoids z s))
  | alt r s =>
    have := instDecidableAvoids z r
    have := instDecidableAvoids z s
    inferInstanceAs (Decidable (Avoids z r ∧ Avoids z s))
  | many r => instDecidableAvoids z r

/-- Where the start of the subject does not matter, the bit does not matter. -/
theorem Rel.forget_first {z : α} {r : Regex α} (hr : Avoids z r) {b : Bool} (b' : Bool)
    {s : List α} {y : Pos α} (h : Rel r ⟨b, s⟩ y) :
    ∃ y', Rel r ⟨b', s⟩ y' ∧ y'.rest = y.rest := by
  induction r generalizing b b' s y with
  | eps => exact ⟨_, rfl, by rw [show y = _ from h]⟩
  | start => exact hr.elim
  | notNext p => exact ⟨_, ⟨rfl, h.2⟩, by rw [h.1]⟩
  | cls p =>
    obtain ⟨c, t, hs, hp, rfl⟩ := h
    exact ⟨_, ⟨c, t, hs, hp, rfl⟩, rfl⟩
  -- the first part may move on or not, so the second starts with either flag
  | seq r t ihr iht =>
    obtain ⟨⟨f, m⟩, h₁, h₂⟩ := h
    obtain ⟨⟨f', m'⟩, h₁', hm⟩ := ihr hr.1 b' h₁
    dsimp only at hm
    subst hm
    obtain ⟨y', h₂', hy⟩ := iht hr.2 f' h₂
    exact ⟨y', ⟨_, h₁', h₂'⟩, hy⟩
  | alt r t ihr iht =>
    rcases h with h | h
    · obtain ⟨y', h', hy⟩ := ihr hr.1 b' h
      exact ⟨y', Or.inl h', hy⟩
    · obtain ⟨y', h', hy⟩ := iht hr.2 b' h
      exact ⟨y', Or.inr h', hy⟩
  | many r ih =>
    induction h with
    | refl => exact ⟨_, .refl, rfl⟩
    | @tail m y _ hstep ih' =>
      obtain ⟨⟨f', m'⟩, h', hm⟩ := ih'
      obtain ⟨f, m⟩ := m
      dsimp only at hm
      subst hm
      obtain ⟨y', hy', hy⟩ := ih hr f' hstep
      exact ⟨y', h'.tail hy', hy⟩

/-- What follows the separator is invisible to a pattern that avoids it. -/
theorem Rel.of_append {z : α} {r : Regex α} (hr : Avoids z r) {b : Bool}
    {u v : List α} {y : Pos α} (h : Rel r ⟨b, u ++ z :: v⟩ y) :
    ∃ f u', y = ⟨f, u' ++ z :: v⟩ ∧ Rel r ⟨b, u⟩ ⟨f, u'⟩ := by
  induction r generalizing b u y with
  | eps => exact ⟨b, u, h, rfl⟩
  | start => exact hr.elim
  | notNext p =>
    refine ⟨b, u, h.1, rfl, fun c t hu => ?_⟩
    dsimp only at hu
    subst hu
    exact h.2 c (t ++ z :: v) rfl
  | cls p =>
    obtain ⟨c, t, hs, hp, rfl⟩ := h
    rcases u with - | ⟨d, u⟩
    · obtain ⟨rfl, -⟩ := List.cons.inj hs
      exact absurd hp (by simp [show p z = false from hr])
    · obtain ⟨rfl, rfl⟩ := List.cons.inj hs
      exact ⟨false, u, rfl, d, u, rfl, hp, rfl⟩
  | seq r t ihr iht =>
    obtain ⟨m, h₁, h₂⟩ := h
    obtain ⟨f, u', rfl, h₁'⟩ := ihr hr.1 h₁
    obtain ⟨f', u'', rfl, h₂'⟩ := iht hr.2 h₂
    exact ⟨f', u'', rfl, _, h₁', h₂'⟩
  | alt r t ihr iht =>
    rcases h with h | h
    · obtain ⟨f, u', rfl, h'⟩ := ihr hr.1 h
      exact ⟨f, u', rfl, Or.inl h'⟩
    · obtain ⟨f, u', rfl, h'⟩ := iht hr.2 h
      exact ⟨f, u', rfl, Or.inr h'⟩
  | many r ih =>
    induction h with
    | refl => exact ⟨b, u, rfl, .refl⟩
    | tail _ hstep ih' =>
      obtain ⟨f, u', rfl, h'⟩ := ih'
      obtain ⟨f', u'', rfl, hs⟩ := ih hr hstep
      exact ⟨f', u'', rfl, h'.tail hs⟩

/-- And nothing is lost by writing the separator after a match. -/
theorem Rel.append {z : α} {r : Regex α} (hr : Avoids z r) {b f : Bool}
    {u u' : List α} (v : List α) (h : Rel r ⟨b, u⟩ ⟨f, u'⟩) :
    Rel r ⟨b, u ++ z :: v⟩ ⟨f, u' ++ z :: v⟩ := by
  induction r generalizing b f u u' with
  | eps =>
    obtain ⟨rfl, rfl⟩ := Pos.mk.inj (show (⟨f, u'⟩ : Pos α) = ⟨b, u⟩ from h)
    rfl
  | start => exact hr.elim
  | notNext p =>
    obtain ⟨hy, hp⟩ := h
    obtain ⟨rfl, rfl⟩ := Pos.mk.inj hy
    refine ⟨rfl, fun c t hu => ?_⟩
    rcases u' with - | ⟨d, u⟩
    · obtain ⟨rfl, -⟩ := List.cons.inj hu
      exact hr
    · obtain ⟨rfl, -⟩ := List.cons.inj hu
      exact hp d u rfl
  | cls p =>
    obtain ⟨c, t, hs, hp, hy⟩ := h
    obtain ⟨rfl, rfl⟩ := Pos.mk.inj hy
    dsimp only at hs
    subst hs
    exact ⟨c, u' ++ z :: v, rfl, hp, rfl⟩
  | seq r t ihr iht =>
    obtain ⟨⟨g, m⟩, h₁, h₂⟩ := h
    exact ⟨_, ihr hr.1 h₁, iht hr.2 h₂⟩
  | alt r t ihr iht =>
    rcases h with h | h
    · exact Or.inl (ihr hr.1 h)
    · exact Or.inr (iht hr.2 h)
  | many r ih =>
    -- the iterations of a star end where the next one begins, so the letter is carried along
    suffices ∀ {x y : Pos α}, Relation.ReflTransGen (Rel r) x y →
        Relation.ReflTransGen (Rel r) ⟨x.first, x.rest ++ z :: v⟩ ⟨y.first, y.rest ++ z :: v⟩
      from this h
    intro x y hxy
    induction hxy with
    | refl => exact .refl
    | tail _ hstep ih' => exact ih'.tail (ih hr hstep)

/-- A match of an avoiding pattern in `u ++ z :: v` is a match in `u` or in `v`. -/
theorem searches_append_cons_of_avoids {z : α} {r : Regex α} (hr : Avoids z r)
    (u v : List α) :
    Searches r (u ++ z :: v) ↔ Searches r u ∨ Searches r v := by
  constructor
  · rintro (⟨y, h⟩ | ⟨a, c, w, y, hs, h⟩)
    · obtain ⟨f, u', -, h'⟩ := h.of_append hr
      exact Or.inl (Or.inl ⟨_, h'⟩)
    · rcases List.append_eq_append_iff.mp hs.symm with ⟨m, rfl, hm⟩ | ⟨m, rfl, hm⟩
      · -- the match starts inside `u` or right after the separator
        rcases m with - | ⟨d, m⟩
        · obtain ⟨rfl, rfl⟩ := List.cons.inj hm
          obtain ⟨y', h', -⟩ := h.forget_first hr true
          exact Or.inr (Or.inl ⟨y', h'⟩)
        · obtain ⟨rfl, rfl⟩ := List.cons.inj hm
          obtain ⟨f, u', -, h'⟩ := h.of_append hr
          exact Or.inl (Or.inr ⟨a, c, m, _, rfl, h'⟩)
      · -- the match starts inside `v`
        rcases m with - | ⟨d, m⟩
        · obtain ⟨rfl, rfl⟩ := List.cons.inj hm
          obtain ⟨y', h', -⟩ := h.forget_first hr true
          exact Or.inr (Or.inl ⟨y', h'⟩)
        · obtain ⟨rfl, rfl⟩ := List.cons.inj hm
          exact Or.inr (Or.inr ⟨m, c, w, y, rfl, h⟩)
  · rintro ((⟨⟨f, t⟩, h⟩ | ⟨a, c, w, ⟨f, t⟩, rfl, h⟩) | (⟨y, h⟩ | ⟨a, c, w, y, rfl, h⟩))
    · exact Or.inl ⟨_, h.append hr v⟩
    · exact Or.inr ⟨a, c, w ++ z :: v, _, by simp, h.append hr v⟩
    · obtain ⟨y', h', -⟩ := h.forget_first hr false
      exact Or.inr ⟨u, z, v, y', rfl, h'⟩
    · exact Or.inr ⟨u ++ z :: a, c, w, y, by simp, h⟩

/-- The same for a guarded pattern whose guard accepts the separator. -/
theorem searches_append_cons_of_guard {z : α} {p : α → Bool} {r : Regex α}
    (hp : p z = true) (hr : Avoids z r) (u v : List α) :
    Searches (seq (guard p) r) (u ++ z :: v) ↔
      Searches (seq (guard p) r) u ∨ Searches (seq (guard p) r) v := by
  simp only [searches_guard]
  constructor
  · rintro (⟨y, h⟩ | ⟨a, c, w, y, hs, hc, h⟩)
    · obtain ⟨f, u', -, h'⟩ := h.of_append hr
      exact Or.inl (Or.inl ⟨_, h'⟩)
    -- the guard stands before the separator, at it or after it
    · rcases List.append_eq_append_iff.mp hs.symm with ⟨m, rfl, hm⟩ | ⟨m, rfl, hm⟩
      · rcases m with - | ⟨d, m⟩
        · obtain ⟨rfl, rfl⟩ := List.cons.inj hm
          obtain ⟨y', h', -⟩ := h.forget_first hr true
          exact Or.inr (Or.inl ⟨y', h'⟩)
        · obtain ⟨rfl, rfl⟩ := List.cons.inj hm
          obtain ⟨f, u', -, h'⟩ := h.of_append hr
          exact Or.inl (Or.inr ⟨a, c, m, _, rfl, hc, h'⟩)
      · rcases m with - | ⟨d, m⟩
        · obtain ⟨rfl, rfl⟩ := List.cons.inj hm
          obtain ⟨y', h', -⟩ := h.forget_first hr true
          exact Or.inr (Or.inl ⟨y', h'⟩)
        · obtain ⟨rfl, rfl⟩ := List.cons.inj hm
          exact Or.inr (Or.inr ⟨m, c, w, y, rfl, hc, h⟩)
  · rintro ((⟨⟨f, t⟩, h⟩ | ⟨a, c, w, ⟨f, t⟩, rfl, hc, h⟩) |
      (⟨y, h⟩ | ⟨a, c, w, y, rfl, hc, h⟩))
    · exact Or.inl ⟨_, h.append hr v⟩
    · exact Or.inr ⟨a, c, w ++ z :: v, _, by simp, hc, h.append hr v⟩
    · obtain ⟨y', h', -⟩ := h.forget_first hr false
      exact Or.inr ⟨u, z, v, y', rfl, hp, h'⟩
    · exact Or.inr ⟨u ++ z :: a, c, w, y, by simp, hc, h⟩

/-- Unions of avoiding patterns and of patterns guarded by a class with `z`. -/
inductive Splits (z : α) : Regex α → Prop
  | avoids {r} : Avoids z r → Splits z r
  | guard {p r} : p z = true → Avoids z r → Splits z (seq (guard p) r)
  | alt {r s} : Splits z r → Splits z s → Splits z (alt r s)

/-- **A separator confines a match**: what is found in `u ++ z :: v` is found in
`u` or in `v`, and conversely. -/
theorem searches_append_cons {z : α} {r : Regex α} (hr : Splits z r) (u v : List α) :
    Searches r (u ++ z :: v) ↔ Searches r u ∨ Searches r v := by
  induction hr with
  | avoids h => exact searches_append_cons_of_avoids h u v
  | guard hp h => exact searches_append_cons_of_guard hp h u v
  | alt _ _ ihr ihs =>
    simp only [searches_alt, ihr, ihs]
    tauto

/-! ### A pattern that needs a letter outside a set -/

/-- Every match of the pattern consumes a letter outside `S`. -/
def Needs (S : List α) : Regex α → Prop
  | eps => False
  | start => False
  | notNext _ => False
  | cls p => ∀ c ∈ S, p c = false
  | seq r s => Needs S r ∨ Needs S s
  | alt r s => Needs S r ∧ Needs S s
  | many _ => False

instance instDecidableNeeds (S : List α) : (r : Regex α) → Decidable (Needs S r)
  | eps => .isFalse id
  | start => .isFalse id
  | notNext _ => .isFalse id
  | cls p => inferInstanceAs (Decidable (∀ c ∈ S, p c = false))
  | seq r s =>
    have := instDecidableNeeds S r
    have := instDecidableNeeds S s
    inferInstanceAs (Decidable (Needs S r ∨ Needs S s))
  | alt r s =>
    have := instDecidableNeeds S r
    have := instDecidableNeeds S s
    inferInstanceAs (Decidable (Needs S r ∧ Needs S s))
  | many _ => .isFalse id

theorem Rel.mem_of_mem {r : Regex α} {x y : Pos α} (h : Rel r x y) :
    ∀ c ∈ y.rest, c ∈ x.rest := by
  intro c hc
  rcases h.advance with rfl | ⟨-, u, -, hx⟩
  · exact hc
  · simp [hx, hc]

theorem Rel.not_of_needs {S : List α} {r : Regex α} (hr : Needs S r) {x y : Pos α}
    (hx : ∀ c ∈ x.rest, c ∈ S) : ¬ Rel r x y := by
  induction r generalizing x y with
  | eps => exact hr.elim
  | start => exact hr.elim
  | notNext p => exact hr.elim
  | cls p =>
    rintro ⟨c, t, hs, hp, -⟩
    have : p c = false := hr c (hx c (by simp [hs]))
    simp [this] at hp
  | seq r s ihr ihs =>
    rintro ⟨m, h₁, h₂⟩
    rcases hr with hr | hr
    · exact ihr hr hx h₁
    · exact ihs hr (fun c hc => hx c (h₁.mem_of_mem c hc)) h₂
  | alt r s ihr ihs =>
    rintro (h | h)
    · exact ihr hr.1 hx h
    · exact ihs hr.2 hx h
  | many r _ => exact hr.elim

/-- A pattern that needs a letter outside `S` finds nothing in a text over `S`. -/
theorem not_searches_of_needs {S : List α} {r : Regex α} (hr : Needs S r) {s : List α}
    (hs : ∀ c ∈ s, c ∈ S) : ¬ Searches r s := by
  rintro (⟨y, h⟩ | ⟨u, c, v, y, rfl, h⟩)
  · exact h.not_of_needs hr hs
  · exact h.not_of_needs hr (fun d hd => hs d (by simp [hd]))

/-! ### The letters of a match -/

/-- Every letter class of the pattern lies in the set. -/
def Within (S : α → Prop) : Regex α → Prop
  | cls p => ∀ c, p c = true → S c
  | seq r s => Within S r ∧ Within S s
  | alt r s => Within S r ∧ Within S s
  | many r => Within S r
  | _ => True

/-- A match reads letters of the set only. -/
theorem Rel.within {S : α → Prop} {r : Regex α} (hr : Within S r) {x y : Pos α} (h : Rel r x y) :
    ∃ u, x.rest = u ++ y.rest ∧ ∀ c ∈ u, S c := by
  induction r generalizing x y with
  | eps =>
    obtain rfl : y = x := h
    exact ⟨[], rfl, by simp⟩
  | start =>
    obtain rfl := h.1
    exact ⟨[], rfl, by simp⟩
  | notNext p =>
    obtain rfl := h.1
    exact ⟨[], rfl, by simp⟩
  | cls p =>
    obtain ⟨c, t, hx, hp, rfl⟩ := h
    exact ⟨[c], hx, by simpa using hr c hp⟩
  | seq r s ihr ihs =>
    obtain ⟨m, h₁, h₂⟩ := h
    obtain ⟨u, hu, hu'⟩ := ihr hr.1 h₁
    obtain ⟨v, hv, hv'⟩ := ihs hr.2 h₂
    exact ⟨u ++ v, by rw [hu, hv, List.append_assoc], List.forall_mem_append.mpr ⟨hu', hv'⟩⟩
  | alt r s ihr ihs =>
    rcases h with h | h
    · exact ihr hr.1 h
    · exact ihs hr.2 h
  | many r ih =>
    induction h with
    | refl => exact ⟨[], rfl, by simp⟩
    | tail _ hstep ih' =>
      obtain ⟨u, hu, hu'⟩ := ih'
      obtain ⟨v, hv, hv'⟩ := ih hr hstep
      exact ⟨u ++ v, by rw [hu, hv, List.append_assoc], List.forall_mem_append.mpr ⟨hu', hv'⟩⟩

theorem FullMatch.within {S : α → Prop} {r : Regex α} (hr : Within S r) {s : List α}
    (h : FullMatch r s) : ∀ c ∈ s, S c := by
  obtain ⟨y, hrel, hy⟩ := h
  obtain ⟨u, hu, hu'⟩ := hrel.within hr
  rw [hy, List.append_nil] at hu
  rw [show s = u from hu]
  exact hu'

end Rx

/-
SkillsSdk/Lib/Scanning.lean

The matches of a pattern one after another, as `finditer` reads them.

A lexer looks at the letter before a position and at what is left.  A hit is a
token and the number of letters that it has behind its first one; `finditer`
goes on behind them, `hits` looks at every position.

Going on behind a hit is safe in two cases: the lexer is silent inside its own
hits (`finditer_eq_hits`), or what it would find there is no better than the hit
that was skipped over (`any_finditer_iff`).
-/
import Mathlib.Data.List.Basic
import Mathlib.Data.List.Forall2

namespace Scanning

variable {α β τ : Type*}

/-! ### Reading a word -/

/-- The letters that spell the word `w`, and what is left behind them. -/
def readWord (same : β → α → Bool) : List β → List α → Option (List α × List α)
  | [], s => some ([], s)
  | _ :: _, [] => none
  | p :: w, c :: s =>
    if same p c then (readWord same w s).map fun r => (c :: r.1, r.2) else none

/-- The letters spell the word. -/
def Spells (same : β → α → Bool) (w : List β) (u : List α) : Prop :=
  List.Forall₂ (fun p c => same p c = true) w u

theorem readWord_eq_some_iff {same : β → α → Bool} {w : List β} {s u rest : List α} :
    readWord same w s = some (u, rest) ↔ s = u ++ rest ∧ Spells same w u := by
  induction w generalizing s u with
  | nil =>
    rw [readWord, Option.some.injEq, Prod.mk.injEq, Spells, List.forall₂_nil_left_iff]
    constructor
    · rintro ⟨rfl, rfl⟩
      exact ⟨rfl, rfl⟩
    · rintro ⟨rfl, rfl⟩
      exact ⟨rfl, rfl⟩
  | cons p w ih =>
    cases s with
    | nil =>
      rw [readWord]
      constructor
      · intro h
        cases h
      · rintro ⟨hs, h⟩
        obtain rfl : u = [] := (List.append_eq_nil_iff.mp hs.symm).1
        cases h
    | cons c s =>
      rw [readWord]
      constructor
      · intro h
        split at h
        case isFalse => cases h
        case isTrue hc =>
          obtain ⟨⟨v, r⟩, hr, he⟩ := Option.map_eq_some_iff.mp h
          obtain ⟨rfl, rfl⟩ := Prod.mk.inj he
          obtain ⟨rfl, hv⟩ := ih.mp hr
          exact ⟨rfl, .cons hc hv⟩
      · rintro ⟨hs, h⟩
        cases h with
        | @cons _ d _ v hd hv =>
          obtain ⟨rfl, rfl⟩ := List.cons.inj hs
          have hrest : readWord same w (v.append rest) = some (v, rest) := ih.mpr ⟨rfl, hv⟩
          rw [if_pos hd, hrest]
          rfl

theorem Spells.length_eq {same : β → α → Bool} {w : List β} {u : List α} (h : Spells same w u) :
    w.length = u.length :=
  List.Forall₂.length_eq h

/-- Every letter of a spelled word stands for a letter of the word. -/
theorem Spells.exists_of_mem {same : β → α → Bool} {w : List β} {u : List α}
    (h : Spells same w u) {c : α} (hc : c ∈ u) : ∃ p ∈ w, same p c = true := by
  induction h with
  | nil => cases hc
  | @cons p d w u hp _ ih =>
    rcases List.mem_cons.mp hc with rfl | hc
    · exact ⟨p, List.mem_cons_self, hp⟩
    · obtain ⟨q, hq, hqc⟩ := ih hc
      exact ⟨q, List.mem_cons_of_mem _ hq, hqc⟩

/-! ### Hits -/

/-- The token that begins here, and how many letters it has behind its first. -/
abbrev Lexer (α τ : Type*) := Option α → List α → Option (τ × Nat)

variable (lex : Lexer α τ)

/-- The hits that `finditer` reads, when the first `n` letters belong to a hit. -/
def finditerFrom : Nat → Option α → List α → List τ
  | _, _, [] => []
  | n + 1, _, c :: t => finditerFrom n (some c) t
  | 0, prev, c :: t =>
    match lex prev (c :: t) with
    | none => finditerFrom 0 (some c) t
    | some (tok, n) => tok :: finditerFrom n (some c) t

/-- `pattern.finditer(s)`. -/
def finditer (s : List α) : List τ := finditerFrom lex 0 none s

/-- The hits at all positions. -/
def hits : Option α → List α → List τ
  | _, [] => []
  | prev, c :: t =>
    match lex prev (c :: t) with
    | none => hits (some c) t
    | some (tok, _) => tok :: hits (some c) t

/-- Nothing begins at the first `n` letters. -/
def Silent (n : Nat) (s : List α) : Prop :=
  ∀ k < n, ∀ prev, lex prev (s.drop k) = none

variable {lex}

/-- The first of the silent letters is passed over. -/
theorem Silent.hits_cons {n : Nat} {c : α} {t : List α} (h : Silent lex (n + 1) (c :: t))
    (prev : Option α) : hits lex prev (c :: t) = hits lex (some c) t := by
  have hnone : lex prev (c :: t) = none := h 0 (Nat.succ_pos n) prev
  rw [hits, hnone]

theorem Silent.zero (s : List α) : Silent lex 0 s := fun _ hk => absurd hk (Nat.not_lt_zero _)

theorem Silent.tail {n : Nat} {c : α} {t : List α} (h : Silent lex (n + 1) (c :: t)) :
    Silent lex n t := by
  intro k hk prev
  exact h (k + 1) (Nat.succ_lt_succ hk) prev

theorem finditerFrom_eq_hits
    (hsilent : ∀ prev c t tok n, lex prev (c :: t) = some (tok, n) → Silent lex n t)
    {n : Nat} {s : List α} (h : Silent lex n s) (prev : Option α) :
    finditerFrom lex n prev s = hits lex prev s := by
  induction s generalizing n prev with
  | nil => cases n <;> rfl
  | cons c t ih =>
    cases n with
    | succ n => rw [finditerFrom, h.hits_cons, ih h.tail]
    | zero =>
      rw [finditerFrom, hits]
      cases hlex : lex prev (c :: t) with
      | none => exact ih (Silent.zero t) (some c)
      | some hit =>
        show hit.1 :: finditerFrom lex hit.2 (some c) t = hit.1 :: hits lex (some c) t
        rw [ih (hsilent prev c t hit.1 hit.2 hlex)]

/-- A lexer that is silent inside its hits loses nothing by going on behind them. -/
theorem finditer_eq_hits
    (hsilent : ∀ prev c t tok n, lex prev (c :: t) = some (tok, n) → Silent lex n t) (s : List α) :
    finditer lex s = hits lex none s :=
  finditerFrom_eq_hits hsilent (Silent.zero s) none

/-- A hit that satisfies `P` begins behind some part `u` of the subject. -/
def HitWith (lex : Lexer α τ) (P : τ → Bool) (s : List α) : Prop :=
  ∃ u v tok n, s = u ++ v ∧ v ≠ [] ∧ lex u.getLast? v = some (tok, n) ∧ P tok = true

/-- What begins inside a hit is no better than the hit. -/
def Dominates (lex : Lexer α τ) (P : τ → Bool) : Prop :=
  ∀ prev c t tok n, lex prev (c :: t) = some (tok, n) →
    ∀ k < n, ∀ prev' tok' n', lex prev' (t.drop k) = some (tok', n') → P tok' = true → P tok = true

theorem hitWith_of_any_finditerFrom {P : τ → Bool} {n : Nat} {before s : List α}
    (h : (finditerFrom lex n before.getLast? s).any P = true) : HitWith lex P (before ++ s) := by
  induction s generalizing n before with
  | nil =>
    rw [finditerFrom] at h
    cases h
  | cons c t ih =>
    have hlast : (before ++ [c]).getLast? = some c := List.getLast?_concat
    have htail : ∀ m, (finditerFrom lex m (some c) t).any P = true →
        HitWith lex P (before ++ c :: t) := by
      intro m hm
      rw [← hlast] at hm
      have := ih hm
      rwa [List.append_assoc] at this
    cases n with
    | succ n =>
      rw [finditerFrom] at h
      exact htail n h
    | zero =>
      rw [finditerFrom] at h
      cases hlex : lex before.getLast? (c :: t) with
      | none =>
        rw [hlex] at h
        exact htail 0 h
      | some hit =>
        rw [hlex] at h
        rcases Bool.or_eq_true_iff.mp h with hP | h
        · exact ⟨before, c :: t, hit.1, hit.2, rfl, List.cons_ne_nil c t, hlex, hP⟩
        · exact htail hit.2 h

/-- A hit behind the letters that are skipped is read, or lies inside one that is as good. -/
theorem any_finditerFrom_of_hit {P : τ → Bool} (hdom : Dominates lex P) {n m : Nat}
    {before u v : List α} {tok : τ} (hn : n ≤ u.length) (hv : v ≠ [])
    (hlex : lex (before ++ u).getLast? v = some (tok, m)) (hP : P tok = true) :
    (finditerFrom lex n before.getLast? (u ++ v)).any P = true := by
  induction u generalizing n before with
  | nil =>
    obtain rfl : n = 0 := Nat.le_zero.mp hn
    obtain ⟨c, t, rfl⟩ := List.exists_cons_of_ne_nil hv
    rw [List.append_nil] at hlex
    show (finditerFrom lex 0 before.getLast? (c :: t)).any P = true
    rw [finditerFrom, hlex]
    exact Bool.or_eq_true_iff.mpr (Or.inl hP)
  | cons c u ih =>
    have hlex' : lex (before ++ [c] ++ u).getLast? v = some (tok, m) := by
      rw [List.append_assoc]
      exact hlex
    have htail : ∀ k ≤ u.length, (finditerFrom lex k (some c) (u ++ v)).any P = true := by
      intro k hk
      have := ih hk hlex'
      rwa [List.getLast?_concat] at this
    show (finditerFrom lex n before.getLast? (c :: (u ++ v))).any P = true
    cases n with
    | succ n => exact htail n (Nat.le_of_succ_le_succ hn)
    | zero =>
      rw [finditerFrom]
      cases hfirst : lex before.getLast? (c :: (u ++ v)) with
      | none => exact htail 0 (Nat.zero_le _)
      | some hit =>
        apply Bool.or_eq_true_iff.mpr
        -- a longer match hides the hit, but then it has the property itself
        by_cases hk : hit.2 ≤ u.length
        · exact Or.inr (htail hit.2 hk)
        · refine Or.inl (hdom _ c (u ++ v) hit.1 hit.2 hfirst u.length (Nat.lt_of_not_le hk)
            (before ++ [c] ++ u).getLast? tok m ?_ hP)
          rw [List.drop_left]
          exact hlex'

/-- Where a hit is as good as what it covers, skipping over the rest of it decides
whether there is a good hit anywhere. -/
theorem any_finditer_iff {P : τ → Bool} (hdom : Dominates lex P) (s : List α) :
    (finditer lex s).any P = true ↔ HitWith lex P s := by
  constructor
  · intro h
    have hall : (finditerFrom lex 0 ([] : List α).getLast? s).any P = true := h
    exact hitWith_of_any_finditerFrom hall
  · rintro ⟨u, v, tok, n, rfl, hv, hlex, hP⟩
    have hlast : lex (([] : List α) ++ u).getLast? v = some (tok, n) := hlex
    exact any_finditerFrom_of_hit hdom (Nat.zero_le _) hv hlast hP

end Scanning

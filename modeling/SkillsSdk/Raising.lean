/-
SkillsSdk/Raising.lean

Calls that raise: an outcome that is an exception, and the value errors that
the validators outside the contract models raise.
-/
import SkillsSdk.Digests
import Mathlib.Algebra.Ring.Nat

namespace SkillsSdk

/-! ### Outcomes -/

/-- The computation raises. -/
def Raises {ε : Type*} {α : Type _} (x : Except ε α) : Prop := ∃ e, x = .error e

section

variable {ε ε' : Type*} {α β : Type _}

theorem not_raises_ok {a : α} : ¬ Raises (.ok a : Except ε α) := by
  rintro ⟨e, h⟩
  cases h

theorem ok_of_not_raises {x : Except ε α} (h : ¬ Raises x) : ∃ a, x = .ok a := by
  rcases x with e | a
  · exact absurd ⟨e, rfl⟩ h
  · exact ⟨a, rfl⟩

theorem raises_bind_iff {x : Except ε α} {f : α → Except ε β} :
    Raises (x >>= f) ↔ Raises x ∨ ∃ a, x = .ok a ∧ Raises (f a) := by
  simp only [Raises, bind_eq_error_iff]
  constructor
  · rintro ⟨e, h | ⟨a, ha, h⟩⟩
    · exact Or.inl ⟨e, h⟩
    · exact Or.inr ⟨a, ha, e, h⟩
  · rintro (⟨e, h⟩ | ⟨a, ha, e, h⟩)
    · exact ⟨e, Or.inl h⟩
    · exact ⟨e, Or.inr ⟨a, ha, h⟩⟩

theorem raises_mapError_iff {x : Except ε α} {f : ε → ε'} : Raises (x.mapError f) ↔ Raises x := by
  rcases x with e | a
  · exact iff_of_true ⟨f e, rfl⟩ ⟨e, rfl⟩
  · exact iff_of_false not_raises_ok not_raises_ok

theorem mapError_eq_ok_iff {x : Except ε α} {f : ε → ε'} {a : α} :
    x.mapError f = .ok a ↔ x = .ok a := by
  rcases x with e | b
  · exact iff_of_false (by simp [Except.mapError]) (by simp)
  · simp [Except.mapError]

theorem toOption_eq_some_iff {x : Except ε α} {a : α} : x.toOption = some a ↔ x = .ok a := by
  rcases x with e | b
  · exact iff_of_false nofun nofun
  · simp [Except.toOption]

theorem except_map_eq_ok_iff {f : α → β} {x : Except ε α} {b : β} :
    x.map f = .ok b ↔ ∃ a, x = .ok a ∧ f a = b := by
  rcases x with e | a
  · exact iff_of_false nofun fun ⟨_, h, _⟩ => by cases h
  · constructor
    · intro h
      exact ⟨a, rfl, Except.ok.inj h⟩
    · rintro ⟨a', h, rfl⟩
      rw [Except.ok.inj h]
      rfl

theorem except_map_eq_error_iff {f : α → β} {x : Except ε α} {e : ε} :
    x.map f = .error e ↔ x = .error e := by
  rcases x with e' | a
  · exact ⟨fun h => congrArg Except.error (Except.error.inj h),
      fun h => congrArg Except.error (Except.error.inj h)⟩
  · exact iff_of_false nofun nofun

/-- A loop of calls raises when one of them does. -/
theorem raises_mapM_iff {γ : Type*} {f : γ → Except ε β} {l : List γ} :
    Raises (l.mapM f) ↔ ∃ c ∈ l, Raises (f c) := by
  induction l with
  | nil => exact iff_of_false not_raises_ok (by simp)
  | cons c l ih =>
    rw [List.mapM_cons, raises_bind_iff, List.exists_mem_cons_iff, ← ih]
    constructor
    · rintro (h | ⟨b, -, h⟩)
      · exact Or.inl h
      · rcases raises_bind_iff.mp h with h | ⟨bs, -, h⟩
        · exact Or.inr h
        · exact absurd h not_raises_ok
    · rintro (h | h)
      · exact Or.inl h
      · rcases hc : f c with e | b
        · exact Or.inl ⟨e, rfl⟩
        · exact Or.inr ⟨b, rfl, raises_bind_iff.mpr (Or.inl h)⟩

/-- What a loop of calls returns comes from them. -/
theorem mem_of_mapM_eq_ok {γ : Type*} {f : γ → Except ε β} {l : List γ} {bs : List β}
    (h : l.mapM f = .ok bs) : ∀ b ∈ bs, ∃ c ∈ l, f c = .ok b := by
  induction l generalizing bs with
  | nil =>
    obtain rfl : [] = bs := Except.ok.inj h
    simp
  | cons c l ih =>
    rw [List.mapM_cons] at h
    obtain ⟨b, hb, h⟩ := bind_eq_ok_iff.mp h
    obtain ⟨bs', hbs', h⟩ := bind_eq_ok_iff.mp h
    obtain rfl : b :: bs' = bs := Except.ok.inj h
    intro d hd
    rcases List.mem_cons.mp hd with rfl | hd
    · exact ⟨c, by simp, hb⟩
    · obtain ⟨c', hc', hd⟩ := ih hbs' d hd
      exact ⟨c', by simp [hc'], hd⟩

/-- Every call of a loop that returns has returned. -/
theorem exists_of_mapM_eq_ok {γ : Type*} {f : γ → Except ε β} {l : List γ} {bs : List β}
    (h : l.mapM f = .ok bs) : ∀ c ∈ l, ∃ b ∈ bs, f c = .ok b := by
  induction l generalizing bs with
  | nil => simp
  | cons c l ih =>
    rw [List.mapM_cons] at h
    obtain ⟨b, hb, h⟩ := bind_eq_ok_iff.mp h
    obtain ⟨bs', hbs', h⟩ := bind_eq_ok_iff.mp h
    obtain rfl : b :: bs' = bs := Except.ok.inj h
    intro d hd
    rcases List.mem_cons.mp hd with rfl | hd
    · exact ⟨b, by simp, hb⟩
    · obtain ⟨b', hb', hd⟩ := ih hbs' d hd
      exact ⟨b', by simp [hb'], hd⟩

/-- A loop of calls returns what each of them does. -/
theorem mapM_eq_ok_iff {γ : Type*} {f : γ → Except ε β} {l : List γ} {bs : List β} :
    l.mapM f = .ok bs ↔ l.map f = bs.map .ok := by
  induction l generalizing bs with
  | nil =>
    constructor
    · intro h
      obtain rfl : [] = bs := Except.ok.inj h
      rfl
    · intro h
      rw [List.map_eq_nil_iff.mp h.symm]
      rfl
  | cons a l ih =>
    rw [List.mapM_cons, bind_eq_ok_iff]
    constructor
    · rintro ⟨b, hb, h⟩
      obtain ⟨rest, hrest, h⟩ := bind_eq_ok_iff.mp h
      obtain rfl : b :: rest = bs := Except.ok.inj h
      rw [List.map_cons, List.map_cons, hb, ih.mp hrest]
    · intro h
      rcases bs with - | ⟨b, rest⟩
      · cases h
      · rw [List.map_cons, List.map_cons, List.cons.injEq] at h
        exact ⟨b, h.1, bind_eq_ok_iff.mpr ⟨rest, ih.mpr h.2, rfl⟩⟩

end

/-! ### Value errors -/

/-- A `ValueError`: that of a contract model, or one raised with a message. -/
inductive ValueRaised where
  | validationError (e : ValidationError)
  | valueError (message : Text)
  deriving DecidableEq

/-- Conditions that must not hold, in order, each raised when it is the first to hold. -/
def raiseValueErrors (violations : List (Bool × String)) : Except ValueRaised Unit :=
  match violations.find? (·.1) with
  | some (_, message) => .error (.valueError message.toList)
  | none => .ok ()

theorem raiseValueErrors_eq_ok {violations : List (Bool × String)} :
    raiseValueErrors violations = .ok () ↔ ∀ v ∈ violations, v.1 = false := by
  rw [raiseValueErrors]
  split
  · rename_i b message h
    have hmem := List.mem_of_find?_eq_some h
    have hb : b = true := by simpa using List.find?_some h
    refine iff_of_false (by simp) fun hall => ?_
    simpa [hb] using hall _ hmem
  · rename_i h
    simpa using h

/-- What follows the checks runs when they pass. -/
theorem raiseValueErrors_bind_eq_ok_iff {α : Type _} {violations : List (Bool × String)}
    {f : Unit → Except ValueRaised α} {a : α} :
    (raiseValueErrors violations >>= f) = .ok a ↔ (∀ v ∈ violations, v.1 = false) ∧ f () = .ok a := by
  rw [bind_eq_ok_iff, ← raiseValueErrors_eq_ok]
  constructor
  · rintro ⟨⟨⟩, h, hf⟩
    exact ⟨h, hf⟩
  · rintro ⟨h, hf⟩
    exact ⟨(), h, hf⟩

/-- A call of a contract model. -/
def validated {α : Type*} (x : Except ValidationError α) : Except ValueRaised α :=
  x.mapError .validationError

theorem validated_eq_ok_iff {α : Type*} {x : Except ValidationError α} {a : α} :
    validated x = .ok a ↔ x = .ok a := mapError_eq_ok_iff

/-! ### Loops with a state -/

section

variable {ε σ α β : Type*}

/-- The items in their order, with a state that is handed from one to the next. -/
def threadItems (f : α → σ → Except ε (β × σ)) : List α → σ → Except ε (List β × σ)
  | [], s => .ok ([], s)
  | a :: as, s =>
    match f a s with
    | .error e => .error e
    | .ok first => (threadItems f as first.2).map fun others => (first.1 :: others.1, others.2)

/-- What the loop returns comes from its items, one by one. -/
theorem forall₂_of_threadItems {f : α → σ → Except ε (β × σ)} {items : List α} {s : σ} {result : List β × σ}
    (h : threadItems f items s = .ok result) :
    List.Forall₂ (fun a b => ∃ s s', f a s = .ok (b, s')) items result.1 := by
  induction items generalizing s result with
  | nil =>
    obtain rfl := Except.ok.inj h
    exact List.Forall₂.nil
  | cons a items ih =>
    rw [threadItems] at h
    split at h
    · cases h
    · rename_i first hfirst
      rcases hrest : threadItems f items first.2 with e | others
      · rw [hrest] at h
        cases h
      · rw [hrest] at h
        obtain rfl := Except.ok.inj h
        exact List.Forall₂.cons ⟨s, first.2, hfirst⟩ (ih hrest)

theorem threadItems_map {γ : Type*} {f : α → σ → Except ε (β × σ)} {g : γ → α} (items : List γ) (s : σ) :
    threadItems f (items.map g) s = threadItems (fun c => f (g c)) items s := by
  induction items generalizing s with
  | nil => rfl
  | cons c items ih =>
    rw [List.map_cons, threadItems, threadItems]
    cases f (g c) s with
    | error e => rfl
    | ok first => exact congrArg (Except.map _) (ih first.2)

end

/-! ### Loops under a budget -/

section

variable {ε : Type*} {α β : Type*} {f : α → Nat → Except ε (β × Nat)} {size : α → Nat} {items : List α}

/-- What is left of a budget is what the items did not take. -/
theorem sum_of_threadItems {budget : Nat} {result : List β × Nat}
    (hf : ∀ a ∈ items, ∀ s r, f a s = .ok r → size a + r.2 = s) (h : threadItems f items budget = .ok result) :
    (items.map size).sum + result.2 = budget := by
  induction items generalizing budget result with
  | nil =>
    obtain rfl := Except.ok.inj h
    exact Nat.zero_add budget
  | cons a items ih =>
    rw [List.forall_mem_cons] at hf
    rw [threadItems] at h
    rcases hfirst : f a budget with e | first
    · rw [hfirst] at h
      cases h
    · rw [hfirst] at h
      obtain ⟨others, hothers, rfl⟩ := except_map_eq_ok_iff.mp h
      have hsize := hf.1 budget first hfirst
      have hrest := ih hf.2 hothers
      rw [List.map_cons, List.sum_cons]
      omega

/-- Under a budget that holds them all, the items succeed together or fail with one error. -/
theorem threadItems_of_budget {g : α → β} {good : α → Prop} [DecidablePred good] {e : ε} {budget : Nat}
    (hf : ∀ a ∈ items, ∀ s, size a ≤ s → f a s = if good a then .ok (g a, s - size a) else .error e)
    (hbudget : (items.map size).sum ≤ budget) :
    threadItems f items budget =
      if ∀ a ∈ items, good a then .ok (items.map g, budget - (items.map size).sum) else .error e := by
  induction items generalizing budget with
  | nil =>
    rw [if_pos (by simp)]
    rfl
  | cons a items ih =>
    rw [List.forall_mem_cons] at hf
    rw [List.map_cons, List.sum_cons] at hbudget
    rw [threadItems, hf.1 budget (by omega)]
    by_cases ha : good a
    · rw [if_pos ha]
      dsimp only
      rw [ih hf.2 (by omega)]
      by_cases hitems : ∀ b ∈ items, good b
      · rw [if_pos hitems, if_pos (List.forall_mem_cons.mpr ⟨ha, hitems⟩), List.map_cons, List.map_cons,
          List.sum_cons, ← Nat.sub_sub]
        rfl
      · rw [if_neg hitems, if_neg fun h => hitems (List.forall_mem_cons.mp h).2]
        rfl
    · rw [if_neg ha, if_neg fun h => ha (List.forall_mem_cons.mp h).1]

end

end SkillsSdk

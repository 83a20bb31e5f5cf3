/-
SkillsSdk/Lib/KeyedList.lean

A table kept as a list of rows with a key.

`upsert key e l` puts the row `e` in the place of the row with its key, or at
the end when there is none.  On a table with distinct keys the place is unique
(`upsert_spec`), the keys stay distinct (`nodup_upsert`), a row that is there
changes nothing (`upsert_of_mem_self`), and rows with different keys may be put
in either order: the tables have the same rows (`mem_upsert_comm`).
-/
import Mathlib.Data.List.Nodup
import Mathlib.Tactic.Tauto

namespace KeyedList

variable {α κ : Type*} [DecidableEq κ] (key : α → κ)

/-- Replace the row with the key of `e`, or append `e`. -/
def upsert (e : α) (l : List α) : List α :=
  if key e ∈ l.map key then l.map fun x => if key x = key e then e else x
  else l ++ [e]

variable {key} {e f : α} {l : List α}

theorem upsert_of_mem (h : key e ∈ l.map key) :
    upsert key e l = l.map fun x => if key x = key e then e else x := if_pos h

theorem upsert_of_not_mem (h : key e ∉ l.map key) : upsert key e l = l ++ [e] := if_neg h

/-- Rows with other keys are left alone by the replacement. -/
theorem map_replace_of_forall_ne (h : ∀ x ∈ l, key x ≠ key e) :
    (l.map fun x => if key x = key e then e else x) = l := by
  refine (List.map_congr_left fun x hx => ?_).trans (List.map_id l)
  exact if_neg (h x hx)

/-- **The place of an upsert**: at the one row with the key, or at the end. -/
theorem upsert_spec (hl : (l.map key).Nodup) :
    (∃ pre old post, l = pre ++ old :: post ∧ key old = key e ∧
        (∀ x ∈ pre ++ post, key x ≠ key e) ∧ upsert key e l = pre ++ e :: post) ∨
      (∀ x ∈ l, key x ≠ key e) ∧ upsert key e l = l ++ [e] := by
  by_cases h : key e ∈ l.map key
  · left
    obtain ⟨old, hold, hkey⟩ := List.mem_map.mp h
    obtain ⟨pre, post, rfl⟩ := List.append_of_mem hold
    rw [List.map_append, List.map_cons, List.nodup_append] at hl
    obtain ⟨-, hpost, hdisj⟩ := hl
    have hpre : ∀ x ∈ pre, key x ≠ key e := fun x hx =>
      hkey ▸ hdisj (key x) (List.mem_map_of_mem hx) (key old) (by simp)
    have hpost : ∀ x ∈ post, key x ≠ key e := fun x hx heq =>
      (List.nodup_cons.mp hpost).1 (hkey.trans heq.symm ▸ List.mem_map_of_mem hx)
    refine ⟨pre, old, post, rfl, hkey, ?_, ?_⟩
    · intro x hx
      rcases List.mem_append.mp hx with hx | hx
      · exact hpre x hx
      · exact hpost x hx
    · rw [upsert_of_mem h, List.map_append, List.map_cons, if_pos hkey,
        map_replace_of_forall_ne hpre, map_replace_of_forall_ne hpost]
  · right
    refine ⟨fun x hx heq => h (heq ▸ List.mem_map_of_mem hx), upsert_of_not_mem h⟩

/-- The rows after an upsert. -/
theorem mem_upsert (hl : (l.map key).Nodup) {x : α} :
    x ∈ upsert key e l ↔ x = e ∨ (x ∈ l ∧ key x ≠ key e) := by
  rcases upsert_spec (e := e) hl with ⟨pre, old, post, rfl, hkey, hother, heq⟩ | ⟨hother, heq⟩
  · rw [heq]
    simp only [List.mem_append, List.mem_cons] at hother ⊢
    constructor
    · rintro (h | rfl | h)
      · exact Or.inr ⟨Or.inl h, hother x (Or.inl h)⟩
      · exact Or.inl rfl
      · exact Or.inr ⟨Or.inr (Or.inr h), hother x (Or.inr h)⟩
    · rintro (rfl | ⟨h | rfl | h, hne⟩)
      · exact Or.inr (Or.inl rfl)
      · exact Or.inl h
      · exact absurd hkey hne
      · exact Or.inr (Or.inr h)
  · rw [heq, List.mem_append, List.mem_singleton]
    constructor
    · rintro (h | rfl)
      · exact Or.inr ⟨h, hother x h⟩
      · exact Or.inl rfl
    · rintro (rfl | ⟨h, -⟩)
      · exact Or.inr rfl
      · exact Or.inl h

theorem mem_upsert_self (hl : (l.map key).Nodup) : e ∈ upsert key e l :=
  (mem_upsert hl).mpr (Or.inl rfl)

/-- Distinct keys stay distinct. -/
theorem nodup_upsert (hl : (l.map key).Nodup) : ((upsert key e l).map key).Nodup := by
  rcases upsert_spec (e := e) hl with ⟨pre, old, post, rfl, hkey, -, heq⟩ | ⟨hother, heq⟩
  · rw [heq, List.map_append, List.map_cons, ← hkey, ← List.map_cons, ← List.map_append]
    exact hl
  · rw [heq, List.map_append, List.nodup_append]
    refine ⟨hl, by simp, ?_⟩
    rintro k hk k' hk' rfl
    obtain ⟨x, hx, rfl⟩ := List.mem_map.mp hk
    exact hother x hx (by simpa using hk')

/-- A row that is there is put where it is. -/
theorem upsert_of_mem_self (hl : (l.map key).Nodup) (h : e ∈ l) : upsert key e l = l := by
  rw [upsert_of_mem (List.mem_map_of_mem h)]
  refine (List.map_congr_left fun x hx => ?_).trans (List.map_id l)
  by_cases hkey : key x = key e
  · rw [if_pos hkey, List.inj_on_of_nodup_map hl hx h hkey, id]
  · exact if_neg hkey

/-- Two rows with different keys may be put in either order. -/
theorem mem_upsert_comm (hl : (l.map key).Nodup) (hef : key e ≠ key f) {x : α} :
    x ∈ upsert key f (upsert key e l) ↔ x ∈ upsert key e (upsert key f l) := by
  rw [mem_upsert (nodup_upsert hl), mem_upsert hl, mem_upsert (nodup_upsert hl), mem_upsert hl]
  constructor
  · rintro (rfl | ⟨rfl | ⟨hx, he⟩, hf⟩)
    · exact Or.inr ⟨Or.inl rfl, hef.symm⟩
    · exact Or.inl rfl
    · exact Or.inr ⟨Or.inr ⟨hx, hf⟩, he⟩
  · rintro (rfl | ⟨rfl | ⟨hx, hf⟩, he⟩)
    · exact Or.inr ⟨Or.inl rfl, hef⟩
    · exact Or.inl rfl
    · exact Or.inr ⟨Or.inr ⟨hx, he⟩, hf⟩

/-- In a dictionary with distinct keys the lookup finds exactly what is there. -/
theorem lookup_eq_some_iff_mem {κ β : Type*} [BEq κ] [LawfulBEq κ] {d : List (κ × β)}
    (hd : (d.map Prod.fst).Nodup) {k : κ} {b : β} : d.lookup k = some b ↔ (k, b) ∈ d := by
  rw [List.lookup_eq_some_iff]
  constructor
  · rintro ⟨l₁, l₂, rfl, -⟩
    simp
  · intro h
    obtain ⟨l₁, l₂, rfl⟩ := List.append_of_mem h
    refine ⟨l₁, l₂, rfl, fun p hp => ?_⟩
    rw [List.map_append, List.nodup_append] at hd
    have hne := hd.2.2 p.1 (List.mem_map_of_mem hp) k (by simp)
    simpa using hne.symm

end KeyedList

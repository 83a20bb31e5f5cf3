/-
SkillsSdk/Lib/KeyedRuns.lean

A table after a run of upserts.

`puts key es l` upserts the rows `es`, one after the other.  The keys stay
distinct (`nodup_puts`), and the table holds the last row that was put for a key,
or else the row that stood there before (`mem_puts`).
-/
import Mathlib.Data.List.Induction
import SkillsSdk.Lib.KeyedList

namespace KeyedList

variable {α κ : Type*} [DecidableEq κ] (key : α → κ)

/-- Put the rows, the first one first. -/
def puts (es l : List α) : List α := es.foldl (fun l e => upsert key e l) l

variable {key} {e : α} {es l : List α}

@[simp]
theorem puts_nil : puts key [] l = l := rfl

@[simp]
theorem puts_append_singleton : puts key (es ++ [e]) l = upsert key e (puts key es l) := by
  rw [puts, List.foldl_append]
  rfl

theorem nodup_puts (hl : (l.map key).Nodup) : ((puts key es l).map key).Nodup := by
  induction es using List.reverseRecOn with
  | nil => exact hl
  | append_singleton es e ih =>
      rw [puts_append_singleton]
      exact nodup_upsert ih

/-- The row is put, and no later row has its key. -/
def LastPut (key : α → κ) (es : List α) (x : α) : Prop :=
  ∃ earlier later, es = earlier ++ x :: later ∧ ∀ y ∈ later, key y ≠ key x

omit [DecidableEq κ] in
theorem lastPut_append_singleton {x : α} :
    LastPut key (es ++ [e]) x ↔ x = e ∨ (LastPut key es x ∧ key x ≠ key e) := by
  constructor
  · rintro ⟨earlier, later, heq, hlater⟩
    rcases List.eq_nil_or_concat later with rfl | ⟨later, y, rfl⟩
    · obtain ⟨-, hlast⟩ := List.append_inj' heq rfl
      exact Or.inl (List.singleton_inj.mp hlast).symm
    · rw [List.concat_eq_append, ← List.cons_append, ← List.append_assoc] at heq
      obtain ⟨rfl, hlast⟩ := List.append_inj' heq rfl
      obtain rfl := List.singleton_inj.mp hlast
      refine Or.inr ⟨⟨earlier, later, rfl, fun y hy => hlater y ?_⟩, (hlater e ?_).symm⟩
      · rw [List.concat_eq_append]
        exact List.mem_append_left _ hy
      · rw [List.concat_eq_append]
        exact List.mem_append_right _ (List.mem_singleton_self e)
  · rintro (rfl | ⟨⟨earlier, later, rfl, hlater⟩, hne⟩)
    · exact ⟨es, [], rfl, fun y hy => absurd hy List.not_mem_nil⟩
    · refine ⟨earlier, later ++ [e], by simp, fun y hy => ?_⟩
      rcases List.mem_append.mp hy with hy | hy
      · exact hlater y hy
      · obtain rfl := List.mem_singleton.mp hy
        exact hne.symm

/-- **The rows after a run**: the last row of each key that was put, and of every
other key the row that stood there. -/
theorem mem_puts (hl : (l.map key).Nodup) {x : α} :
    x ∈ puts key es l ↔ LastPut key es x ∨ (x ∈ l ∧ ∀ y ∈ es, key y ≠ key x) := by
  induction es using List.reverseRecOn with
  | nil =>
      constructor
      · exact fun h => Or.inr ⟨h, fun y hy => absurd hy List.not_mem_nil⟩
      · rintro (⟨earlier, later, heq, -⟩ | ⟨h, -⟩)
        · exact absurd heq.symm (by simp)
        · exact h
  | append_singleton es e ih =>
      rw [puts_append_singleton, mem_upsert (nodup_puts hl), ih, lastPut_append_singleton]
      constructor
      · rintro (rfl | ⟨hlast | ⟨hx, hes⟩, hne⟩)
        · exact Or.inl (Or.inl rfl)
        · exact Or.inl (Or.inr ⟨hlast, hne⟩)
        · refine Or.inr ⟨hx, fun y hy => ?_⟩
          rcases List.mem_append.mp hy with hy | hy
          · exact hes y hy
          · obtain rfl := List.mem_singleton.mp hy
            exact hne.symm
      · rintro ((rfl | ⟨hlast, hne⟩) | ⟨hx, hes⟩)
        · exact Or.inl rfl
        · exact Or.inr ⟨Or.inl hlast, hne⟩
        · refine Or.inr ⟨Or.inr ⟨hx, fun y hy => hes y (List.mem_append_left _ hy)⟩, ?_⟩
          exact (hes e (List.mem_append_right _ (List.mem_singleton_self e))).symm

end KeyedList

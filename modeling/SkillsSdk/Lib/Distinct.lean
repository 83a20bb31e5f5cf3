/-
SkillsSdk/Lib/Distinct.lean

Appending values one by one to a list that keeps each only once.

`addNew` is one round of such a loop.  Run over a list it leaves what
`List.eraseDups` leaves (`foldl_addNew_nil`): every value at the place of its
first occurrence.
-/
import Mathlib.Data.List.Nodup

namespace Distinct

variable {α : Type*} [BEq α]

/-- `if a not in acc: acc.append(a)`. -/
def addNew (acc : List α) (a : α) : List α := if acc.contains a then acc else acc ++ [a]

variable [LawfulBEq α]

theorem nodup_addNew {acc : List α} {a : α} (h : acc.Nodup) : (addNew acc a).Nodup := by
  rw [addNew]
  split
  · exact h
  · rename_i ha
    refine List.nodup_append.mpr ⟨h, List.nodup_singleton a, ?_⟩
    rintro b hb c hc rfl
    obtain rfl := List.mem_singleton.mp hc
    exact ha (List.contains_iff_mem.mpr hb)

/-- The loop leaves what it started from, and the new values in the order of
their first occurrence. -/
theorem foldl_addNew (l acc : List α) :
    l.foldl addNew acc = acc ++ (l.filter fun a => !acc.contains a).eraseDups := by
  induction l generalizing acc with
  | nil => simp
  | cons a l ih =>
    rw [List.foldl_cons, ih]
    by_cases h : acc.contains a = true
    · rw [addNew, if_pos h, List.filter_cons_of_neg (by simpa using h)]
    · have hfilter : ((l.filter fun b => !acc.contains b).filter fun b => !b == a) =
          l.filter fun b => !(acc ++ [a]).contains b := by
        rw [List.filter_filter]
        refine List.filter_congr fun b _ => ?_
        rw [List.contains_append, Bool.not_or, Bool.and_comm]
        simp
      rw [addNew, if_neg h, List.filter_cons_of_pos (by simpa using h), List.eraseDups_cons, hfilter,
        List.append_assoc]
      rfl

theorem foldl_addNew_nil (l : List α) : l.foldl addNew [] = l.eraseDups := by
  rw [foldl_addNew]
  simp

theorem nodup_foldl_addNew {l acc : List α} (h : acc.Nodup) : (l.foldl addNew acc).Nodup := by
  induction l generalizing acc with
  | nil => exact h
  | cons a l ih => exact ih (nodup_addNew h)

theorem nodup_eraseDups (l : List α) : l.eraseDups.Nodup :=
  foldl_addNew_nil l ▸ nodup_foldl_addNew List.nodup_nil

end Distinct

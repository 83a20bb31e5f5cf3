/-
SkillsSdk/Lib/Segments.lean

The segments of a list between the occurrences of a separator.

`List.splitOn` and `List.intercalate` are the library's; here is what they do
to an append.  Two lists written one after the other share one segment, the
last of the first glued to the first of the second (`splitOn_append`).
-/
import Mathlib.Algebra.Ring.Nat
import Mathlib.Data.List.Basic

namespace Segments

variable {α : Type*}

/-- Two lists of segments, the last of the first joined to the first of the second. -/
def glue : List (List α) → List (List α) → List (List α)
  | [], ts => ts
  | [s], [] => [s]
  | [s], t :: ts => (s ++ t) :: ts
  | s :: ss, ts => s :: glue ss ts

theorem glue_cons {s : List α} {ss ts : List (List α)} (h : ss ≠ []) :
    glue (s :: ss) ts = s :: glue ss ts := by
  rcases ss with - | ⟨r, ss⟩
  · exact absurd rfl h
  · simp [glue]

/-- A segment of a glued list is a segment of a side, or the joint. -/
theorem mem_glue {s : List α} {ss ts : List (List α)} (h : s ∈ glue ss ts) :
    s ∈ ss ∨ s ∈ ts ∨ ∃ a ∈ ss, ∃ b ∈ ts.head?, s = a ++ b := by
  induction ss with
  | nil => exact Or.inr (Or.inl h)
  | cons r ss ih =>
    rcases ss with - | ⟨q, ss⟩
    · rcases ts with - | ⟨t, ts⟩
      · exact Or.inl h
      · rcases List.mem_cons.mp h with rfl | h
        · exact Or.inr (Or.inr ⟨r, by simp, t, by simp, rfl⟩)
        · exact Or.inr (Or.inl (List.mem_cons_of_mem _ h))
    · rw [glue_cons (by simp)] at h
      rcases List.mem_cons.mp h with rfl | h
      · exact Or.inl (by simp)
      · rcases ih h with h | h | ⟨a, ha, b, hb, rfl⟩
        · exact Or.inl (List.mem_cons_of_mem _ h)
        · exact Or.inr (Or.inl h)
        · exact Or.inr (Or.inr ⟨a, List.mem_cons_of_mem _ ha, b, hb, rfl⟩)

theorem head?_glue {ss ts : List (List α)} {s : List α} (h : s ∈ (glue ss ts).head?) :
    s ∈ ss.head? ∨ s ∈ ts.head? ∨ ∃ a ∈ ss.head?, ∃ b ∈ ts.head?, s = a ++ b := by
  rcases ss with - | ⟨r, ss⟩
  · exact Or.inr (Or.inl h)
  · rcases ss with - | ⟨q, ss⟩
    · rcases ts with - | ⟨t, ts⟩
      · exact Or.inl h
      · exact Or.inr (Or.inr ⟨r, rfl, t, rfl, by simpa [glue] using h.symm⟩)
    · rw [glue_cons (by simp)] at h
      exact Or.inl h

/-- Segments are joined in two parts with the separator between them. -/
theorem intercalate_append {a : α} {ts us : List (List α)} (ht : ts ≠ []) (hu : us ≠ []) :
    List.intercalate [a] (ts ++ us) = List.intercalate [a] ts ++ a :: List.intercalate [a] us := by
  induction ts with
  | nil => exact absurd rfl ht
  | cons s ts ih =>
    rcases ts with - | ⟨r, ts⟩
    · rw [List.singleton_append, List.intercalate_cons_of_ne_nil hu, List.intercalate_singleton, List.append_assoc,
        List.singleton_append]
    · rw [List.cons_append, List.cons_append, List.intercalate_cons_cons, ← List.cons_append, ih (by simp),
        List.intercalate_cons_cons, List.append_assoc, List.append_assoc, List.append_assoc]

theorem map_intercalate {β : Type*} (f : α → β) (sep : List α) (ts : List (List α)) :
    (List.intercalate sep ts).map f = List.intercalate (sep.map f) (ts.map fun t => t.map f) := by
  induction ts with
  | nil => rfl
  | cons t ts ih =>
    rcases ts with - | ⟨u, ts⟩
    · rw [List.map_singleton, List.intercalate_singleton, List.intercalate_singleton]
    · rw [List.intercalate_cons_cons, List.map_append, List.map_append, ih, List.map_cons, List.map_cons,
        List.map_cons, List.intercalate_cons_cons]

theorem mem_intercalate_of_mem {c : α} {sep t : List α} {ts : List (List α)} (ht : t ∈ ts) (hc : c ∈ t) :
    c ∈ List.intercalate sep ts := by
  induction ts with
  | nil => cases ht
  | cons u ts ih =>
    rcases ts with - | ⟨v, ts⟩
    · obtain rfl := List.mem_singleton.mp ht
      rwa [List.intercalate_singleton]
    · rw [List.intercalate_cons_cons]
      rcases List.mem_cons.mp ht with rfl | ht
      · exact List.mem_append_left _ (List.mem_append_left _ hc)
      · exact List.mem_append_right _ (ih ht)

theorem length_intercalate (sep : List α) (ts : List (List α)) :
    (List.intercalate sep ts).length = (ts.map List.length).sum + sep.length * (ts.length - 1) := by
  induction ts with
  | nil => rfl
  | cons t ts ih =>
    rcases ts with - | ⟨u, ts⟩
    · simp
    · rw [List.intercalate_cons_cons, List.length_append, List.length_append, ih]
      simp only [List.map_cons, List.sum_cons, List.length_cons, Nat.add_sub_cancel, Nat.mul_succ]
      omega

variable [DecidableEq α]

/-- No segment contains the separator. -/
theorem not_mem_of_mem_splitOn {a : α} {l s : List α} (h : s ∈ l.splitOn a) : a ∉ s := by
  induction l generalizing s with
  | nil => simp_all
  | cons c l ih =>
    rw [List.splitOn_cons_eq_if_modifyHead] at h
    split at h
    · rcases List.mem_cons.mp h with rfl | h
      · simp
      · exact ih h
    · rename_i hc
      rcases hs : l.splitOn a with - | ⟨t, ts⟩
      · exact absurd hs (List.splitOn_ne_nil _ _)
      · rw [hs, List.modifyHead_cons] at h
        rcases List.mem_cons.mp h with rfl | h
        · have : a ≠ c := fun hac => hc (by simp [hac])
          simp [this, ih (s := t) (by simp [hs])]
        · exact ih (by simp [hs, h])

/-- The segments of an append. -/
theorem splitOn_append (a : α) (u v : List α) :
    (u ++ v).splitOn a = glue (u.splitOn a) (v.splitOn a) := by
  induction u with
  | nil =>
    rcases hv : v.splitOn a with - | ⟨t, ts⟩
    · exact absurd hv (List.splitOn_ne_nil _ _)
    · simp [hv, glue]
  | cons c u ih =>
    have hne := List.splitOn_ne_nil a u
    simp only [List.cons_append, List.splitOn_cons_eq_if_modifyHead, ih]
    split
    · rw [glue_cons hne]
    · rcases hu : u.splitOn a with - | ⟨s, ss⟩
      · exact absurd hu hne
      · rcases ss with - | ⟨r, ss⟩
        · rcases hv : v.splitOn a with - | ⟨t, ts⟩
          · exact absurd hv (List.splitOn_ne_nil _ _)
          · simp [glue]
        · simp [glue_cons]

/-- Every letter of a list is the separator or a letter of a segment. -/
theorem mem_iff_of_splitOn {a c : α} (hc : c ≠ a) {l : List α} :
    c ∈ l ↔ ∃ s ∈ l.splitOn a, c ∈ s := by
  induction l with
  | nil => simp
  | cons d l ih =>
    rw [List.splitOn_cons_eq_if_modifyHead, List.mem_cons, ih]
    split
    · rename_i hd
      have : c ≠ d := by rintro rfl; exact hc (by simpa using hd)
      simp [this]
    · rcases hs : l.splitOn a with - | ⟨t, ts⟩
      · exact absurd hs (List.splitOn_ne_nil _ _)
      · simp [or_assoc]

end Segments

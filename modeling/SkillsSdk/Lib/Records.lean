/-
SkillsSdk/Lib/Records.lean

Records written one after the other, each a key and a tag, each field closed by
the same letter `z`.

Without `z` inside the fields the writing can be read back
(`encode_injective_of_free`).  With `z` allowed inside keys it cannot: any list
of records is written like the one record with its last tag and with everything
before that tag as its key (`encode_concat`).
-/
import Mathlib.Data.List.Basic
import Mathlib.Data.List.Induction

namespace Records

variable {α : Type*} (z : α)

/-- The records, each field closed by `z`. -/
def encode (rs : List (List α × List α)) : List α :=
  rs.flatMap fun r => r.1 ++ z :: (r.2 ++ [z])

variable {z}

@[simp] theorem encode_nil : encode z [] = [] := rfl

theorem encode_cons (r : List α × List α) (rs : List (List α × List α)) :
    encode z (r :: rs) = r.1 ++ z :: (r.2 ++ z :: encode z rs) := by
  simp [encode]

/-- **One record imitates many**: a list of records is written like a single one. -/
theorem encode_concat (rs : List (List α × List α)) (key tag : List α) :
    encode z (rs ++ [(key, tag)]) = encode z [(encode z rs ++ key, tag)] := by
  simp [encode]

/-- A single record can be read back when the length of its tag is known. -/
theorem encode_singleton_inj {key key' tag tag' : List α} (hlen : tag.length = tag'.length) :
    encode z [(key, tag)] = encode z [(key', tag')] ↔ key = key' ∧ tag = tag' := by
  simp only [encode_cons, encode_nil]
  constructor
  · intro h
    obtain ⟨hkey, htail⟩ := List.append_inj' h (by simp [hlen])
    obtain ⟨-, htail⟩ := List.cons.inj htail
    exact ⟨hkey, (List.append_inj' htail rfl).1⟩
  · rintro ⟨rfl, rfl⟩
    rfl

/-- The first `z` of a list is where a part without `z` ends. -/
theorem append_cons_inj_of_free {u u' v v' : List α} (hu : z ∉ u) (hu' : z ∉ u')
    (h : u ++ z :: v = u' ++ z :: v') : u = u' ∧ v = v' := by
  induction u generalizing u' with
  | nil =>
    rcases u' with - | ⟨c, u'⟩
    · exact ⟨rfl, (List.cons.inj h).2⟩
    · exact absurd (List.cons.inj h).1 (by rintro rfl; simp at hu')
  | cons c u ih =>
    rcases u' with - | ⟨c', u'⟩
    · exact absurd (List.cons.inj h).1 (by rintro rfl; simp at hu)
    · simp only [List.cons_append, List.cons.injEq] at h
      simp only [List.mem_cons, not_or] at hu hu'
      obtain ⟨rfl, rfl⟩ := ih hu.2 hu'.2 h.2
      exact ⟨by rw [h.1], rfl⟩

/-- Records without the closing letter can be read back. -/
theorem encode_injective_of_free {rs ss : List (List α × List α)}
    (hrs : ∀ r ∈ rs, z ∉ r.1 ∧ z ∉ r.2) (hss : ∀ s ∈ ss, z ∉ s.1 ∧ z ∉ s.2)
    (h : encode z rs = encode z ss) : rs = ss := by
  induction rs generalizing ss with
  | nil =>
    rcases ss with - | ⟨s, ss⟩
    · rfl
    · simp [encode_cons] at h
  | cons r rs ih =>
    rcases ss with - | ⟨s, ss⟩
    · simp [encode_cons] at h
    · obtain ⟨hr₁, hr₂⟩ := hrs r (by simp)
      obtain ⟨hs₁, hs₂⟩ := hss s (by simp)
      rw [encode_cons, encode_cons] at h
      obtain ⟨hkey, h⟩ := append_cons_inj_of_free hr₁ hs₁ h
      obtain ⟨htag, h⟩ := append_cons_inj_of_free hr₂ hs₂ h
      rw [Prod.ext hkey htag, ih (fun r hr => hrs r (by simp [hr])) (fun s hs => hss s (by simp [hs])) h]

/-- A list of records written like a single one ends with its tag, and what comes
before spells its key. -/
theorem encode_eq_singleton {rs : List (List α × List α)} {key tag : List α}
    (hlen : ∀ r ∈ rs, r.2.length = tag.length) (h : encode z rs = encode z [(key, tag)]) :
    ∃ init last, rs = init ++ [(last, tag)] ∧ key = encode z init ++ last := by
  rcases List.eq_nil_or_concat rs with rfl | ⟨init, ⟨last, tag'⟩, rfl⟩
  · simp [encode_cons] at h
  · rw [List.concat_eq_append, encode_concat, encode_singleton_inj (hlen (last, tag') (by simp))] at h
    obtain ⟨hkey, rfl⟩ := h
    exact ⟨init, last, List.concat_eq_append, hkey.symm⟩

end Records

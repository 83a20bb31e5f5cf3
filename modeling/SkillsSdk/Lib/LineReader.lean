/-
SkillsSdk/Lib/LineReader.lean

A reader of delimited lines over a stream that arrives in chunks.

The reader keeps what has arrived of the unfinished line, and steps once for
every finished line until a step ends the reading.  A line is too long when it
reaches the limit with its delimiter; what is pending is looked at as well, so a
line that never ends is noticed too.

`whole` reads a stream that is there at once.  Reading is reading the whole
(`read_eq_whole`), wherever the stream is cut, as long as no chunk is longer than
the limit: behind the last delimiter of a longer chunk the pending part could
exceed the limit without being looked at.
-/
import Mathlib.Data.List.Basic
import Mathlib.Tactic.Common

namespace LineReader

variable {α σ ρ : Type*} [DecidableEq α]

/-! ### Cutting -/

/-- What stands before and behind the first delimiter. -/
def cut (delim : α) : List α → Option (List α × List α)
  | [] => none
  | a :: s => if a = delim then some ([], s) else (cut delim s).map fun p => (a :: p.1, p.2)

variable {delim : α}

theorem cut_of_not_mem {s : List α} (h : delim ∉ s) : cut delim s = none := by
  induction s with
  | nil => rfl
  | cons a s ih =>
    rw [List.mem_cons, not_or] at h
    rw [cut, if_neg (Ne.symm h.1), ih h.2]
    rfl

theorem cut_line {line : List α} (h : delim ∉ line) (rest : List α) :
    cut delim (line ++ delim :: rest) = some (line, rest) := by
  induction line with
  | nil => exact if_pos rfl
  | cons a line ih =>
    rw [List.mem_cons, not_or] at h
    rw [List.cons_append, cut, if_neg (Ne.symm h.1), ih h.2]
    rfl

theorem length_lt_of_cut {s line rest : List α} (h : cut delim s = some (line, rest)) :
    rest.length < s.length := by
  have hmem : delim ∈ s := by
    by_contra hnot
    rw [cut_of_not_mem hnot] at h
    cases h
  obtain ⟨line', rest', rfl, hline⟩ := List.eq_append_cons_of_mem hmem
  rw [cut_line hline] at h
  obtain ⟨rfl, rfl⟩ := Prod.mk.inj (Option.some.inj h)
  rw [List.length_append, List.length_cons]
  omega

/-! ### Readers -/

/-- What a reader does with a line, with one that is too long, and at the end. -/
structure Reader (α σ ρ : Type*) where
  delim : α
  limit : Nat
  step : σ → List α → σ ⊕ ρ
  overlong : σ → ρ
  ended : σ → ρ

inductive Progress (α σ ρ : Type*) where
  | running (s : σ) (pending : List α)
  | finished (r : ρ)

variable (m : Reader α σ ρ)

/-- The loop over the finished lines. -/
def drain (s : σ) (pending : List α) : Progress α σ ρ :=
  match _ : cut m.delim pending with
  | none => .running s pending
  | some (line, rest) =>
    if m.limit < line.length + 1 then .finished (m.overlong s)
    else
      match m.step s line with
      | .inl s' => drain s' rest
      | .inr r => .finished r
termination_by pending.length
decreasing_by exact length_lt_of_cut ‹_›

/-- One chunk. -/
def receive (s : σ) (pending chunk : List α) : Progress α σ ρ :=
  let pending := pending ++ chunk
  if m.limit < pending.length ∧ m.delim ∉ pending then .finished (m.overlong s) else drain m s pending

/-- The loop over the chunks, up to the end of the stream. -/
def read (s : σ) (pending : List α) : List (List α) → ρ
  | [] => m.ended s
  | chunk :: chunks =>
    match receive m s pending chunk with
    | .running s' pending' => read s' pending' chunks
    | .finished r => r

/-- What is made of what is left. -/
def Progress.close : Progress α σ ρ → ρ
  | .running s rest => if m.limit < rest.length then m.overlong s else m.ended s
  | .finished r => r

/-- A stream that is there at once. -/
def whole (s : σ) (stream : List α) : ρ := (drain m s stream).close m

/-! ### Draining -/

variable {m} {s : σ}

theorem drain_of_not_mem {u : List α} (h : m.delim ∉ u) : drain m s u = .running s u := by
  rw [drain]
  split
  · rfl
  · rename_i line rest hcut
    rw [cut_of_not_mem h] at hcut
    cases hcut

theorem drain_line {line : List α} (h : m.delim ∉ line) (rest : List α) :
    drain m s (line ++ m.delim :: rest) =
      if m.limit < line.length + 1 then .finished (m.overlong s)
      else (m.step s line).elim (fun s' => drain m s' rest) .finished := by
  rw [drain]
  split
  · rename_i hcut
    rw [cut_line h] at hcut
    cases hcut
  · rename_i line' rest' hcut
    rw [cut_line h] at hcut
    obtain ⟨rfl, rfl⟩ := Prod.mk.inj (Option.some.inj hcut)
    rcases m.step s line with s' | r <;> rfl

/-- What a further part of the stream adds. -/
def Progress.extend (m : Reader α σ ρ) (v : List α) : Progress α σ ρ → Progress α σ ρ
  | .running s rest => drain m s (rest ++ v)
  | .finished r => .finished r

/-- The progress of a part of the stream is kept. -/
theorem drain_append (u v : List α) : drain m s (u ++ v) = (drain m s u).extend m v := by
  induction hn : u.length using Nat.strongRecOn generalizing s u with
  | ind n ih =>
    by_cases hmem : m.delim ∈ u
    · obtain ⟨line, rest, rfl, hline⟩ := List.eq_append_cons_of_mem hmem
      rw [List.append_assoc, List.cons_append, drain_line hline, drain_line hline]
      split
      · rfl
      · rcases m.step s line with s' | r
        · refine ih rest.length ?_ rest rfl
          rw [← hn, List.length_append, List.length_cons]
          omega
        · rfl
    · rw [drain_of_not_mem hmem]
      rfl

/-- What is left is the end of what was there, behind the last delimiter. -/
theorem drain_rest {u rest : List α} {s' : σ} (h : drain m s u = .running s' rest) :
    m.delim ∉ rest ∧ rest <:+ u := by
  induction hn : u.length using Nat.strongRecOn generalizing s u with
  | ind n ih =>
    by_cases hmem : m.delim ∈ u
    · obtain ⟨line, rest', rfl, hline⟩ := List.eq_append_cons_of_mem hmem
      rw [drain_line hline] at h
      split at h
      · cases h
      · cases hstep : m.step s line with
        | inr r =>
          rw [hstep] at h
          cases h
        | inl s₁ =>
          rw [hstep] at h
          have hlt : rest'.length < n := by
            rw [← hn, List.length_append, List.length_cons]
            omega
          obtain ⟨hnot, hsuffix⟩ := ih rest'.length hlt h rfl
          refine ⟨hnot, hsuffix.trans ⟨line ++ [m.delim], ?_⟩⟩
          rw [List.append_assoc]
          rfl
    · rw [drain_of_not_mem hmem] at h
      injection h with _ hrest
      rw [← hrest]
      exact ⟨hmem, List.suffix_rfl⟩

/-! ### Reading -/

/-- A line that has grown too long is too long however it goes on. -/
theorem whole_overlong {u : List α} (hu : m.delim ∉ u) (hlen : m.limit < u.length) (v : List α) :
    whole m s (u ++ v) = m.overlong s := by
  by_cases hv : m.delim ∈ v
  · obtain ⟨line, rest, rfl, hline⟩ := List.eq_append_cons_of_mem hv
    have hnot : m.delim ∉ u ++ line := fun h => (List.mem_append.mp h).elim hu hline
    have hlong : m.limit < (u ++ line).length + 1 := by
      rw [List.length_append]
      omega
    rw [whole, ← List.append_assoc, drain_line hnot, if_pos hlong]
    rfl
  · have hnot : m.delim ∉ u ++ v := fun h => (List.mem_append.mp h).elim hu hv
    have hlong : m.limit < (u ++ v).length := by
      rw [List.length_append]
      omega
    rw [whole, drain_of_not_mem hnot]
    exact if_pos hlong

/-- What is pending after a chunk is short enough to be looked at. -/
theorem receive_pending {pending chunk rest : List α} {s' : σ} (hpending : m.delim ∉ pending)
    (hchunk : chunk.length ≤ m.limit) (h : receive m s pending chunk = .running s' rest) :
    m.delim ∉ rest ∧ rest.length ≤ m.limit ∧ drain m s (pending ++ chunk) = .running s' rest := by
  rw [receive] at h
  split at h
  case isTrue => cases h
  case isFalse hlook =>
    obtain ⟨hnot, hsuffix⟩ := drain_rest h
    refine ⟨hnot, ?_, h⟩
    by_cases hmem : m.delim ∈ pending ++ chunk
    · -- the last delimiter stands in the chunk, so what is left is shorter than the chunk
      have hchunkmem : m.delim ∈ chunk := (List.mem_append.mp hmem).resolve_left hpending
      by_contra hlong
      have hle : chunk.length ≤ rest.length := by omega
      have hsub : chunk <:+ rest :=
        List.suffix_of_suffix_length_le (List.suffix_append pending chunk) hsuffix hle
      exact hnot (hsub.mem hchunkmem)
    · rw [not_and_or, not_not] at hlook
      have hshort := Nat.not_lt.mp (hlook.resolve_right hmem)
      exact Nat.le_trans hsuffix.length_le hshort

/-- **Reading is reading the whole**, wherever the stream is cut. -/
theorem read_eq_whole {pending : List α} {chunks : List (List α)} (hpending : m.delim ∉ pending)
    (hlen : pending.length ≤ m.limit) (hchunks : ∀ chunk ∈ chunks, chunk.length ≤ m.limit) :
    read m s pending chunks = whole m s (pending ++ chunks.flatten) := by
  induction chunks generalizing s pending with
  | nil =>
    rw [List.flatten_nil, List.append_nil, whole, drain_of_not_mem hpending]
    exact (if_neg (Nat.not_lt.mpr hlen)).symm
  | cons chunk chunks ih =>
    obtain ⟨hchunk, hchunks⟩ := List.forall_mem_cons.mp hchunks
    rw [List.flatten_cons, ← List.append_assoc, read]
    cases hreceive : receive m s pending chunk with
    | running s' rest =>
      -- what is pending holds no delimiter, so the next chunk goes on from it
      obtain ⟨hnot, hshort, hdrain⟩ := receive_pending hpending hchunk hreceive
      show read m s' rest chunks = _
      rw [ih hnot hshort hchunks, whole, whole, drain_append (pending ++ chunk), hdrain]
      rfl
    | finished r =>
      rw [receive] at hreceive
      split at hreceive
      case isTrue hlook =>
        show r = _
        rw [whole_overlong hlook.2 hlook.1]
        injection hreceive with hr
        exact hr.symm
      case isFalse =>
        show r = _
        rw [whole, drain_append, hreceive]
        rfl

end LineReader

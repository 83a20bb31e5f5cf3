/-
SkillsSdk/ZipDirectory.lean

The bounded search for the central directory of an archive.

The search runs backwards over the places in the last 65557 bytes where the
signature of an end record stands, and walks the central records before each.
Two facts make it exact.  An end record whose comment runs to the end of the
archive lies in that window (`ValidAt.window`), and the signature does not
overlap itself, so going on strictly before the last hit misses none
(`eocdSignature_unbordered`).  What the loop has seen so far is `Seen`; the
result is `preflightCentralDirectory_exact`.

    Directory s policy o   the format's conditions on an end record at `o`
    ValidAt s policy o     these, and the declared offset is not past the start
-/
import SkillsSdk.Lib.Bytes
import SkillsSdk.Models.Archive

namespace SkillsSdk

open Bytes

/-! ### The search as the program runs it -/

def eocdSignature : List UInt8 := [0x50, 0x4b, 0x05, 0x06]
def eocdSize : Nat := 22
def centralSignature : List UInt8 := [0x50, 0x4b, 0x01, 0x02]
def centralHeaderSize : Nat := 46
def maxZipCommentBytes : Nat := 65535

/-- The fields of an end-of-central-directory record after its signature. -/
structure EndRecord where
  disk : Nat
  centralDisk : Nat
  diskEntries : Nat
  totalEntries : Nat
  size : Nat
  directoryOffset : Nat
  commentSize : Nat

/-- `struct.unpack_from("<HHHHIIH", snapshot, i)`. -/
def unpackEndRecord (snapshot : List UInt8) (i : Nat) : Except StructError EndRecord := do
  return {
    disk := ← unpackLe 2 snapshot i
    centralDisk := ← unpackLe 2 snapshot (i + 2)
    diskEntries := ← unpackLe 2 snapshot (i + 4)
    totalEntries := ← unpackLe 2 snapshot (i + 6)
    size := ← unpackLe 4 snapshot (i + 8)
    directoryOffset := ← unpackLe 4 snapshot (i + 12)
    commentSize := ← unpackLe 2 snapshot (i + 16) }

/-- The loop of `_valid_central_directory_at` over the central records. -/
def walkRecords (snapshot : List UInt8) (limit total offset cursor observed : Nat) :
    Except StructError Bool :=
  if cursor < offset then
    if offset < cursor + centralHeaderSize ∨ ¬ OccursAt centralSignature snapshot cursor then
      .ok false
    else do
      let nameSize ← unpackLe 2 snapshot (cursor + 28)
      let extraSize ← unpackLe 2 snapshot (cursor + 30)
      let commentSize ← unpackLe 2 snapshot (cursor + 32)
      let next := cursor + (centralHeaderSize + nameSize + extraSize + commentSize)
      if offset < next ∨ limit < observed + 1 then
        .ok false
      else
        walkRecords snapshot limit total offset next (observed + 1)
  else
    .ok (cursor == offset && observed == total)
termination_by offset - cursor
decreasing_by
  have : 0 < centralHeaderSize := by decide
  omega

variable (snapshot : List UInt8) (policy : PackageArchiveVerificationPolicy)

/-- `_valid_central_directory_at`. -/
def validCentralDirectoryAt (offset : Nat) : Except StructError Bool :=
  if snapshot.length < offset + eocdSize then
    .ok false
  else do
    let r ← unpackEndRecord snapshot (offset + 4)
    if offset + eocdSize + r.commentSize ≠ snapshot.length then
      .ok false
    else if r.disk ≠ 0 ∨ r.centralDisk ≠ 0 ∨ r.diskEntries ≠ r.totalEntries then
      .ok false
    else if r.totalEntries = 0xFFFF ∨ r.size = 0xFFFFFFFF ∨ r.directoryOffset = 0xFFFFFFFF then
      .ok false
    else if policy.maxEntryCount < r.totalEntries ∨ offset < r.size ∨
        offset - r.size < r.directoryOffset then
      .ok false
    else
      walkRecords snapshot policy.maxEntryCount r.totalEntries offset (offset - r.size) 0

/-- The loop of `_preflight_central_directory`, with `stop` where the last hit was. -/
def searchBack (searchStart stop : Nat) (nonempty empty : Option Nat) :
    Except StructError (Option Nat) :=
  match h : rfind eocdSignature snapshot searchStart stop with
  | none => .ok (nonempty.or empty)
  | some offset => do
    if ← validCentralDirectoryAt snapshot policy offset then
      if (← unpackLe 2 snapshot (offset + 10)) ≠ 0 then
        if nonempty ≠ none then
          .ok none
        else
          searchBack searchStart offset (some offset) empty
      else
        searchBack searchStart offset nonempty (some offset)
    else
      searchBack searchStart offset nonempty empty
termination_by stop
decreasing_by
  all_goals
    have := (rfind_eq_some_iff.mp h).1.2.1
    have : 0 < eocdSignature.length := by decide
    omega

/-- `_preflight_central_directory`. -/
def preflightCentralDirectory : Except StructError (Option Nat) :=
  searchBack snapshot policy (snapshot.length - eocdSize - maxZipCommentBytes) snapshot.length
    none none

/-! ### What a valid end record is -/

/-- Where the central record at `i` ends. -/
def recordEnd (i : Nat) : Nat :=
  i + (centralHeaderSize + leAt 2 snapshot (i + 28) + leAt 2 snapshot (i + 30) +
    leAt 2 snapshot (i + 32))

/-- `n` contiguous central records lead from `i` exactly to `j`. -/
inductive CentralWalk : Nat → Nat → Nat → Prop
  | done (i : Nat) : CentralWalk i 0 i
  | record {i n j : Nat} : OccursAt centralSignature snapshot i →
      CentralWalk (recordEnd snapshot i) n j → CentralWalk i (n + 1) j

/-- The number of entries that an end record at `o` declares. -/
def declaredCount (o : Nat) : Nat := leAt 2 snapshot (o + 10)

/-- The size of the directory that an end record at `o` declares. -/
def declaredSize (o : Nat) : Nat := leAt 4 snapshot (o + 12)

/-- The format's conditions on an end record at `o`: signature, comment to the
end, one disk, not ZIP64, and the declared central records right before it. -/
structure Directory (o : Nat) : Prop where
  signature : OccursAt eocdSignature snapshot o
  comment : o + eocdSize + leAt 2 snapshot (o + 20) = snapshot.length
  single_disk : leAt 2 snapshot (o + 4) = 0 ∧ leAt 2 snapshot (o + 6) = 0 ∧
    leAt 2 snapshot (o + 8) = declaredCount snapshot o
  not_zip64 : declaredCount snapshot o ≠ 0xFFFF ∧ declaredSize snapshot o ≠ 0xFFFFFFFF ∧
    leAt 4 snapshot (o + 16) ≠ 0xFFFFFFFF
  within : declaredCount snapshot o ≤ policy.maxEntryCount
  starts : declaredSize snapshot o ≤ o
  walk : CentralWalk snapshot (o - declaredSize snapshot o) (declaredCount snapshot o) o

/-- An end record that the program takes: it also compares the declared offset
of the directory with where the directory starts. -/
structure ValidAt (o : Nat) : Prop extends Directory snapshot policy o where
  offset_le : leAt 4 snapshot (o + 16) ≤ o - declaredSize snapshot o

/-- `o` is the answer among the places in `V`: the only one with entries, or,
when none has entries, the least one. -/
def Answers (V : Nat → Prop) (count : Nat → Nat) (o : Nat) : Prop :=
  (V o ∧ count o ≠ 0 ∧ ∀ j, V j → count j ≠ 0 → j = o) ∨
    ((∀ j, V j → count j = 0) ∧ V o ∧ ∀ j, V j → o ≤ j)

variable {snapshot policy}

/-! ### The walk -/

theorem recordEnd_lt (i : Nat) : i + centralHeaderSize ≤ recordEnd snapshot i := by
  rw [recordEnd]
  omega

theorem CentralWalk.le {i n j : Nat} (h : CentralWalk snapshot i n j) : i ≤ j := by
  induction h with
  | done i => exact Nat.le_refl i
  | @record i n j _ _ ih => exact Nat.le_trans (Nat.le_trans (Nat.le_add_right _ _) (recordEnd_lt i)) ih

/-- A walk that has not arrived reads a record, whose header is before the end. -/
theorem CentralWalk.inversion {i n j : Nat} (h : CentralWalk snapshot i n j) (hij : i < j) :
    ∃ m, n = m + 1 ∧ i + centralHeaderSize ≤ j ∧ OccursAt centralSignature snapshot i ∧
      recordEnd snapshot i ≤ j ∧ CentralWalk snapshot (recordEnd snapshot i) m j := by
  cases h with
  | done => exact absurd hij (Nat.lt_irrefl _)
  | record hsig hrest =>
    exact ⟨_, rfl, Nat.le_trans (recordEnd_lt i) hrest.le, hsig, hrest.le, hrest⟩

/-- A walk that starts at its end, or past it, has nothing to read. -/
theorem CentralWalk.arrived {i n j : Nat} (h : CentralWalk snapshot i n j) (hij : j ≤ i) :
    i = j ∧ n = 0 := by
  cases h with
  | done => exact ⟨rfl, rfl⟩
  | record hsig hrest =>
    have h₁ : i + centralHeaderSize ≤ recordEnd snapshot i := recordEnd_lt i
    have h₂ : recordEnd snapshot i ≤ j := hrest.le
    have h₃ : 0 < centralHeaderSize := by decide
    omega

/-- The three sizes of a record whose header is inside the archive can be read. -/
theorem unpack_sizes {i : Nat} (h : i + centralHeaderSize ≤ snapshot.length) :
    unpackLe 2 snapshot (i + 28) = .ok (leAt 2 snapshot (i + 28)) ∧
      unpackLe 2 snapshot (i + 30) = .ok (leAt 2 snapshot (i + 30)) ∧
      unpackLe 2 snapshot (i + 32) = .ok (leAt 2 snapshot (i + 32)) := by
  have hsize : centralHeaderSize = 46 := rfl
  exact ⟨unpackLe_of_le (by omega), unpackLe_of_le (by omega), unpackLe_of_le (by omega)⟩

/-- The loop over the central records reads inside the archive and answers
whether a walk of the right length ends at the end record. -/
theorem walkRecords_spec {limit total offset : Nat} (hoffset : offset ≤ snapshot.length)
    (htotal : total ≤ limit) (cursor observed : Nat) :
    ∃ b, walkRecords snapshot limit total offset cursor observed = .ok b ∧
      (b = true ↔ ∃ n, observed + n = total ∧ CentralWalk snapshot cursor n offset) := by
  -- on what is left of the directory
  induction hleft : offset - cursor using Nat.strong_induction_on generalizing cursor observed with
  | _ left ih =>
    rw [walkRecords]
    by_cases hcursor : cursor < offset
    · rw [if_pos hcursor]
      by_cases hstop : offset < cursor + centralHeaderSize ∨
          ¬ OccursAt centralSignature snapshot cursor
      · rw [if_pos hstop]
        refine ⟨false, rfl, iff_of_false (by simp) ?_⟩
        rintro ⟨n, -, hwalk⟩
        obtain ⟨m, -, hheader, hsig, -⟩ := hwalk.inversion hcursor
        rcases hstop with h | h
        · omega
        · exact h hsig
      · rw [if_neg hstop]
        rw [not_or, not_not, Nat.not_lt] at hstop
        obtain ⟨h₁, h₂, h₃⟩ := unpack_sizes (Nat.le_trans hstop.1 hoffset)
        rw [h₁, h₂, h₃]
        have hnext : cursor + centralHeaderSize ≤ recordEnd snapshot cursor := recordEnd_lt cursor
        have hpos : 0 < centralHeaderSize := by decide
        show ∃ b, (if offset < recordEnd snapshot cursor ∨ limit < observed + 1 then .ok false
          else walkRecords snapshot limit total offset (recordEnd snapshot cursor) (observed + 1)) =
            .ok b ∧ _
        by_cases hpast : offset < recordEnd snapshot cursor ∨ limit < observed + 1
        · rw [if_pos hpast]
          refine ⟨false, rfl, iff_of_false (by simp) ?_⟩
          rintro ⟨n, hn, hwalk⟩
          obtain ⟨m, rfl, -, -, hend, -⟩ := hwalk.inversion hcursor
          omega
        · rw [if_neg hpast]
          obtain ⟨b, hb, hiff⟩ := ih (offset - recordEnd snapshot cursor) (by omega)
            (recordEnd snapshot cursor) (observed + 1) rfl
          refine ⟨b, hb, hiff.trans ⟨?_, ?_⟩⟩
          · rintro ⟨n, hn, hwalk⟩
            exact ⟨n + 1, by omega, .record hstop.2 hwalk⟩
          · rintro ⟨n, hn, hwalk⟩
            obtain ⟨m, rfl, -, -, -, hrest⟩ := hwalk.inversion hcursor
            exact ⟨m, by omega, hrest⟩
    · rw [if_neg hcursor]
      refine ⟨_, rfl, ?_⟩
      rw [Bool.and_eq_true, beq_iff_eq, beq_iff_eq]
      constructor
      · rintro ⟨rfl, rfl⟩
        exact ⟨0, rfl, .done _⟩
      · rintro ⟨n, hn, hwalk⟩
        obtain ⟨rfl, rfl⟩ := hwalk.arrived (Nat.not_lt.mp hcursor)
        exact ⟨rfl, hn⟩

/-! ### One place -/

theorem unpackEndRecord_of_le {i : Nat} (h : i + 18 ≤ snapshot.length) :
    unpackEndRecord snapshot i = .ok {
      disk := leAt 2 snapshot i
      centralDisk := leAt 2 snapshot (i + 2)
      diskEntries := leAt 2 snapshot (i + 4)
      totalEntries := leAt 2 snapshot (i + 6)
      size := leAt 4 snapshot (i + 8)
      directoryOffset := leAt 4 snapshot (i + 12)
      commentSize := leAt 2 snapshot (i + 16) } := by
  rw [unpackEndRecord, unpackLe_of_le (by omega), unpackLe_of_le (by omega),
    unpackLe_of_le (by omega), unpackLe_of_le (by omega), unpackLe_of_le (by omega),
    unpackLe_of_le (by omega), unpackLe_of_le (by omega)]
  rfl

theorem Directory.fits {o : Nat} (h : Directory snapshot policy o) :
    o + eocdSize ≤ snapshot.length := by
  have := h.comment
  omega

/-- Where the signature stands, the check of a place reads inside the archive
and answers whether the record there is valid. -/
theorem validCentralDirectoryAt_spec {o : Nat} (hsig : OccursAt eocdSignature snapshot o) :
    ∃ b, validCentralDirectoryAt snapshot policy o = .ok b ∧
      (b = true ↔ ValidAt snapshot policy o) := by
  rw [validCentralDirectoryAt]
  by_cases hfits : snapshot.length < o + eocdSize
  · rw [if_pos hfits]
    exact ⟨false, rfl, iff_of_false (by simp) fun h => absurd h.fits (by omega)⟩
  · have hsize : eocdSize = 22 := rfl
    rw [if_neg hfits, unpackEndRecord_of_le (by omega)]
    show ∃ b, (if o + eocdSize + leAt 2 snapshot (o + 20) ≠ snapshot.length then .ok false
      else if leAt 2 snapshot (o + 4) ≠ 0 ∨ leAt 2 snapshot (o + 6) ≠ 0 ∨
          leAt 2 snapshot (o + 8) ≠ declaredCount snapshot o then .ok false
      else if declaredCount snapshot o = 0xFFFF ∨ declaredSize snapshot o = 0xFFFFFFFF ∨
          leAt 4 snapshot (o + 16) = 0xFFFFFFFF then .ok false
      else if policy.maxEntryCount < declaredCount snapshot o ∨ o < declaredSize snapshot o ∨
          o - declaredSize snapshot o < leAt 4 snapshot (o + 16) then .ok false
      else walkRecords snapshot policy.maxEntryCount (declaredCount snapshot o) o
        (o - declaredSize snapshot o) 0) = .ok b ∧ _
    -- one case for each refusal, in the order of the source
    split_ifs with h₁ h₂ h₃ h₄
    · exact ⟨false, rfl, iff_of_false (by simp) fun h => h₁ h.comment⟩
    · refine ⟨false, rfl, iff_of_false (by simp) fun h => ?_⟩
      have := h.single_disk
      tauto
    · refine ⟨false, rfl, iff_of_false (by simp) fun h => ?_⟩
      have := h.not_zip64
      tauto
    · refine ⟨false, rfl, iff_of_false (by simp) fun h => ?_⟩
      have := h.within
      have := h.starts
      have := h.offset_le
      omega
    · have hlimit : declaredCount snapshot o ≤ policy.maxEntryCount := by omega
      have hinside : o ≤ snapshot.length := by omega
      obtain ⟨b, hb, hiff⟩ := walkRecords_spec hinside hlimit (o - declaredSize snapshot o) 0
      refine ⟨b, hb, hiff.trans ⟨?_, fun h => ⟨_, Nat.zero_add _, h.walk⟩⟩⟩
      rintro ⟨n, hn, hwalk⟩
      obtain rfl : n = declaredCount snapshot o := by omega
      rw [not_or, not_or, not_not, not_not, not_not] at h₂
      rw [not_or, not_or] at h₃
      exact ⟨⟨hsig, not_not.mp h₁, h₂, h₃, hlimit, by omega, hwalk⟩, by omega⟩

/-! ### The window and the search -/

theorem eocdSignature_unbordered : Unbordered eocdSignature := by decide

/-- A record whose comment runs to the end lies in the searched window. -/
theorem Directory.window {o : Nat} (h : Directory snapshot policy o) :
    snapshot.length - eocdSize - maxZipCommentBytes ≤ o := by
  have hcomment := h.comment
  have hlt := leAt_lt 2 snapshot (o + 20)
  have hmax : maxZipCommentBytes + 1 = 256 ^ 2 := rfl
  omega

/-- What the search knows when it is about to look below `stop`: the place with
entries, if there is one, and the least place without. -/
structure Seen (V : Nat → Prop) (count : Nat → Nat) (stop : Nat) (nonempty empty : Option Nat) :
    Prop where
  nonempty_iff : ∀ o, nonempty = some o ↔ stop ≤ o ∧ V o ∧ count o ≠ 0
  empty_iff : ∀ o, empty = some o ↔
    (stop ≤ o ∧ V o ∧ count o = 0) ∧ ∀ j, stop ≤ j → V j → count j = 0 → o ≤ j

section

variable {V : Nat → Prop} {count : Nat → Nat} {stop : Nat} {nonempty empty : Option Nat}

/-- At the end of the search all places have been seen. -/
theorem Seen.answer (h : Seen V count stop nonempty empty) (hall : ∀ o, V o → stop ≤ o) (o : Nat) :
    nonempty.or empty = some o ↔ Answers V count o := by
  rcases nonempty with - | o'
  · have hnone : ∀ j, V j → count j = 0 := by
      intro j hj
      by_contra hne
      exact absurd ((h.nonempty_iff j).mpr ⟨hall j hj, hj, hne⟩) (by simp)
    rw [Option.none_or, h.empty_iff]
    constructor
    · rintro ⟨⟨-, hV, -⟩, hleast⟩
      exact Or.inr ⟨hnone, hV, fun j hj => hleast j (hall j hj) hj (hnone j hj)⟩
    · rintro (⟨hV, hne, -⟩ | ⟨-, hV, hleast⟩)
      · exact absurd (hnone o hV) hne
      · exact ⟨⟨hall o hV, hV, hnone o hV⟩, fun j _ hj _ => hleast j hj⟩
  · obtain ⟨-, hV', hne'⟩ := (h.nonempty_iff o').mp rfl
    rw [Option.some_or, Option.some.injEq]
    constructor
    · rintro rfl
      refine Or.inl ⟨hV', hne', fun j hj hne => ?_⟩
      exact (Option.some.inj ((h.nonempty_iff j).mpr ⟨hall j hj, hj, hne⟩)).symm
    · rintro (⟨-, -, honly⟩ | ⟨hnone, -⟩)
      · exact honly o' hV' hne'
      · exact absurd (hnone o' hV') hne'

/-- Two places with entries leave no answer. -/
theorem not_answers_of_two {i j : Nat} (hi : V i) (hj : V j) (hne : i ≠ j) (hi₀ : count i ≠ 0)
    (hj₀ : count j ≠ 0) (o : Nat) : ¬ Answers V count o := by
  rintro (⟨-, -, honly⟩ | ⟨hnone, -⟩)
  · exact hne ((honly i hi hi₀).trans (honly j hj hj₀).symm)
  · exact hi₀ (hnone i hi)

/-- What comes into sight when the search moves down to `o`. -/
theorem above_iff {o : Nat} (hlt : o < stop) (hgap : ∀ j, o < j → j < stop → ¬ V j) (j : Nat) :
    o ≤ j ∧ V j ↔ (stop ≤ j ∧ V j) ∨ (j = o ∧ V o) := by
  constructor
  · rintro ⟨hle, hj⟩
    rcases Nat.lt_or_eq_of_le hle with hoj | rfl
    · exact Or.inl ⟨by_contra fun hjs => hgap j hoj (by omega) hj, hj⟩
    · exact Or.inr ⟨rfl, hj⟩
  · rintro (⟨hle, hj⟩ | ⟨rfl, hj⟩)
    · exact ⟨by omega, hj⟩
    · exact ⟨Nat.le_refl _, hj⟩

variable {o : Nat} (h : Seen V count stop nonempty empty) (hlt : o < stop)
  (hgap : ∀ j, o < j → j < stop → ¬ V j)

include h hlt hgap

/-- Passing a place that is not valid. -/
theorem Seen.skip (ho : ¬ V o) : Seen V count o nonempty empty := by
  have hsame : ∀ j, o ≤ j ∧ V j ↔ stop ≤ j ∧ V j := fun j => by
    rw [above_iff hlt hgap, or_iff_left fun hj => ho hj.2]
  constructor
  · intro j
    rw [h.nonempty_iff, ← and_assoc, ← and_assoc, hsame]
  · intro j
    rw [h.empty_iff, ← and_assoc, ← and_assoc, hsame]
    refine and_congr_right fun _ => forall_congr' fun k => ?_
    rw [← and_imp, ← and_imp, ← hsame, and_imp, and_imp]

/-- Passing the first valid place with entries. -/
theorem Seen.take_nonempty (hnone : nonempty = none) (ho : V o) (hcount : count o ≠ 0) :
    Seen V count o (some o) empty := by
  -- an empty record at or after this one was met before it
  have hbelow : ∀ j, o ≤ j → V j → count j = 0 → stop ≤ j := by
    intro j hle hj hzero
    rcases (above_iff hlt hgap j).mp ⟨hle, hj⟩ with hseen | ⟨rfl, -⟩
    · exact hseen.1
    · exact absurd hzero hcount
  constructor
  · intro j
    rw [Option.some.injEq]
    constructor
    · rintro rfl
      exact ⟨Nat.le_refl _, ho, hcount⟩
    · rintro ⟨hle, hj, hne⟩
      rcases (above_iff hlt hgap j).mp ⟨hle, hj⟩ with hseen | ⟨rfl, -⟩
      · have := (h.nonempty_iff j).mpr ⟨hseen.1, hj, hne⟩
        rw [hnone] at this
        cases this
      · rfl
  · intro j
    rw [h.empty_iff]
    constructor
    · rintro ⟨⟨hle, hj, hzero⟩, hleast⟩
      exact ⟨⟨by omega, hj, hzero⟩, fun k hk hV hz => hleast k (hbelow k hk hV hz) hV hz⟩
    · rintro ⟨⟨hle, hj, hzero⟩, hleast⟩
      exact ⟨⟨hbelow j hle hj hzero, hj, hzero⟩, fun k hk hV hz => hleast k (by omega) hV hz⟩

/-- Passing a valid place without entries. -/
theorem Seen.take_empty (ho : V o) (hcount : count o = 0) :
    Seen V count o nonempty (some o) := by
  constructor
  · intro j
    rw [h.nonempty_iff]
    constructor
    · rintro ⟨hle, hj, hne⟩
      exact ⟨by omega, hj, hne⟩
    · rintro ⟨hle, hj, hne⟩
      rcases (above_iff hlt hgap j).mp ⟨hle, hj⟩ with hseen | ⟨rfl, -⟩
      · exact ⟨hseen.1, hj, hne⟩
      · exact absurd hcount hne
  · intro j
    rw [Option.some.injEq]
    constructor
    · rintro rfl
      exact ⟨⟨Nat.le_refl _, ho, hcount⟩, fun k hk _ _ => hk⟩
    · rintro ⟨⟨hle, -, -⟩, hleast⟩
      exact Nat.le_antisymm hle (hleast o (Nat.le_refl _) ho hcount)

end

/-- From any point of the search on, it ends with the answer. -/
theorem searchBack_spec {searchStart stop : Nat} {nonempty empty : Option Nat}
    (hseen : Seen (ValidAt snapshot policy) (declaredCount snapshot) stop nonempty empty)
    (hstart : ∀ o, ValidAt snapshot policy o → searchStart ≤ o)
    (hstop : ∀ o, OccursAt eocdSignature snapshot o → stop ≤ o ∨ o + eocdSignature.length ≤ stop) :
    ∃ r, searchBack snapshot policy searchStart stop nonempty empty = .ok r ∧
      ∀ o, r = some o ↔ Answers (ValidAt snapshot policy) (declaredCount snapshot) o := by
  -- on the place where the search stands
  induction stop using Nat.strong_induction_on generalizing nonempty empty with
  | _ stop ih =>
    rw [searchBack]
    split
    · rename_i hfind
      refine ⟨_, rfl, hseen.answer fun o ho => ?_⟩
      rcases hstop o ho.signature with hle | hle
      · exact hle
      · exact absurd ho.signature (rfind_eq_none_iff.mp hfind o (hstart o ho) hle)
    · rename_i offset hfind
      obtain ⟨⟨-, hle, hsig⟩, hlast⟩ := rfind_eq_some_iff.mp hfind
      have hpos : 0 < eocdSignature.length := by decide
      have hlt : offset < stop := by omega
      have hgap : ∀ j, offset < j → j < stop → ¬ ValidAt snapshot policy j := by
        intro j hj hjs hV
        rcases hstop j hV.signature with h | h
        · omega
        · exact hlast j hj h hV.signature
      have hnext : ∀ o, OccursAt eocdSignature snapshot o →
          offset ≤ o ∨ o + eocdSignature.length ≤ offset := by
        intro o ho
        rcases Nat.lt_or_ge o offset with h | h
        · exact Or.inr (eocdSignature_unbordered.apart ho hsig h)
        · exact Or.inl h
      obtain ⟨b, hb, hvalid⟩ : ∃ b, validCentralDirectoryAt snapshot policy offset = .ok b ∧
          (b = true ↔ ValidAt snapshot policy offset) := validCentralDirectoryAt_spec hsig
      rw [hb]
      cases b with
      | false =>
        have hnot : ¬ ValidAt snapshot policy offset := fun h => by simpa using hvalid.mpr h
        exact ih offset hlt (hseen.skip hlt hgap hnot) hnext
      | true =>
        have hV := hvalid.mp rfl
        have hfits := hV.fits
        have hsize : eocdSize = 22 := rfl
        show ∃ r, (unpackLe 2 snapshot (offset + 10) >>= fun c => if c ≠ 0 then
            if nonempty ≠ none then .ok none
            else searchBack snapshot policy searchStart offset (some offset) empty
          else searchBack snapshot policy searchStart offset nonempty (some offset)) = .ok r ∧ _
        rw [unpackLe_of_le (by omega)]
        show ∃ r, (if declaredCount snapshot offset ≠ 0 then _ else _) = _ ∧ _
        split_ifs with hcount hnonempty
        · -- a second place with entries
          obtain ⟨o', rfl⟩ := Option.ne_none_iff_exists'.mp hnonempty
          obtain ⟨hle', hV', hne'⟩ := (hseen.nonempty_iff o').mp rfl
          refine ⟨none, rfl, fun o => iff_of_false (by simp) ?_⟩
          exact not_answers_of_two hV hV' (by omega) hcount hne' o
        · exact ih offset hlt
            (hseen.take_nonempty hlt hgap (not_not.mp hnonempty) hV hcount) hnext
        · exact ih offset hlt (hseen.take_empty hlt hgap hV (not_not.mp hcount)) hnext

variable (snapshot policy)

/-- The search returns, and what it returns is the answer among the valid places. -/
theorem preflightCentralDirectory_answers :
    ∃ r, preflightCentralDirectory snapshot policy = .ok r ∧
      ∀ o, r = some o ↔ Answers (ValidAt snapshot policy) (declaredCount snapshot) o := by
  have hseen : Seen (ValidAt snapshot policy) (declaredCount snapshot) snapshot.length none none := by
    have hpast : ∀ o, snapshot.length ≤ o → ¬ ValidAt snapshot policy o := by
      intro o hle hV
      have hfits := hV.fits
      have : 0 < eocdSize := by decide
      omega
    constructor
    · exact fun o => iff_of_false (by simp) fun h => hpast o h.1 h.2.1
    · exact fun o => iff_of_false (by simp) fun h => hpast o h.1.1 h.1.2.1
  exact searchBack_spec hseen (fun o ho => ho.window) fun o ho => Or.inr (ho.le (by decide))

/-- **The search for the central directory is exact.**  It returns on every
byte string, with the only valid end record that has entries, or, when none has
entries, with the least valid one; two valid records with entries leave nothing. -/
theorem preflightCentralDirectory_exact :
    ∃ r, preflightCentralDirectory snapshot policy = .ok r ∧
      (∀ o, r = some o ↔ Answers (ValidAt snapshot policy) (declaredCount snapshot) o) ∧
      ∀ i j, ValidAt snapshot policy i → ValidAt snapshot policy j → i ≠ j →
        declaredCount snapshot i ≠ 0 → declaredCount snapshot j ≠ 0 → r = none := by
  obtain ⟨r, hr, hiff⟩ := preflightCentralDirectory_answers snapshot policy
  refine ⟨r, hr, hiff, fun i j hi hj hne hi₀ hj₀ => Option.eq_none_iff_forall_ne_some.mpr ?_⟩
  exact fun o ho => not_answers_of_two hi hj hne hi₀ hj₀ o ((hiff o).mp ho)

namespace Demo

/-- An empty archive whose directory is declared one byte too far. -/
def lateDirectory : List UInt8 :=
  eocdSignature ++ List.replicate 12 0 ++ [1, 0, 0, 0] ++ [0, 0]

theorem directory_lateDirectory : Directory lateDirectory {} 0 where
  signature := by decide
  comment := by decide
  single_disk := by decide
  not_zip64 := by decide
  within := by decide
  starts := by decide
  walk := .done 0

end Demo

/-- The format's conditions alone do not decide the search: a record that
declares its directory past its start meets them all, and is refused. -/
theorem preflight_refuses_late_offset :
    ¬ ∀ (snapshot : List UInt8) (policy : PackageArchiveVerificationPolicy),
      ∃ r, preflightCentralDirectory snapshot policy = .ok r ∧
        ∀ o, r = some o ↔ Answers (Directory snapshot policy) (declaredCount snapshot) o := by
  intro h
  obtain ⟨r, hr, hiff⟩ := h Demo.lateDirectory {}
  have honly : ∀ j, Directory Demo.lateDirectory {} j → j = 0 := by
    intro j hj
    have hfits := hj.fits
    rw [show Demo.lateDirectory.length = 22 by decide, show eocdSize = 22 from rfl] at hfits
    omega
  have hclaimed : r = some 0 := by
    refine (hiff 0).mpr (Or.inr ⟨fun j hj => ?_, Demo.directory_lateDirectory, fun j _ => Nat.zero_le j⟩)
    rw [honly j hj]
    decide
  obtain ⟨r', hr', hiff'⟩ := preflightCentralDirectory_answers Demo.lateDirectory {}
  obtain rfl : r = r' := by
    rw [hr] at hr'
    exact Except.ok.inj hr'
  have hvalid : ValidAt Demo.lateDirectory {} 0 := by
    rcases (hiff' 0).mp hclaimed with ⟨hV, -⟩ | ⟨-, hV, -⟩
    · exact hV
    · exact hV
  exact absurd hvalid.offset_le (by decide)

end SkillsSdk

/-
SkillsSdk/SecuritySignatures.lean

The two scans of `security_signatures` that skip ahead: `_pipe_to_shell` and
`_suspicious_download_url`.

The specifications look at every position of the text (`PipesToShell`,
`LinksToDownload`).  The scans read one match after another.  For the tokens of
the first nothing is lost, since no token begins inside another; for the runs of
the second, a run that begins inside another one is a suffix of it, and a marker
of a suffix is a marker of the run.

What counts as a letter of a word is left to the caller: `\b` is asked of any
class `isWord`.
-/
import Mathlib.Data.List.Infix
import SkillsSdk.Lib.Scanning
import SkillsSdk.SourceIndicators

namespace SkillsSdk

open Scanning

/-! ### Letters -/

/-- The letters that `re.IGNORECASE` takes for a lower-case letter of a pattern. -/
def caseVariants : Char → List Char
  | 'i' => ['i', 'I', '\u0130', '\u0131']
  | 's' => ['s', 'S', '\u017f']
  | 'k' => ['k', 'K', '\u212a']
  | p => [p, p.toUpper]

/-- The letter of a pattern matches the letter of a text. -/
def ignoringCase (p : Char) : PyChar → Bool
  | .scalar c => (caseVariants p).contains c
  | .surrogate _ => false

/-- `\s`. -/
def isBlank : PyChar → Bool
  | .scalar c => isSpace c
  | .surrogate _ => false

/-- `[^\s)'"]`. -/
def isUrlLetter (c : PyChar) : Bool :=
  !isBlank c && !(")'\"".toList.map PyChar.scalar).contains c

variable (isWord : PyChar → Bool)

/-- `\b` between two letters, where the text may begin or end. -/
def boundary (prev next : Option PyChar) : Bool := prev.any isWord != next.any isWord

/-- `w` at the start of a text. -/
def startsWithWord (w : String) (s : PyStr) : Bool := (readWord ignoringCase w.toList s).isSome

/-- `w\b` at the start of a text. -/
def startsWithBounded (w : String) (s : PyStr) : Bool :=
  (readWord ignoringCase w.toList s).any fun r => boundary isWord r.1.getLast? r.2.head?

/-! ### `_pipe_to_shell` -/

def downloaders : List String := ["curl", "wget"]

def interpreters : List String := ["sh", "bash", "zsh", "python", "node"]

/-- `_SHELL_AFTER_PIPE.match(text, token.end())`, on what the text has there. -/
def shellAfterPipe : PyStr → Bool
  | [] => interpreters.any fun w => startsWithBounded isWord w []
  | c :: s =>
    (interpreters.any fun w => startsWithBounded isWord w (c :: s)) || (isBlank c && shellAfterPipe s)

/-- The alternative `[|\n]`. -/
def stopAt : PyStr → Option PipeToken
  | [] => none
  | c :: s =>
    if c = .scalar '|' then some (.pipe (shellAfterPipe isWord s))
    else if c = .scalar '\n' then some .newline
    else none

/-- `_PIPE_TOKENS` at one position. -/
def pipeLexer : Lexer PyChar PipeToken := fun prev s =>
  if boundary isWord prev s.head? && downloaders.any fun w => startsWithBounded isWord w s then
    some (.download, 3)
  else (stopAt isWord s).map fun token => (token, 0)

/-- `_PIPE_TOKENS.finditer(text)`. -/
def readPipeTokens (text : PyStr) : List PipeToken := finditer (pipeLexer isWord) text

/-! ### `_suspicious_download_url` -/

/-- `https?://`, as it is tried. -/
def urlSchemes : List String := ["https://", "http://"]

/-- `_URL_TOKENS` at one position. -/
def urlAt (s : PyStr) : Option PyStr :=
  (urlSchemes.findSome? fun w => readWord ignoringCase w.toList s).map fun r =>
    r.1 ++ r.2.takeWhile isUrlLetter

def urlLexer : Lexer PyChar PyStr := fun _ s => (urlAt s).map fun run => (run, run.length - 1)

/-- `_URL_TOKENS.finditer(text)`, each with its `group()`. -/
def readUrlTokens (text : PyStr) : List PyStr := finditer urlLexer text

/-- An alternative of `_DOWNLOAD_MARKERS`: a word, and whether `\b` follows it. -/
structure DownloadMarker where
  word : String
  bounded : Bool

/-- `_DOWNLOAD_MARKERS`. -/
def downloadMarkers : List DownloadMarker :=
  (["raw.githubusercontent.com", "gist.githubusercontent.com", "bit.ly", "tinyurl.com"].map (⟨·, false⟩)) ++
    ([".sh", ".py", ".js", ".zip", ".tgz", ".tar.gz", ".dmg", ".pkg", ".exe"].map (⟨·, true⟩))

def DownloadMarker.startsWith (m : DownloadMarker) (s : PyStr) : Bool :=
  if m.bounded then startsWithBounded isWord m.word s else startsWithWord m.word s

/-- `_DOWNLOAD_MARKERS.search(group) is not None`. -/
def hasDownloadMarker (group : PyStr) : Bool :=
  group.tails.any fun s => downloadMarkers.any fun m => m.startsWith isWord s

/-- The library with the matches of these patterns. -/
def SourceLibrary.withSignatures (lib : SourceLibrary) : SourceLibrary :=
  { lib with
    pipeTokens := readPipeTokens isWord
    urlTokens := readUrlTokens
    downloadMarker := hasDownloadMarker isWord }

/-! ### What the scans are for -/

/-- `\b` between the two parts of a text. -/
def AtBoundary (before after : PyStr) : Prop :=
  boundary isWord before.getLast? after.head? = true

/-- The part spells one of the words. -/
def SpellsOne (words : List String) (u : PyStr) : Prop :=
  ∃ w ∈ words, Scanning.Spells ignoringCase w.toList u

/-- `d` is a download command that stands alone. -/
structure IsDownload (before d after : PyStr) : Prop where
  spelled : SpellsOne downloaders d
  begins : AtBoundary isWord before (d ++ after)
  ends : AtBoundary isWord d after

/-- White space and an interpreter that ends at a word boundary. -/
def ShellFollows (s : PyStr) : Prop :=
  ∃ blanks name after, s = blanks ++ name ++ after ∧ (∀ c ∈ blanks, isBlank c = true) ∧
    SpellsOne interpreters name ∧ AtBoundary isWord name after

/-- A pipe into a shell, with no other pipe and no line feed before it. -/
def ShellPipe (s : PyStr) : Prop :=
  ∃ between rest, s = between ++ .scalar '|' :: rest ∧
    (∀ c ∈ between, c ≠ .scalar '|' ∧ c ≠ .scalar '\n') ∧ ShellFollows isWord rest

/-- A download command, and behind it a pipe into a shell. -/
def PipesToShell (text : PyStr) : Prop :=
  ∃ before d after, text = before ++ d ++ after ∧ IsDownload isWord before d after ∧
    ShellPipe isWord after

/-- `run` is a URL: a scheme and all the letters that can follow it. -/
structure IsUrlRun (run after : PyStr) : Prop where
  letters : ∃ u body, run = u ++ body ∧ SpellsOne urlSchemes u ∧ ∀ c ∈ body, isUrlLetter c = true
  maximal : ∀ c ∈ after.head?, isUrlLetter c = false

/-- A marker stands somewhere in the part. -/
def Marked (run : PyStr) : Prop :=
  ∃ m ∈ downloadMarkers, ∃ u v w, run = u ++ v ++ w ∧ Scanning.Spells ignoringCase m.word.toList v ∧
    (m.bounded = true → AtBoundary isWord v w)

/-- Some URL of the text, wherever it begins, holds a marker. -/
def LinksToDownload (text : PyStr) : Prop :=
  ∃ before run after, text = before ++ run ++ after ∧ IsUrlRun run after ∧ Marked isWord run

/-! ### Words at a position -/

variable {isWord}

theorem startsWithBounded_iff {w : String} {s : PyStr} :
    startsWithBounded isWord w s = true ↔
      ∃ u after, s = u ++ after ∧ Scanning.Spells ignoringCase w.toList u ∧ AtBoundary isWord u after := by
  rw [startsWithBounded, Option.any_eq_true]
  constructor
  · rintro ⟨⟨u, after⟩, hread, hb⟩
    obtain ⟨hs, hu⟩ := readWord_eq_some_iff.mp hread
    exact ⟨u, after, hs, hu, hb⟩
  · rintro ⟨u, after, hs, hu, hb⟩
    exact ⟨(u, after), readWord_eq_some_iff.mpr ⟨hs, hu⟩, hb⟩

theorem startsWithWord_iff {w : String} {s : PyStr} :
    startsWithWord w s = true ↔ ∃ u after, s = u ++ after ∧ Scanning.Spells ignoringCase w.toList u := by
  rw [startsWithWord, Option.isSome_iff_exists]
  constructor
  · rintro ⟨⟨u, after⟩, hread⟩
    exact ⟨u, after, readWord_eq_some_iff.mp hread⟩
  · rintro ⟨u, after, h⟩
    exact ⟨(u, after), readWord_eq_some_iff.mpr h⟩

theorem any_startsWithBounded_iff {words : List String} {s : PyStr} :
    (words.any fun w => startsWithBounded isWord w s) = true ↔
      ∃ u after, s = u ++ after ∧ SpellsOne words u ∧ AtBoundary isWord u after := by
  rw [List.any_eq_true]
  constructor
  · rintro ⟨w, hw, h⟩
    obtain ⟨u, after, hs, hu, hb⟩ := startsWithBounded_iff.mp h
    exact ⟨u, after, hs, ⟨w, hw, hu⟩, hb⟩
  · rintro ⟨u, after, hs, ⟨w, hw, hu⟩, hb⟩
    exact ⟨w, hw, startsWithBounded_iff.mpr ⟨u, after, hs, hu, hb⟩⟩

/-- Letters of the words, as the text may write them. -/
def IsLetterOf (words : List String) (c : PyChar) : Prop :=
  ∃ w ∈ words, ∃ p ∈ w.toList, ignoringCase p c = true

theorem SpellsOne.letters {words : List String} {u : PyStr} (h : SpellsOne words u) :
    ∀ c ∈ u, IsLetterOf words c := by
  obtain ⟨w, hw, hu⟩ := h
  intro c hc
  exact ⟨w, hw, hu.exists_of_mem hc⟩

/-! ### Pipes -/

theorem shellAfterPipe_iff {s : PyStr} : shellAfterPipe isWord s = true ↔ ShellFollows isWord s := by
  induction s with
  | nil =>
    rw [shellAfterPipe, any_startsWithBounded_iff]
    constructor
    · rintro ⟨u, after, hs, hu, hb⟩
      exact ⟨[], u, after, hs, by simp, hu, hb⟩
    · rintro ⟨blanks, u, after, hs, -, hu, hb⟩
      obtain ⟨hbu, -⟩ := List.append_eq_nil_iff.mp hs.symm
      obtain rfl := (List.append_eq_nil_iff.mp hbu).1
      exact ⟨u, after, hs, hu, hb⟩
  | cons c s ih =>
    rw [shellAfterPipe, Bool.or_eq_true, any_startsWithBounded_iff, Bool.and_eq_true, ih]
    constructor
    · rintro (⟨u, after, hs, hu, hb⟩ | ⟨hc, blanks, u, after, rfl, hblanks, hu, hb⟩)
      · exact ⟨[], u, after, hs, by simp, hu, hb⟩
      · exact ⟨c :: blanks, u, after, rfl, by simpa using ⟨hc, hblanks⟩, hu, hb⟩
    · rintro ⟨blanks, u, after, hs, hblanks, hu, hb⟩
      cases blanks with
      | nil => exact Or.inl ⟨u, after, hs, hu, hb⟩
      | cons d blanks =>
        obtain ⟨rfl, rfl⟩ := List.cons.inj hs
        exact Or.inr ⟨hblanks c (by simp), blanks, u, after, rfl,
          fun x hx => hblanks x (by simp [hx]), hu, hb⟩

theorem shellPipe_bar {s : PyStr} : ShellPipe isWord (.scalar '|' :: s) ↔ ShellFollows isWord s := by
  constructor
  · rintro ⟨between, rest, hs, hbetween, hshell⟩
    cases between with
    | nil =>
      obtain rfl := (List.cons.inj hs).2
      exact hshell
    | cons d between =>
      obtain ⟨rfl, -⟩ := List.cons.inj hs
      exact absurd rfl (hbetween _ List.mem_cons_self).1
  · exact fun h => ⟨[], s, rfl, by simp, h⟩

theorem shellPipe_cons {c : PyChar} (hc : c ≠ .scalar '|') {s : PyStr} :
    ShellPipe isWord (c :: s) ↔ c ≠ .scalar '\n' ∧ ShellPipe isWord s := by
  constructor
  · rintro ⟨between, rest, hs, hbetween, hshell⟩
    cases between with
    | nil => exact absurd (List.cons.inj hs).1 hc
    | cons d between =>
      obtain ⟨rfl, rfl⟩ := List.cons.inj hs
      exact ⟨(hbetween c (by simp)).2, between, rest, rfl, fun x hx => hbetween x (by simp [hx]), hshell⟩
  · rintro ⟨hline, between, rest, rfl, hbetween, hshell⟩
    refine ⟨c :: between, rest, rfl, ?_, hshell⟩
    intro x hx
    rcases List.mem_cons.mp hx with rfl | hx
    · exact ⟨hc, hline⟩
    · exact hbetween x hx

theorem not_shellPipe_nil : ¬ ShellPipe isWord [] := by
  rintro ⟨between, rest, hs, -⟩
  have := congrArg List.length hs
  simp at this

/-- A stretch without stops does not matter. -/
theorem shellPipe_append {u s : PyStr} (hu : ∀ c ∈ u, c ≠ .scalar '|' ∧ c ≠ .scalar '\n') :
    ShellPipe isWord (u ++ s) ↔ ShellPipe isWord s := by
  induction u with
  | nil => exact Iff.rfl
  | cons c u ih =>
    obtain ⟨hbar, hline⟩ := hu c (by simp)
    rw [List.cons_append, shellPipe_cons hbar, ih fun x hx => hu x (by simp [hx])]
    exact and_iff_right hline

/-- The first alternative of `_PIPE_TOKENS`. -/
theorem download_begins_iff {before s : PyStr} :
    (boundary isWord before.getLast? s.head? && downloaders.any fun w => startsWithBounded isWord w s) =
        true ↔
      ∃ d after, s = d ++ after ∧ IsDownload isWord before d after := by
  rw [Bool.and_eq_true, any_startsWithBounded_iff]
  constructor
  · rintro ⟨hbegin, d, after, rfl, hd, hend⟩
    exact ⟨d, after, rfl, hd, hbegin, hend⟩
  · rintro ⟨d, after, rfl, hd, hbegin, hend⟩
    exact ⟨hbegin, d, after, rfl, hd, hend⟩

/-- The letters behind the first one of a download command. -/
def IsInner (c : PyChar) : Prop := ∃ p ∈ ['u', 'r', 'l', 'g', 'e', 't'], ignoringCase p c = true

theorem IsInner.spec {c : PyChar} (h : IsInner c) :
    ignoringCase 'c' c = false ∧ ignoringCase 'w' c = false ∧ c ≠ .scalar '|' ∧ c ≠ .scalar '\n' := by
  obtain ⟨p, hp, hc⟩ := h
  cases c with
  | surrogate n => cases hc
  | scalar c =>
    have hmem : c ∈ ['u', 'r', 'l', 'g', 'e', 't'].flatMap caseVariants :=
      List.mem_flatMap.mpr ⟨p, hp, List.contains_iff_mem.mp hc⟩
    have hall : (['u', 'r', 'l', 'g', 'e', 't'].flatMap caseVariants).all (fun c =>
        !ignoringCase 'c' (.scalar c) && !ignoringCase 'w' (.scalar c) &&
          c != '|' && c != '\n') = true := by decide
    have := List.all_eq_true.mp hall c hmem
    simpa [and_assoc] using this

theorem startsWithBounded_cons_of_ne {p : Char} {w : String} {ps : List Char}
    (hw : w.toList = p :: ps) {c : PyChar} (hc : ignoringCase p c = false) (t : PyStr) :
    startsWithBounded isWord w (c :: t) = false := by
  rw [startsWithBounded, hw, readWord, hc]
  rfl

theorem pipeLexer_inner {c : PyChar} (h : IsInner c) (prev : Option PyChar) (t : PyStr) :
    pipeLexer isWord prev (c :: t) = none := by
  obtain ⟨hcurl, hwget, hbar, hline⟩ := IsInner.spec h
  have hnone : (downloaders.any fun w => startsWithBounded isWord w (c :: t)) = false := by
    rw [downloaders, List.any_cons, List.any_cons,
      startsWithBounded_cons_of_ne (w := "curl") (p := 'c') rfl hcurl,
      startsWithBounded_cons_of_ne (w := "wget") (p := 'w') rfl hwget]
    rfl
  rw [pipeLexer, hnone, Bool.and_false, if_neg Bool.false_ne_true, stopAt, if_neg hbar, if_neg hline]
  rfl

theorem ignoringCase_stop {p : Char} (hp : p ∈ ['c', 'w']) {c : PyChar} (hc : ignoringCase p c = true) :
    c ≠ .scalar '|' ∧ c ≠ .scalar '\n' := by
  simp only [List.mem_cons, List.not_mem_nil, or_false] at hp
  constructor <;> rintro rfl <;> rcases hp with rfl | rfl <;> exact absurd hc (by decide)

/-- A download command is one letter and three inner ones. -/
theorem SpellsOne.download {d : PyStr} (h : SpellsOne downloaders d) :
    ∃ c x y z, d = [c, x, y, z] ∧ (c ≠ .scalar '|' ∧ c ≠ .scalar '\n') ∧
      IsInner x ∧ IsInner y ∧ IsInner z := by
  obtain ⟨w, hw, hd⟩ := h
  have hspell : ∃ p q r s, p ∈ ['c', 'w'] ∧ q ∈ ['u', 'r', 'l', 'g', 'e', 't'] ∧
      r ∈ ['u', 'r', 'l', 'g', 'e', 't'] ∧ s ∈ ['u', 'r', 'l', 'g', 'e', 't'] ∧
      w.toList = [p, q, r, s] := by
    rcases List.mem_pair.mp hw with rfl | rfl
    · exact ⟨'c', 'u', 'r', 'l', by decide, by decide, by decide, by decide, rfl⟩
    · exact ⟨'w', 'g', 'e', 't', by decide, by decide, by decide, by decide, rfl⟩
  obtain ⟨p, q, r, s, hp, hq, hr, hs, he⟩ := hspell
  rw [he] at hd
  obtain ⟨c, u, hc, hu, rfl⟩ := List.forall₂_cons_left_iff.mp hd
  obtain ⟨x, u₁, hx, hu₁, rfl⟩ := List.forall₂_cons_left_iff.mp hu
  obtain ⟨y, u₂, hy, hu₂, rfl⟩ := List.forall₂_cons_left_iff.mp hu₁
  obtain ⟨z, u₃, hz, hu₃, rfl⟩ := List.forall₂_cons_left_iff.mp hu₂
  obtain rfl := List.forall₂_nil_left_iff.mp hu₃
  exact ⟨c, x, y, z, rfl, ignoringCase_stop hp hc, ⟨q, hq, hx⟩, ⟨r, hr, hy⟩, ⟨s, hs, hz⟩⟩

/-- No token begins inside another. -/
theorem pipeLexer_silent (prev : Option PyChar) (c : PyChar) (t : PyStr) (token : PipeToken) (n : Nat)
    (h : pipeLexer isWord prev (c :: t) = some (token, n)) : Silent (pipeLexer isWord) n t := by
  rw [pipeLexer] at h
  split at h
  case isTrue hd =>
    obtain ⟨-, rfl⟩ := Prod.mk.inj (Option.some.inj h)
    obtain ⟨d, after, hs, hd, -⟩ := any_startsWithBounded_iff.mp (Bool.and_eq_true_iff.mp hd).2
    obtain ⟨c', x, y, z, rfl, -, hx, hy, hz⟩ := hd.download
    obtain ⟨-, rfl⟩ := List.cons.inj hs
    intro k hk prev
    match k, hk with
    | 0, _ => exact pipeLexer_inner hx prev _
    | 1, _ => exact pipeLexer_inner hy prev _
    | 2, _ => exact pipeLexer_inner hz prev _
  case isFalse =>
    obtain ⟨token', -, he⟩ := Option.map_eq_some_iff.mp h
    obtain ⟨-, rfl⟩ := Prod.mk.inj he
    exact Silent.zero t

/-- Behind what was read, a download command and a pipe into a shell. -/
def Coming (isWord : PyChar → Bool) (before text : PyStr) : Prop :=
  ∃ u d after, text = u ++ d ++ after ∧ IsDownload isWord (before ++ u) d after ∧ ShellPipe isWord after

theorem not_coming_nil {before : PyStr} : ¬ Coming isWord before [] := by
  rintro ⟨u, d, after, hs, -, hpipe⟩
  obtain rfl := (List.append_eq_nil_iff.mp hs.symm).2
  exact not_shellPipe_nil hpipe

theorem coming_cons {before : PyStr} {c : PyChar} {t : PyStr} :
    Coming isWord before (c :: t) ↔
      (∃ d after, c :: t = d ++ after ∧ IsDownload isWord before d after ∧ ShellPipe isWord after) ∨
        Coming isWord (before ++ [c]) t := by
  constructor
  · rintro ⟨u, d, after, hs, hd, hpipe⟩
    cases u with
    | nil =>
      rw [List.append_nil] at hd
      exact Or.inl ⟨d, after, hs, hd, hpipe⟩
    | cons x u =>
      obtain ⟨rfl, rfl⟩ := List.cons.inj hs
      refine Or.inr ⟨u, d, after, rfl, ?_, hpipe⟩
      rw [List.append_assoc]
      exact hd
  · rintro (⟨d, after, hs, hd, hpipe⟩ | ⟨u, d, after, rfl, hd, hpipe⟩)
    · refine ⟨[], d, after, hs, ?_, hpipe⟩
      rw [List.append_nil]
      exact hd
    · refine ⟨c :: u, d, after, rfl, ?_, hpipe⟩
      rw [List.append_assoc] at hd
      exact hd

/-- The pipe behind a download command is the pipe behind its first letter. -/
theorem IsDownload.shellPipe_iff {before d after : PyStr} (h : IsDownload isWord before d after)
    {c : PyChar} {t : PyStr} (hs : c :: t = d ++ after) :
    (ShellPipe isWord (c :: t) ↔ ShellPipe isWord after) ∧
      (ShellPipe isWord t ↔ ShellPipe isWord after) := by
  obtain ⟨c', x, y, z, rfl, hc, hx, hy, hz⟩ := h.spelled.download
  have hinner : ∀ e ∈ [x, y, z], e ≠ .scalar '|' ∧ e ≠ .scalar '\n' := by
    intro e he
    have : IsInner e := by
      simp only [List.mem_cons, List.not_mem_nil, or_false] at he
      rcases he with rfl | rfl | rfl
      exacts [hx, hy, hz]
    exact (IsInner.spec this).2.2
  obtain ⟨rfl, rfl⟩ := List.cons.inj hs
  refine ⟨?_, shellPipe_append hinner⟩
  rw [shellPipe_cons hc.1, and_iff_right hc.2]
  exact shellPipe_append hinner

/-- The loop over the hits of all positions, with what the flag has seen. -/
theorem pipeToShellFrom_hits (text before : PyStr) (download : Bool) :
    pipeToShellFrom (hits (pipeLexer isWord) before.getLast? text) download = true ↔
      (download = true ∧ ShellPipe isWord text) ∨ Coming isWord before text := by
  -- the flag says that a download stands in front of the text, on this line
  induction text generalizing before download with
  | nil =>
    rw [hits, pipeToShellFrom]
    constructor
    · intro h
      cases h
    · rintro (⟨-, h⟩ | h)
      · exact absurd h not_shellPipe_nil
      · exact absurd h not_coming_nil
  | cons c t ih =>
    have ih' := fun flag => ih (before ++ [c]) flag
    rw [List.getLast?_concat] at ih'
    by_cases hd : (boundary isWord before.getLast? (c :: t).head? &&
        downloaders.any fun w => startsWithBounded isWord w (c :: t)) = true
    · have hlex : pipeLexer isWord before.getLast? (c :: t) = some (.download, 3) := if_pos hd
      obtain ⟨d, after, hs, hd⟩ := download_begins_iff.mp hd
      obtain ⟨hpipe, hpipe'⟩ := hd.shellPipe_iff hs
      rw [hits, hlex]
      show pipeToShellFrom (.download :: hits (pipeLexer isWord) (some c) t) download = true ↔ _
      rw [pipeToShellFrom, ih' true, coming_cons, hpipe, hpipe']
      constructor
      · rintro (⟨-, h⟩ | h)
        · exact Or.inr (Or.inl ⟨d, after, hs, hd, h⟩)
        · exact Or.inr (Or.inr h)
      · rintro (⟨-, h⟩ | ⟨d', after', hs', hd', h⟩ | h)
        · exact Or.inl ⟨rfl, h⟩
        · exact Or.inl ⟨rfl, hpipe'.mp ((hd'.shellPipe_iff hs').2.mpr h)⟩
        · exact Or.inr h
    · have hno : ¬ ∃ d after, c :: t = d ++ after ∧ IsDownload isWord before d after ∧
          ShellPipe isWord after := by
        rintro ⟨d, after, hs, h, -⟩
        exact hd (download_begins_iff.mpr ⟨d, after, hs, h⟩)
      -- no download begins here: only a bar or the end of the line counts
      have hlex : pipeLexer isWord before.getLast? (c :: t) =
          (stopAt isWord (c :: t)).map fun token => (token, 0) := if_neg hd
      rw [coming_cons, or_iff_right hno, hits, hlex, stopAt]
      by_cases hbar : c = .scalar '|'
      · subst hbar
        rw [if_pos rfl]
        show pipeToShellFrom (.pipe (shellAfterPipe isWord t) :: hits (pipeLexer isWord) _ t) download =
          true ↔ _
        rw [pipeToShellFrom, Bool.or_eq_true, Bool.and_eq_true, shellAfterPipe_iff, shellPipe_bar,
          ih' false]
        simp
      · rw [if_neg hbar, shellPipe_cons hbar]
        by_cases hline : c = .scalar '\n'
        · rw [if_pos hline]
          show pipeToShellFrom (.newline :: hits (pipeLexer isWord) (some c) t) download = true ↔ _
          rw [pipeToShellFrom, ih' false]
          simp [hline]
        · rw [if_neg hline]
          show pipeToShellFrom (hits (pipeLexer isWord) (some c) t) download = true ↔ _
          rw [ih' download, and_iff_right hline]

/-- `_pipe_to_shell` decides its specification. -/
theorem pipeToShellFrom_readPipeTokens (text : PyStr) :
    pipeToShellFrom (readPipeTokens isWord text) false = true ↔ PipesToShell isWord text := by
  rw [readPipeTokens, finditer_eq_hits pipeLexer_silent]
  refine (pipeToShellFrom_hits text [] false).trans ?_
  constructor
  · rintro (⟨h, -⟩ | ⟨u, d, after, hs, hd, hpipe⟩)
    · cases h
    · exact ⟨u, d, after, hs, hd, hpipe⟩
  · rintro ⟨u, d, after, hs, hd, hpipe⟩
    exact Or.inr ⟨u, d, after, hs, hd, hpipe⟩

/-! ### URLs -/

theorem isUrlLetter_of_scheme {u : PyStr} (h : SpellsOne urlSchemes u) :
    ∀ c ∈ u, isUrlLetter c = true := by
  intro c hc
  obtain ⟨w, hw, p, hp, hpc⟩ := h.letters c hc
  cases c with
  | surrogate n => cases hpc
  | scalar c =>
    have hmem : c ∈ (urlSchemes.flatMap String.toList).flatMap caseVariants :=
      List.mem_flatMap.mpr ⟨p, List.mem_flatMap.mpr ⟨w, hw, hp⟩, List.contains_iff_mem.mp hpc⟩
    have hall : ((urlSchemes.flatMap String.toList).flatMap caseVariants).all
        (fun c => isUrlLetter (.scalar c)) = true := by decide +kernel
    exact List.all_eq_true.mp hall c hmem

theorem takeWhile_append_of_all {p : PyChar → Bool} {u v : PyStr} (hu : ∀ c ∈ u, p c = true) :
    (u ++ v).takeWhile p = u ++ v.takeWhile p := List.takeWhile_append_of_pos hu

/-- A URL is as long as its letters reach. -/
theorem urlAt_eq_some_iff {s run : PyStr} :
    urlAt s = some run ↔
      (∃ u rest, s = u ++ rest ∧ SpellsOne urlSchemes u) ∧ run = s.takeWhile isUrlLetter := by
  rw [urlAt, Option.map_eq_some_iff]
  constructor
  · rintro ⟨⟨u, rest⟩, hfound, rfl⟩
    obtain ⟨w, hw, hread⟩ := List.exists_of_findSome?_eq_some hfound
    obtain ⟨rfl, hu⟩ := readWord_eq_some_iff.mp hread
    have hone : SpellsOne urlSchemes u := ⟨w, hw, hu⟩
    exact ⟨⟨u, rest, rfl, hone⟩, (takeWhile_append_of_all (isUrlLetter_of_scheme hone)).symm⟩
  · rintro ⟨⟨u, rest, rfl, w, hw, hu⟩, rfl⟩
    have hsome : (urlSchemes.findSome? fun w => readWord ignoringCase w.toList (u ++ rest)).isSome := by
      rw [List.findSome?_isSome_iff]
      exact ⟨w, hw, by rw [readWord_eq_some_iff.mpr ⟨rfl, hu⟩]; rfl⟩
    obtain ⟨⟨u', rest'⟩, hfound⟩ := Option.isSome_iff_exists.mp hsome
    refine ⟨(u', rest'), hfound, ?_⟩
    obtain ⟨w', hw', hread⟩ := List.exists_of_findSome?_eq_some hfound
    obtain ⟨hs, hu'⟩ := readWord_eq_some_iff.mp hread
    rw [hs]
    exact (takeWhile_append_of_all (isUrlLetter_of_scheme ⟨w', hw', hu'⟩)).symm

theorem isUrlRun_iff {run after : PyStr} : IsUrlRun run after ↔ urlAt (run ++ after) = some run := by
  rw [urlAt_eq_some_iff]
  constructor
  · rintro ⟨⟨u, body, rfl, hu, hbody⟩, hmax⟩
    refine ⟨⟨u, body ++ after, List.append_assoc _ _ _, hu⟩, ?_⟩
    -- the run is as long as possible, so nothing of it is left
    have hafter : after.takeWhile isUrlLetter = [] := by
      cases after with
      | nil => rfl
      | cons c after => exact List.takeWhile_cons_of_neg (by simp [hmax c rfl])
    rw [List.append_assoc, takeWhile_append_of_all (isUrlLetter_of_scheme hu),
      takeWhile_append_of_all hbody, hafter, List.append_nil]
  · rintro ⟨⟨u, rest, hs, hu⟩, hrun⟩
    have hletters : (run ++ after).takeWhile isUrlLetter = u ++ rest.takeWhile isUrlLetter := by
      rw [hs, takeWhile_append_of_all (isUrlLetter_of_scheme hu)]
    refine ⟨⟨u, rest.takeWhile isUrlLetter, hrun.trans hletters, hu, fun c hc => List.mem_takeWhile_imp hc⟩, ?_⟩
    have hall : ∀ c ∈ run, isUrlLetter c = true := by
      intro c hc
      rw [hrun] at hc
      exact List.mem_takeWhile_imp hc
    rw [takeWhile_append_of_all hall] at hrun
    have hnil : after.takeWhile isUrlLetter = [] := by simpa using hrun.symm
    intro c hc
    cases after with
    | nil => cases hc
    | cons d after =>
      obtain rfl := Option.some.inj hc
      by_contra hd
      rw [List.takeWhile_cons_of_pos (by simpa using hd)] at hnil
      cases hnil

theorem DownloadMarker.startsWith_iff {m : DownloadMarker} {s : PyStr} :
    m.startsWith isWord s = true ↔ ∃ v w, s = v ++ w ∧ Scanning.Spells ignoringCase m.word.toList v ∧
      (m.bounded = true → AtBoundary isWord v w) := by
  rw [DownloadMarker.startsWith]
  split
  case isTrue hb =>
    rw [startsWithBounded_iff]
    simp only [hb, true_implies]
  case isFalse hb =>
    rw [startsWithWord_iff]
    simp [hb]

theorem hasDownloadMarker_iff {run : PyStr} : hasDownloadMarker isWord run = true ↔ Marked isWord run := by
  rw [hasDownloadMarker, List.any_eq_true]
  constructor
  · rintro ⟨s, hs, h⟩
    obtain ⟨u, rfl⟩ := (List.mem_tails _ _).mp hs
    obtain ⟨m, hm, h⟩ := List.any_eq_true.mp h
    obtain ⟨v, w, rfl, hv, hb⟩ := DownloadMarker.startsWith_iff.mp h
    exact ⟨m, hm, u, v, w, (List.append_assoc _ _ _).symm, hv, hb⟩
  · rintro ⟨m, hm, u, v, w, rfl, hv, hb⟩
    refine ⟨v ++ w, (List.mem_tails _ _).mpr ⟨u, (List.append_assoc _ _ _).symm⟩, ?_⟩
    exact List.any_eq_true.mpr ⟨m, hm, DownloadMarker.startsWith_iff.mpr ⟨v, w, rfl, hv, hb⟩⟩

theorem Marked.of_suffix {run part : PyStr} (h : Marked isWord part) (hsuffix : part <:+ run) :
    Marked isWord run := by
  obtain ⟨x, rfl⟩ := hsuffix
  obtain ⟨m, hm, u, v, w, rfl, hv, hb⟩ := h
  exact ⟨m, hm, x ++ u, v, w, by simp [List.append_assoc], hv, hb⟩

/-- Dropping letters of a run leaves a suffix of it. -/
theorem takeWhile_drop_suffix {p : PyChar → Bool} {s : PyStr} {k : Nat} (hk : k ≤ (s.takeWhile p).length) :
    (s.drop k).takeWhile p <:+ s.takeWhile p := by
  induction s generalizing k with
  | nil => simp
  | cons c s ih =>
    cases k with
    | zero => exact List.suffix_refl _
    | succ k =>
      cases hc : p c with
      | false =>
        rw [List.takeWhile_cons_of_neg (by simp [hc])] at hk
        exact absurd hk (Nat.not_succ_le_zero k)
      | true =>
        rw [List.takeWhile_cons_of_pos hc] at hk ⊢
        exact (ih (Nat.le_of_succ_le_succ hk)).trans (List.suffix_cons c _)

/-- A URL inside a URL is a suffix of it. -/
theorem urlLexer_dominates : Dominates urlLexer (hasDownloadMarker isWord) := by
  intro prev c t run n h k hk prev' run' n' h' hmarked
  obtain ⟨run₀, hrun, he⟩ := Option.map_eq_some_iff.mp h
  obtain ⟨rfl, rfl⟩ := Prod.mk.inj he
  obtain ⟨run₁, hrun', he'⟩ := Option.map_eq_some_iff.mp h'
  obtain ⟨rfl, -⟩ := Prod.mk.inj he'
  obtain ⟨-, rfl⟩ := urlAt_eq_some_iff.mp hrun
  obtain ⟨-, rfl⟩ := urlAt_eq_some_iff.mp hrun'
  rw [hasDownloadMarker_iff] at hmarked ⊢
  exact hmarked.of_suffix (takeWhile_drop_suffix (s := c :: t) (k := k + 1) (by omega))

/-- `_suspicious_download_url` decides its specification. -/
theorem any_readUrlTokens (text : PyStr) :
    (readUrlTokens text).any (hasDownloadMarker isWord) = true ↔ LinksToDownload isWord text := by
  rw [readUrlTokens, any_finditer_iff urlLexer_dominates]
  constructor
  · rintro ⟨before, s, run, n, rfl, -, h, hmarked⟩
    have hrun : urlAt s = some run := by
      obtain ⟨run₀, hrun, he⟩ := Option.map_eq_some_iff.mp h
      rw [hrun, (Prod.mk.inj he).1]
    obtain ⟨after, rfl⟩ : ∃ after, s = run ++ after := by
      obtain ⟨-, rfl⟩ := urlAt_eq_some_iff.mp hrun
      exact ⟨s.dropWhile isUrlLetter, List.takeWhile_append_dropWhile.symm⟩
    exact ⟨before, run, after, (List.append_assoc _ _ _).symm, isUrlRun_iff.mpr hrun,
      hasDownloadMarker_iff.mp hmarked⟩
  · rintro ⟨before, run, after, rfl, hrun, hmarked⟩
    refine ⟨before, run ++ after, run, run.length - 1, List.append_assoc _ _ _, ?_, ?_,
      hasDownloadMarker_iff.mpr hmarked⟩
    · intro h
      obtain ⟨u, body, rfl, ⟨w, hw, hu⟩, -⟩ := hrun.letters
      have : w.toList.length = 0 := by
        rw [hu.length_eq]
        simp_all
      rcases List.mem_pair.mp hw with rfl | rfl <;> cases this
    · show (urlAt (run ++ after)).map _ = _
      rw [isUrlRun_iff.mp hrun]
      rfl

/-! ### The scans -/

/-- **The scans that skip ahead decide their specifications**, whatever counts as
the letter of a word. -/
theorem signatures_decide (lib : SourceLibrary) (isWord : PyChar → Bool) (text : PyStr) :
    (pipeToShell (lib.withSignatures isWord) text = true ↔ PipesToShell isWord text) ∧
      (hasSuspiciousUrl (lib.withSignatures isWord) text = true ↔ LinksToDownload isWord text) :=
  ⟨pipeToShellFrom_readPipeTokens text, any_readUrlTokens text⟩

end SkillsSdk

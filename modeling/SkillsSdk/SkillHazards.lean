/-
SkillsSdk/SkillHazards.lean

Exactly when the validation of a skill package raises.

Nearly every failure becomes a finding.  What does not is a `SkillHazard`: a
root that opens but cannot be listed, a required path that holds a surrogate,
and an exception of PyYAML, or of `str(…)` of a loaded value, that no handler
lists.  With a valid policy and a root name that stands for bytes, the validator
raises exactly then (`validateSkillPackage_cases`).
-/
import SkillsSdk.Lib.KeyedList
import SkillsSdk.SkillTotality

namespace SkillsSdk

/-! ### Stripped names -/

/-- A list stripped at both ends starts and ends outside the class. -/
theorem ends_of_stripped {α : Type*} (p : α → Bool) (l : List α) :
    (∀ c ∈ ((l.dropWhile p).rdropWhile p).head?, p c = false) ∧
      ∀ c ∈ ((l.dropWhile p).rdropWhile p).getLast?, p c = false := by
  constructor
  · intro c hc
    obtain ⟨v, hv⟩ := List.rdropWhile_prefix p (l := l.dropWhile p)
    rcases hd : (l.dropWhile p).rdropWhile p with - | ⟨d, u⟩
    · simp [hd] at hc
    · obtain rfl : d = c := by simpa [hd] using hc
      rw [hd] at hv
      have hne : l.dropWhile p ≠ [] := by simp [← hv]
      have hhead := List.head_dropWhile_not p hne
      simpa [← hv] using hhead
  · intro c hc
    have hne : (l.dropWhile p).rdropWhile p ≠ [] := by
      intro h0
      rw [h0] at hc
      cases hc
    have hlast := List.rdropWhile_last_not p (l.dropWhile p) hne
    rw [List.getLast?_eq_some_getLast hne] at hc
    obtain rfl := Option.some.inj hc
    simpa using hlast

/-- A text is stripped when its ends are outside the class. -/
theorem stripBy_of_ends {p : Char → Bool} {t : Text} (hhead : ∀ c ∈ t.head?, p c = false)
    (hlast : ∀ c ∈ t.getLast?, p c = false) : stripBy p t = t := by
  have hdrop : t.dropWhile p = t := by
    rcases t with - | ⟨c, t⟩
    · rfl
    · exact List.dropWhile_cons_of_neg (by simp [hhead c rfl])
  rw [stripBy, hdrop, List.rdropWhile_eq_self_iff]
  intro hne
  simp [hlast _ (List.getLast?_eq_some_getLast hne)]

/-- A text that Python has stripped has no blanks for the models to strip. -/
theorem trim_of_strip {s : PyStr} {t : Text} (h : s.strip = PyStr.ofText t) : trim t = t := by
  obtain ⟨hhead, hlast⟩ := ends_of_stripped isSpacePy s
  rw [← PyStr.strip, h] at hhead hlast
  have hblank : ∀ c, isSpacePy (.scalar c) = false → isWhiteSpace c = false := by
    intro c hc
    rw [isSpacePy, isSpace, Bool.or_eq_false_iff] at hc
    exact hc.1
  refine stripBy_of_ends (fun c hc => hblank c (hhead _ ?_)) fun c hc => hblank c (hlast _ ?_)
  · rw [PyStr.ofText, List.head?_map, hc]
    rfl
  · rw [PyStr.ofText, List.getLast?_map, hc]
    rfl

/-! ### The entrypoint -/

/-- The exceptions that the handlers of `_captured_skill_identity` list. -/
def entrypointHandles : PyExc → Bool
  | .unicodeDecodeError | .osError | .valueError | .yamlError => true
  | _ => false

variable {parsers : Parsers} {policy : SkillValidationPolicy} {rootName : PyStr}

/-- The text between the fences of an entrypoint that decodes and is closed. -/
def FrontmatterOf (payload : List UInt8) (inside : Text) : Prop :=
  ∃ text lines after, decodeUtf8 payload = some text ∧ fenced text = some (lines, after) ∧
    inside = joinLines lines

/-- Reading the name and the version out of a frontmatter ends with the exception. -/
inductive MetadataRaises (parsers : Parsers) (rootName : PyStr) (inside : Text) (e : PyExc) : Prop
  | reading : loadFrontmatter parsers.load .reading inside = .error e →
      MetadataRaises parsers rootName inside e
  | building {items : List (Option PyStr × PyValue)} :
      loadFrontmatter parsers.load .reading inside = .ok items →
      loadFrontmatter parsers.load .building inside = .error e →
      MetadataRaises parsers rootName inside e
  | name {items built : List (Option PyStr × PyValue)} :
      loadFrontmatter parsers.load .reading inside = .ok items →
      loadFrontmatter parsers.load .building inside = .ok built →
      rawName built rootName = .error e → MetadataRaises parsers rootName inside e
  | version {items built : List (Option PyStr × PyValue)} {name : PyStr} :
      loadFrontmatter parsers.load .reading inside = .ok items →
      loadFrontmatter parsers.load .building inside = .ok built →
      rawName built rootName = .ok name → rawVersion built = .error e →
      MetadataRaises parsers rootName inside e

/-- What an entrypoint gives: the identity of the directory's name, or a blocker. -/
def Identified (rootName : PyStr) (result : Option SkillIdentity × List SkillPackageFinding) : Prop :=
  (∀ i : SkillIdentity, result.1 = some i → rootName = PyStr.ofText i.val.packageId.val) ∧
    (result.1 = none → ∃ f ∈ result.2, f.severity = .blocker)

theorem identified_of_blocker {f : SkillPackageFinding} (hf : f.severity = .blocker) :
    Identified rootName (none, [f]) :=
  ⟨fun _ hi => (nomatch hi), fun _ => ⟨f, List.mem_singleton_self f, hf⟩⟩

/-- A message-carrying finding raises nothing but a value error. -/
theorem handledFinding_error {x : Except ValidationError SkillPackageFinding} {e : PyExc}
    (h : handledFinding x = .error e) : e = .valueError := by
  rcases x with e' | f
  · exact (Except.error.inj h).symm
  · cases h

theorem unknownKeyFindings_error {ir : SkillIR} {e : PyExc}
    (h : unknownKeyFindings ir policy = .error e) : e = .valueError := by
  rw [unknownKeyFindings] at h
  dsimp only at h
  split at h
  · cases h
  · rcases bind_eq_error_iff.mp h with h | ⟨f, -, h⟩
    · exact handledFinding_error h
    · cases h

theorem reprInt_error {i : Int} {e : PyExc} (h : reprInt i = .error e) : e = .valueError := by
  rw [reprInt] at h
  split at h
  · exact (Except.error.inj h).symm
  · cases h

theorem lineBudgetFindings_error {text : Text} {e : PyExc}
    (h : lineBudgetFindings text policy = .error e) : e = .valueError := by
  rw [lineBudgetFindings] at h
  split at h
  · cases h
  · dsimp only at h
    split at h
    · rcases bind_eq_error_iff.mp h with h | ⟨shown, -, h⟩
      · exact reprInt_error h
      rcases bind_eq_error_iff.mp h with h | ⟨f, -, h⟩
      · exact handledFinding_error h
      · cases h
    · cases h

/-- The identity that an entrypoint declares is that of the directory's name. -/
theorem declaredIdentity_eq {ir : SkillIR} (hname : ∃ s : PyStr, ir.name = s.strip)
    {i : SkillIdentity} (h : (declaredIdentity rootName ir).1 = some i) :
    rootName = PyStr.ofText i.val.packageId.val := by
  rw [declaredIdentity] at h
  split at h
  · rename_i hdeclared
    split at h
    · rename_i identity hidentity
      obtain rfl := Option.some.inj h
      obtain ⟨t, ht, hid⟩ := packageId_of_newSkillIdentity hidentity
      obtain ⟨s, hs⟩ := hname
      rw [hid, trim_of_strip (hs.symm.trans ht), ← ht, hdeclared.2.2.2]
    · cases h
  · cases h

/-- A name that was declared is not blank, and names are stripped. -/
theorem buildSkillIr_name {parentName : PyStr} {text : Text} {ir : SkillIR}
    (h : buildSkillIr parsers.load parentName text = .ok ir) :
    (∃ s : PyStr, ir.name = s.strip) ∧ (ir.nameDeclared = true → ir.name ≠ []) := by
  rw [buildSkillIr] at h
  obtain ⟨fm, -, h⟩ := bind_eq_ok_iff.mp h
  dsimp only at h
  split at h
  · cases h
  obtain ⟨name, hname, h⟩ := bind_eq_ok_iff.mp h
  obtain ⟨version, -, h⟩ := bind_eq_ok_iff.mp h
  obtain rfl := Except.ok.inj h
  refine ⟨⟨name, rfl⟩, fun hdeclared => ?_⟩
  dsimp only at hdeclared ⊢
  split at hdeclared
  · rename_i s hget
    have hstrip : s.strip ≠ [] := by simpa using hdeclared
    have htruthy : s ≠ [] := by
      rintro rfl
      exact hstrip rfl
    rw [rawName, hget] at hname
    have : name = s := by
      simpa [shownOr, PyValue.truthy, PyValue.shown, htruthy] using hname.symm
    rw [this]
    exact hstrip
  · cases hdeclared

/-- `_validate_ir` identifies the directory or blocks, and raises value errors only. -/
theorem validateIr_cases {text : Text} {ir : SkillIR} (hname : ∃ s : PyStr, ir.name = s.strip)
    (hdeclared : ir.nameDeclared = true → ir.name ≠ []) :
    validateIr rootName text ir policy = .error .valueError ∨
      ∃ result, validateIr rootName text ir policy = .ok result ∧ Identified rootName result := by
  rcases hunknown : unknownKeyFindings ir policy with e | unknown
  · left
    rw [validateIr, hunknown, unknownKeyFindings_error hunknown]
    rfl
  rcases hbudget : lineBudgetFindings text policy with e | budget
  · left
    rw [validateIr, hunknown, hbudget, lineBudgetFindings_error hbudget]
    rfl
  right
  refine ⟨((declaredIdentity rootName ir).1,
      (if ir.nameDeclared = false then [findingAt missingName skillMdPath]
        else if ir.name ≠ rootName then [findingAt nameMismatch skillMdPath] else []) ++
        (if ir.description = [] then [findingAt missingDescription skillMdPath] else []) ++ unknown ++
        budget ++ (declaredIdentity rootName ir).2),
    by rw [validateIr, hunknown, hbudget]; rfl, fun i hi => declaredIdentity_eq hname hi,
    fun hnone => ?_⟩
  -- without an identity one of the three declarations fails, or the model refuses them
  by_cases hall : ir.nameDeclared ∧ ir.name ≠ [] ∧ ir.description ≠ [] ∧ ir.name = rootName
  · refine ⟨findingAt invalidIdentity skillMdPath, ?_, rfl⟩
    have hinvalid : (declaredIdentity rootName ir).2 = [findingAt invalidIdentity skillMdPath] := by
      rw [declaredIdentity, if_pos hall] at hnone ⊢
      split at hnone
      · cases hnone
      · rfl
    simp [hinvalid]
  · by_cases hdecl : ir.nameDeclared = true
    · by_cases hroot : ir.name = rootName
      · have hdescription : ir.description = [] := by
          by_contra hne
          exact hall ⟨hdecl, hdeclared hdecl, hne, hroot⟩
        exact ⟨findingAt missingDescription skillMdPath, by simp [hdescription], rfl⟩
      · exact ⟨findingAt nameMismatch skillMdPath, by simp [hdecl, hroot], rfl⟩
    · exact ⟨findingAt missingName skillMdPath, by simp [hdecl], rfl⟩

/-- The record that an entrypoint is read into. -/
def irOf (items : List (Option PyStr × PyValue)) (body : Text) (name version : PyStr) : SkillIR :=
  { name := name.strip
    nameDeclared :=
      match PyValue.get items "name" with
      | some (.str s) => s.strip != []
      | _ => false
    version := if version.strip = [] then PyStr.lit "0.1.0" else version.strip
    description :=
      match PyValue.get items "description" with
      | some (.str s) => s.strip
      | _ => []
    frontmatter := items
    body := body }

/-- The steps of `build_skill_ir` on a closed frontmatter. -/
theorem buildSkillIr_of_fenced {parentName : PyStr} {text : Text} {lines after : List Text}
    (h : fenced text = some (lines, after)) :
    buildSkillIr parsers.load parentName text = (do
      let items ← loadFrontmatter parsers.load .building (joinLines lines)
      let name ← rawName items parentName
      let version ← rawVersion items
      return irOf items (SkillsSdk.strip (joinLines after)) name version) := by
  rw [buildSkillIr, readFrontmatter, h]
  dsimp only
  rcases loadFrontmatter parsers.load .building (joinLines lines) with e | items
  · rfl
  · rfl

theorem FrontmatterOf.unique {payload : List UInt8} {inside inside' : Text}
    (h : FrontmatterOf payload inside) (h' : FrontmatterOf payload inside') : inside = inside' := by
  obtain ⟨text, lines, after, htext, hfence, rfl⟩ := h
  obtain ⟨text', lines', after', htext', hfence', rfl⟩ := h'
  obtain rfl := Option.some.inj (htext.symm.trans htext')
  rw [(Prod.mk.inj (Option.some.inj (hfence.symm.trans hfence'))).1]

/-- Past the first load, what raises is the building of the record. -/
theorem metadataRaises_iff {text : Text} {lines after : List Text}
    {items : List (Option PyStr × PyValue)} {e : PyExc} (hfence : fenced text = some (lines, after))
    (hreading : loadFrontmatter parsers.load .reading (joinLines lines) = .ok items) :
    MetadataRaises parsers rootName (joinLines lines) e ↔
      buildSkillIr parsers.load rootName text = .error e := by
  rw [buildSkillIr_of_fenced hfence]
  constructor
  · intro h
    cases h with
    | reading h => exact absurd (hreading.symm.trans h) (by simp)
    | building _ h => exact bind_eq_error_iff.mpr (Or.inl h)
    | name _ hbuilt h =>
      exact bind_eq_error_iff.mpr (Or.inr ⟨_, hbuilt, bind_eq_error_iff.mpr (Or.inl h)⟩)
    | version _ hbuilt hname h =>
      exact bind_eq_error_iff.mpr (Or.inr ⟨_, hbuilt,
        bind_eq_error_iff.mpr (Or.inr ⟨_, hname, bind_eq_error_iff.mpr (Or.inl h)⟩)⟩)
  · intro h
    rcases bind_eq_error_iff.mp h with h | ⟨built, hbuilt, h⟩
    · exact .building hreading h
    rcases bind_eq_error_iff.mp h with h | ⟨name, hname, h⟩
    · exact .name hreading hbuilt h
    rcases bind_eq_error_iff.mp h with h | ⟨version, -, h⟩
    · exact .version hreading hbuilt hname h
    · cases h

theorem MetadataRaises.unique {text : Text} {lines after : List Text} {e e' : PyExc}
    (hfence : fenced text = some (lines, after))
    (h : MetadataRaises parsers rootName (joinLines lines) e)
    (h' : MetadataRaises parsers rootName (joinLines lines) e') : e = e' := by
  rcases hreading : loadFrontmatter parsers.load .reading (joinLines lines) with e₀ | items
  · have hfirst : ∀ {e}, MetadataRaises parsers rootName (joinLines lines) e → e = e₀ := by
      intro e h
      cases h with
      | reading h => exact Except.error.inj (h.symm.trans hreading)
      | building h _ | name h _ _ | version h _ _ _ =>
        exact absurd (hreading.symm.trans h) (by simp)
    rw [hfirst h, hfirst h']
  · rw [metadataRaises_iff hfence hreading] at h h'
    exact Except.error.inj (h.symm.trans h')

/-- What reading the entrypoint comes to. -/
theorem readSkillIdentity_cases (parsers : Parsers) (rootName : PyStr) (payload : List UInt8)
    (policy : SkillValidationPolicy) :
    (∃ inside e, FrontmatterOf payload inside ∧ MetadataRaises parsers rootName inside e ∧
        readSkillIdentity parsers rootName (some payload) policy = .error e) ∨
      ((∀ inside e, FrontmatterOf payload inside → ¬ MetadataRaises parsers rootName inside e) ∧
        ((∃ e, readSkillIdentity parsers rootName (some payload) policy = .error e ∧
            entrypointHandles e = true) ∨
          ∃ result, readSkillIdentity parsers rootName (some payload) policy = .ok result ∧
            Identified rootName result)) := by
  unfold readSkillIdentity
  dsimp only
  rcases hdecode : decodeUtf8 payload with - | text
  · right
    refine ⟨?_, Or.inl ⟨.unicodeDecodeError, rfl, rfl⟩⟩
    rintro inside e ⟨text, lines, after, htext, -⟩
    exact absurd (hdecode.symm.trans htext) (by simp)
  dsimp only
  have hfrontmatter : ∀ {inside}, FrontmatterOf payload inside ↔
      ∃ lines after, fenced text = some (lines, after) ∧ inside = joinLines lines := by
    intro inside
    constructor
    · rintro ⟨text', lines, after, htext, hfence, rfl⟩
      obtain rfl := Option.some.inj (hdecode.symm.trans htext)
      exact ⟨lines, after, hfence, rfl⟩
    · rintro ⟨lines, after, hfence, rfl⟩
      exact ⟨text, lines, after, hdecode, hfence, rfl⟩
  rcases hfence : fenced text with - | ⟨lines, after⟩
  · right
    refine ⟨fun inside e hinside => ?_, Or.inr ⟨(none, [findingAt unclosedFrontmatter skillMdPath]), ?_,
      identified_of_blocker rfl⟩⟩
    · obtain ⟨lines, after, h, -⟩ := hfrontmatter.mp hinside
      exact absurd (hfence.symm.trans h) (by simp)
    · rw [readFrontmatter, hfence]
      rfl
  have hinside : ∀ {inside}, FrontmatterOf payload inside ↔ inside = joinLines lines := by
    intro inside
    rw [hfrontmatter, hfence]
    constructor
    · rintro ⟨lines', after', h, rfl⟩
      rw [(Prod.mk.inj (Option.some.inj h)).1]
    · rintro rfl
      exact ⟨lines, after, rfl, rfl⟩
  rw [readFrontmatter, hfence]
  dsimp only
  -- one stage after the other: each raises, or hands on to the next
  rcases hreading : loadFrontmatter parsers.load .reading (joinLines lines) with e | items
  · exact Or.inl ⟨_, e, hinside.mpr rfl, .reading hreading, rfl⟩
  rcases hbuilt : buildSkillIr parsers.load rootName text with e | ir
  · exact Or.inl ⟨_, e, hinside.mpr rfl, (metadataRaises_iff hfence hreading).mpr hbuilt, rfl⟩
  right
  constructor
  · intro inside e h hraises
    obtain rfl := hinside.mp h
    exact absurd (hbuilt.symm.trans ((metadataRaises_iff hfence hreading).mp hraises)) (by simp)
  · obtain ⟨hstripped, hdeclared⟩ := buildSkillIr_name hbuilt
    have hcases : validateIr rootName text ir policy = .error .valueError ∨
        ∃ result, validateIr rootName text ir policy = .ok result ∧ Identified rootName result :=
      validateIr_cases hstripped hdeclared
    rcases hcases with h | ⟨result, h, hidentified⟩
    · exact Or.inl ⟨.valueError, h, rfl⟩
    · exact Or.inr ⟨result, h, hidentified⟩

/-- The bytes of the entrypoint raise what no handler lists. -/
def EntrypointHazard (parsers : Parsers) (rootName : PyStr) (payload : Option (List UInt8)) : Prop :=
  ∃ bytes inside e, payload = some bytes ∧ FrontmatterOf bytes inside ∧
    MetadataRaises parsers rootName inside e ∧ entrypointHandles e = false

/-- A handled exception becomes a finding that blocks. -/
theorem capturedSkillIdentity_handled {payload : Option (List UInt8)} {e : PyExc}
    (h : readSkillIdentity parsers rootName payload policy = .error e)
    (hhandles : entrypointHandles e = true) :
    ∃ result, capturedSkillIdentity parsers rootName payload policy = .ok result ∧
      Identified rootName result := by
  rw [capturedSkillIdentity, h]
  cases e with
  | unicodeDecodeError | osError | valueError | yamlError => exact ⟨_, rfl, identified_of_blocker rfl⟩
  | typeError | keyError | recursionError | other => cases hhandles

theorem capturedSkillIdentity_unhandled {payload : Option (List UInt8)} {e : PyExc}
    (h : readSkillIdentity parsers rootName payload policy = .error e)
    (hhandles : entrypointHandles e = false) :
    capturedSkillIdentity parsers rootName payload policy = .error e := by
  rw [capturedSkillIdentity, h]
  cases e with
  | unicodeDecodeError | osError | valueError | yamlError => cases hhandles
  | typeError | keyError | recursionError | other => rfl

/-- **The entrypoint** raises exactly at a hazard, and else identifies the
directory or blocks. -/
theorem capturedSkillIdentity_cases (parsers : Parsers) (rootName : PyStr)
    (payload : Option (List UInt8)) (policy : SkillValidationPolicy) :
    (EntrypointHazard parsers rootName payload ∧
        Raises (capturedSkillIdentity parsers rootName payload policy)) ∨
      (¬ EntrypointHazard parsers rootName payload ∧
        ∃ result, capturedSkillIdentity parsers rootName payload policy = .ok result ∧
          Identified rootName result) := by
  rcases payload with - | bytes
  · right
    refine ⟨?_, capturedSkillIdentity_handled rfl rfl⟩
    rintro ⟨bytes, inside, e, h, -⟩
    cases h
  rcases readSkillIdentity_cases parsers rootName bytes policy with
    ⟨inside, e, hinside, hraises, h⟩ | ⟨hnone, ⟨e, h, hhandles⟩ | ⟨result, h, hidentified⟩⟩
  · cases hhandles : entrypointHandles e with
    | false =>
      exact Or.inl ⟨⟨bytes, inside, e, rfl, hinside, hraises, hhandles⟩, e,
        capturedSkillIdentity_unhandled h hhandles⟩
    | true =>
      refine Or.inr ⟨?_, capturedSkillIdentity_handled h hhandles⟩
      rintro ⟨bytes', inside', e', hbytes, hinside', hraises', hunhandled⟩
      obtain rfl := Option.some.inj hbytes
      obtain rfl := hinside.unique hinside'
      obtain ⟨text, lines, after, -, hfence, rfl⟩ := hinside
      obtain rfl := MetadataRaises.unique hfence hraises hraises'
      rw [hhandles] at hunhandled
      cases hunhandled
  · refine Or.inr ⟨?_, capturedSkillIdentity_handled h hhandles⟩
    rintro ⟨bytes', inside, e', hbytes, hinside, hraises, -⟩
    obtain rfl := Option.some.inj hbytes
    exact hnone inside e' hinside hraises
  · refine Or.inr ⟨?_, result, ?_, hidentified⟩
    · rintro ⟨bytes', inside, e', hbytes, hinside, hraises, -⟩
      obtain rfl := Option.some.inj hbytes
      exact hnone inside e' hinside hraises
    · rw [capturedSkillIdentity, h]

/-! ### The package -/

/-- What makes the validation of a package raise once its root has been checked. -/
inductive SkillHazard (parsers : Parsers) (policy : SkillValidationPolicy) (source : PackageSource) :
    Prop
  /-- The root opens and cannot be listed: the finding would quote a path that is none. -/
  | unlisted : source.root = .unlisted → SkillHazard parsers policy source
  /-- A reference too deep for a limit that has more digits than a text of it may have. -/
  | depth : source.root.Unprintable policy → SkillHazard parsers policy source
  /-- A required path that no model can quote. -/
  | required {path : PyStr} : path ∈ policy.requiredFiles → path.encode? = none →
      SkillHazard parsers policy source
  /-- A captured reference whose YAML raises what no handler lists. -/
  | reference {path : PortablePath} {payload : List UInt8} {e : PyExc} :
      policy.checkReferenceContent = true → RootCaptures source.root path payload →
      "references/".toList.isPrefixOf path.val = true → ReferenceRaises parsers path payload e →
      referenceHandles e = false → SkillHazard parsers policy source
  /-- A captured entrypoint whose frontmatter raises what no handler lists. -/
  | entrypoint {payload : List UInt8} {inside : Text} {e : PyExc} :
      RootCaptures source.root skillMdPath payload → FrontmatterOf payload inside →
      MetadataRaises parsers source.rootName inside e → entrypointHandles e = false →
      SkillHazard parsers policy source

variable {sha256 : List UInt8 → Sha256} {source : PackageSource}

theorem requiredFiles_portable (hpolicy : policyFindings policy = []) :
    ∀ path ∈ policy.requiredFiles, isPortableStr path = true := by
  rw [policyFindings] at hpolicy
  split at hpolicy
  · rename_i h
    rw [Bool.and_eq_true, List.all_eq_true] at h
    exact h.1
  · cases hpolicy

theorem mem_capturedReferences {captured : CapturedBytes} {c : PortablePath × List UInt8} :
    c ∈ capturedReferences captured ↔ c ∈ captured ∧ "references/".toList.isPrefixOf c.1.val = true := by
  rw [capturedReferences, List.mem_filter, (List.perm_insertionSort _ captured).mem_iff]

/-- The policy is applied to the end, unless a required path cannot be quoted or
a reference raises what no handler lists; its findings block. -/
theorem packagePolicyFindings_cases (parsers : Parsers) (captured : CapturedBytes)
    (hpolicy : policyFindings policy = []) :
    (((∃ path ∈ policy.requiredFiles, path.encode? = none) ∨
        policy.checkReferenceContent = true ∧ ∃ c ∈ capturedReferences captured, ∃ e,
          ReferenceRaises parsers c.1 c.2 e ∧ referenceHandles e = false) ∧
      Raises (packagePolicyFindings parsers captured policy)) ∨
    ((∀ path ∈ policy.requiredFiles, path.encode? ≠ none) ∧
      (policy.checkReferenceContent = true → ∀ c ∈ capturedReferences captured, ∀ e,
        ReferenceRaises parsers c.1 c.2 e → referenceHandles e = true) ∧
      ∃ fs, packagePolicyFindings parsers captured policy = .ok fs ∧ ∀ f ∈ fs, f.severity = .blocker) := by
  rcases hmissing : missingRequired captured policy with e | missing
  · have hraises := (raises_missingRequired_iff (requiredFiles_portable hpolicy)).mp ⟨e, hmissing⟩
    exact Or.inl ⟨Or.inl hraises, .validationError e, by rw [packagePolicyFindings, hmissing]; rfl⟩
  have hsteps : packagePolicyFindings parsers captured policy =
      if policy.checkReferenceContent then do
        let found ← (capturedReferences captured).mapM fun c =>
          (referenceFindings parsers c.1 c.2).mapError SkillRaised.exc
        return missing ++ found.flatten
      else .ok missing := by
    rw [packagePolicyFindings, hmissing]
    rfl
  rw [hsteps]
  -- the required files are quoted before a reference is read
  have hquoted : ∀ path ∈ policy.requiredFiles, path.encode? ≠ none := by
    intro path hpath hencode
    obtain ⟨e, he⟩ := (raises_missingRequired_iff (requiredFiles_portable hpolicy)).mpr
      ⟨path, hpath, hencode⟩
    exact absurd (hmissing.symm.trans he) (by simp)
  have hblockers := missingRequired_blockers hmissing
  by_cases hcheck : policy.checkReferenceContent = true
  · rw [if_pos hcheck]
    -- each reference is read in turn; one exception that no handler lists is enough
    by_cases hhazard : ∃ c ∈ capturedReferences captured, ∃ e,
        ReferenceRaises parsers c.1 c.2 e ∧ referenceHandles e = false
    · refine Or.inl ⟨Or.inr ⟨hcheck, hhazard⟩, ?_⟩
      obtain ⟨c, hc, e, hraises, hhandles⟩ := hhazard
      have hc' : Raises (referenceFindings parsers c.1 c.2) := by
        rcases referenceFindings_cases parsers c.1 c.2 with ⟨e', -, -, h⟩ | ⟨fs, -, -, h⟩
        · exact ⟨e', h⟩
        · exact absurd ((h e hraises).1.symm.trans hhandles) (by decide)
      exact raises_bind_iff.mpr (Or.inl (raises_mapM_iff.mpr ⟨c, hc, raises_mapError_iff.mpr hc'⟩))
    · right
      have hquiet : ∀ c ∈ capturedReferences captured, ∀ e, ReferenceRaises parsers c.1 c.2 e →
          referenceHandles e = true := by
        intro c hc e hraises
        by_contra hhandles
        exact hhazard ⟨c, hc, e, hraises, by simpa using hhandles⟩
      refine ⟨hquoted, fun _ => hquiet, ?_⟩
      obtain ⟨found, hfound⟩ : ∃ found, ((capturedReferences captured).mapM fun c =>
          (referenceFindings parsers c.1 c.2).mapError SkillRaised.exc) = .ok found := by
        refine ok_of_not_raises fun hraises => ?_
        obtain ⟨c, hc, hc'⟩ := raises_mapM_iff.mp hraises
        rcases referenceFindings_cases parsers c.1 c.2 with ⟨e, he, hhandles, -⟩ | ⟨fs, hfs, -⟩
        · exact absurd ((hquiet c hc e he).symm.trans hhandles) (by decide)
        · rw [raises_mapError_iff, hfs] at hc'
          exact not_raises_ok hc'
      refine ⟨missing ++ found.flatten, by rw [hfound]; rfl, ?_⟩
      intro f hf
      rcases List.mem_append.mp hf with hf | hf
      · exact hblockers f hf
      · obtain ⟨fs, hfs, hf⟩ := List.mem_flatten.mp hf
        obtain ⟨c, -, hc⟩ := mem_of_mapM_eq_ok hfound fs hfs
        rcases referenceFindings_cases parsers c.1 c.2 with ⟨e, -, -, h⟩ | ⟨fs', h, hblocker, -⟩
        · rw [h] at hc
          cases hc
        · rw [h] at hc
          obtain rfl : fs' = fs := Except.ok.inj hc
          exact hblocker f hf
  · rw [if_neg hcheck]
    exact Or.inr ⟨hquoted, fun h => absurd h hcheck, missing, rfl, hblockers⟩

/-- What an inspection leaves for the result. -/
structure Inspected.Sound (rootName : PyStr) (i : Inspected) : Prop where
  identity_eq : ∀ identity : SkillIdentity, i.identity = some identity →
    rootName = PyStr.ofText identity.val.packageId.val
  blocked : i.identity = none → ∃ f ∈ i.findings, f.severity = .blocker
  files_ne_nil : i.identity ≠ none → i.files ≠ []
  sorted : i.files.Pairwise fun a b => a.path.val < b.path.val

theorem scanFiles_sorted {root : RootObservation} (hdistinct : root.Distinct) {scan : Scan}
    (h : scanFiles sha256 policy root = .ok scan) :
    scan.files.Pairwise fun a b => a.path.val < b.path.val := by
  cases root with
  | listed changed entries =>
    exact (complete_of_scanFiles hdistinct h).sorted
  | unlisted =>
    obtain ⟨e, he⟩ : ∃ e, scanFiles sha256 policy .unlisted = .error e := scanFiles_unlisted
    exact absurd (h.symm.trans he) (by simp)
  | unsupported | unopened =>
    obtain rfl := Except.ok.inj h
    exact List.Pairwise.nil

/-- **The branch that scans** raises exactly at a hazard. -/
theorem inspectPackage_cases (parsers : Parsers) (sha256 : List UInt8 → Sha256)
    (source : PackageSource) (hpolicy : policyFindings policy = []) :
    (SkillHazard parsers policy source ∧ Raises (inspectPackage parsers sha256 source policy)) ∨
      (¬ SkillHazard parsers policy source ∧
        ∃ i, inspectPackage parsers sha256 source policy = .ok i ∧ i.Sound source.rootName) := by
  by_cases hroot : source.root = .unlisted
  · obtain ⟨e, he⟩ : ∃ e, scanFiles sha256 policy source.root = .error e := hroot ▸ scanFiles_unlisted
    exact Or.inl ⟨.unlisted hroot, e, by rw [inspectPackage, he]; rfl⟩
  by_cases hlong : source.root.Unprintable policy
  · exact Or.inl ⟨.depth hlong, raises_bind_iff.mpr (Or.inl (raises_scanFiles hlong))⟩
  obtain ⟨scan, hscan, hok, -⟩ : ∃ scan, scanFiles sha256 policy source.root = .ok scan ∧
      ScanOk sha256 source.root scan ∧ _ := scanFiles_of_ne_unlisted source.distinct hroot hlong
  have hlookup : ∀ bytes, scan.captured.lookup skillMdPath = some bytes ↔
      RootCaptures source.root skillMdPath bytes := fun bytes => by
    rw [KeyedList.lookup_eq_some_iff_mem hok.keys_nodup, hok.captured_iff]
  have hsteps : inspectPackage parsers sha256 source policy = (do
      let required ← packagePolicyFindings parsers scan.captured policy
      let read ←
        (capturedSkillIdentity parsers source.rootName (scan.captured.lookup skillMdPath) policy).mapError
          SkillRaised.exc
      return ⟨scan.files, read.1, scan.findings ++ required ++ read.2⟩) := by
    rw [inspectPackage, hscan]
    rfl
  rw [hsteps]
  rcases packagePolicyFindings_cases parsers scan.captured hpolicy with
    ⟨hhazard, hraises⟩ | ⟨hquoted, hquiet, required, hrequired, -⟩
  · refine Or.inl ⟨?_, raises_bind_iff.mpr (Or.inl hraises)⟩
    rcases hhazard with ⟨path, hpath, hencode⟩ | ⟨hcheck, c, hc, e, he, hhandles⟩
    · exact .required hpath hencode
    · obtain ⟨hmem, hleading⟩ := mem_capturedReferences.mp hc
      exact .reference hcheck ((hok.captured_iff c.1 c.2).mp hmem) hleading he hhandles
  rw [hrequired]
  rcases capturedSkillIdentity_cases parsers source.rootName (scan.captured.lookup skillMdPath) policy
    with ⟨⟨bytes, inside, e, hbytes, hinside, he, hhandles⟩, hraises⟩ | ⟨hnone, result, hresult, hidentified⟩
  · refine Or.inl ⟨.entrypoint ((hlookup bytes).mp hbytes) hinside he hhandles, ?_⟩
    exact raises_bind_iff.mpr (Or.inr ⟨required, rfl,
      raises_bind_iff.mpr (Or.inl (raises_mapError_iff.mpr hraises))⟩)
  right
  constructor
  · intro hhazard
    cases hhazard with
    | unlisted h => exact hroot h
    | depth h => exact hlong h
    | required hpath hencode => exact hquoted _ hpath hencode
    | reference hcheck hcaptured hleading he hhandles =>
      have hmem := (hok.captured_iff _ _).mpr hcaptured
      have := hquiet hcheck _ (mem_capturedReferences.mpr ⟨hmem, hleading⟩) _ he
      exact absurd (this.symm.trans hhandles) (by decide)
    | entrypoint hcaptured hinside he hhandles =>
      exact hnone ⟨_, _, _, (hlookup _).mpr hcaptured, hinside, he, hhandles⟩
  · refine ⟨⟨scan.files, result.1, scan.findings ++ required ++ result.2⟩, by rw [hresult]; rfl, ?_⟩
    refine ⟨hidentified.1, fun h => ?_, fun h => ?_, scanFiles_sorted source.distinct hscan⟩
    · obtain ⟨f, hf, hblocker⟩ := hidentified.2 h
      exact ⟨f, List.mem_append_right _ hf, hblocker⟩
    · -- an identity is read from a captured SKILL.md
      rcases hbytes : scan.captured.lookup skillMdPath with - | bytes
      · rw [hbytes] at hresult
        obtain rfl := Except.ok.inj hresult
        exact absurd rfl h
      · have hmem := (KeyedList.lookup_eq_some_iff_mem hok.keys_nodup).mp hbytes
        exact List.ne_nil_of_mem ((hok.files_iff _).mpr ⟨_, _, hmem, rfl⟩)

/-! ### The candidate -/

/-- A name that is a text stands for bytes. -/
theorem encodeEscaped?_ofText (t : Text) : (PyStr.ofText t).encodeEscaped? ≠ none := by
  induction t with
  | nil => exact fun h => nomatch h
  | cons c t ih =>
    obtain ⟨bytes, h⟩ := Option.ne_none_iff_exists'.mp ih
    have hcons : (PyStr.ofText (c :: t)).encodeEscaped? = some (String.utf8EncodeChar c ++ bytes) :=
      congrArg (Option.map (String.utf8EncodeChar c ++ ·)) h
    rw [hcons]
    exact Option.some_ne_none _

theorem isWord_take {n m : Nat} (hm : 0 < m) {digest : Text} (h : isHexOfLength n digest = true)
    (hn : 0 < n) : digest.take m ≠ [] ∧ ∀ c ∈ digest.take m, isLowerAlnum c = true := by
  obtain ⟨hlen, hhex⟩ := isHexOfLength_iff.mp h
  refine ⟨?_, fun c hc => isLowerAlnum_of_isHex (hhex c (List.mem_of_mem_take hc))⟩
  rw [← List.length_pos_iff, List.length_take]
  omega

/-- The digest that stands in for a name is an identifier. -/
theorem isIdentifier_invalidPackage (root content : Sha256) :
    isIdentifier ("invalid-package-".toList ++ root.val.take 6 ++ '-' :: content.val.take 12) =
      true := by
  have hwords : isIdentifier ("invalid".toList ++ ["package".toList, root.val.take 6,
      content.val.take 12].flatMap fun u => '-' :: u) = true := by
    apply isIdentifier_of_words
    intro u hu
    simp only [List.mem_cons, List.not_mem_nil, or_false] at hu
    rcases hu with rfl | rfl | rfl | rfl
    · exact ⟨by decide, List.all_eq_true.mp (by decide)⟩
    · exact ⟨by decide, List.all_eq_true.mp (by decide)⟩
    · exact isWord_take (by decide) root.2 (by decide)
    · exact isWord_take (by decide) content.2 (by decide)
  simpa using hwords

/-- A candidate is resolved unless the name of the directory stands for no bytes. -/
theorem candidateOf_cases (sha256 : List UInt8 → Sha256) (rootName : PyStr) (revision : GitRevision)
    (files : List PackageManifestFile) :
    (rootName.encodeEscaped? = none ∧
        candidateOf sha256 rootName revision files = .error (.exc .valueError)) ∨
      (rootName.encodeEscaped? ≠ none ∧ ∃ c : PackageCandidateIdentity,
        candidateOf sha256 rootName revision files = .ok c ∧ c.sourceRevision = revision ∧
        c.contentSha256 = candidateContentSha256 sha256 (files.map PackageManifestFile.record) ∧
        ∀ p : PackageId, rootName = PyStr.ofText p.val → c.packageId = p) := by
  have hid : ∀ t, candidatePackageId sha256 rootName
      (candidateContentSha256 sha256 (files.map PackageManifestFile.record)) = some t →
      ∀ h : isIdentifier t = true, candidateOf sha256 rootName revision files =
        .ok ⟨⟨t, h⟩, revision, candidateContentSha256 sha256 (files.map PackageManifestFile.record)⟩ := by
    intro t ht h
    rw [candidateOf, ht]
    exact dif_pos h
  rcases hname : rootName.encode?.filter isIdentifier with - | t
  -- a name that is no identifier is digested, as bytes
  · have hnot : ∀ p : PackageId, rootName ≠ PyStr.ofText p.val := by
      rintro p rfl
      rw [PyStr.encode?_ofText, Option.filter_some, if_pos p.2] at hname
      cases hname
    rcases hbytes : rootName.encodeEscaped? with - | bytes
    · refine Or.inl ⟨rfl, ?_⟩
      rw [candidateOf, candidatePackageId, hname, hbytes]
      rfl
    · have hidentifier := isIdentifier_invalidPackage (sha256 bytes)
        (candidateContentSha256 sha256 (files.map PackageManifestFile.record))
      refine Or.inr ⟨Option.some_ne_none _, _, hid _ ?_ hidentifier, rfl, rfl,
        fun p hp => absurd hp (hnot p)⟩
      rw [candidatePackageId, hname, hbytes]
      rfl
  · obtain ⟨hencode, hidentifier⟩ := Option.filter_eq_some_iff.mp hname
    obtain rfl := PyStr.encode?_eq_some_iff.mp hencode
    refine Or.inr ⟨encodeEscaped?_ofText t, _, hid t ?_ hidentifier, rfl, rfl, fun p hp => ?_⟩
    · rw [candidatePackageId, hname]
    · exact Subtype.ext (PyStr.ofText_injective hp)

/-! ### The result -/

/-- What makes the inspection of a root raise. -/
inductive RootHazard (parsers : Parsers) (policy : SkillValidationPolicy) (source : PackageSource) : Prop
  /-- The operating system refuses to say whether the root is a directory. -/
  | root {e : PyExc} : source.isDirectory = .error e → RootHazard parsers policy source
  /-- It refuses to say whether the directory has a SKILL.md. -/
  | skillMd {e : PyExc} : source.isDirectory = .ok true → source.hasSkillMd = .error e →
      RootHazard parsers policy source
  | package : source.isDirectory = .ok true → source.hasSkillMd = .ok true →
      SkillHazard parsers policy source → RootHazard parsers policy source

/-- On a directory with a SKILL.md the hazards are those of its package. -/
theorem rootHazard_iff {parsers : Parsers} {policy : SkillValidationPolicy} {source : PackageSource}
    (hdirectory : source.isDirectory = .ok true) (hskill : source.hasSkillMd = .ok true) :
    RootHazard parsers policy source ↔ SkillHazard parsers policy source := by
  constructor
  · intro h
    cases h with
    | root h => exact absurd (hdirectory.symm.trans h) (by simp)
    | skillMd _ h => exact absurd (hskill.symm.trans h) (by simp)
    | package _ _ h => exact h
  · exact .package hdirectory hskill

/-- A root that is no directory raises nothing. -/
theorem RootHazard.isDirectory_ne {parsers : Parsers} {policy : SkillValidationPolicy}
    {source : PackageSource} (h : RootHazard parsers policy source) : source.isDirectory ≠ .ok false := by
  cases h with
  | root h => simp [h]
  | skillMd h _ => simp [h]
  | package h _ _ => simp [h]

/-- Nor does a directory without a SKILL.md. -/
theorem RootHazard.hasSkillMd_ne {parsers : Parsers} {policy : SkillValidationPolicy}
    {source : PackageSource} (h : RootHazard parsers policy source)
    (hdirectory : source.isDirectory = .ok true) : source.hasSkillMd ≠ .ok false := by
  cases h with
  | root h => exact absurd (hdirectory.symm.trans h) (by simp)
  | skillMd _ h => simp [h]
  | package _ h _ => simp [h]

theorem inspectRoot_cases (parsers : Parsers) (sha256 : List UInt8 → Sha256) (source : PackageSource)
    (hpolicy : policyFindings policy = []) :
    (RootHazard parsers policy source ∧ Raises (inspectRoot parsers sha256 source policy)) ∨
      (¬ RootHazard parsers policy source ∧
        ∃ i, inspectRoot parsers sha256 source policy = .ok i ∧ i.Sound source.rootName) := by
  -- a root that is refused has no files, and a blocker
  have hrefused : ∀ fs : List SkillPackageFinding, (∃ f ∈ fs, f.severity = .blocker) →
      Inspected.Sound source.rootName { findings := fs } := fun fs hfs =>
    ⟨fun _ hi => (nomatch hi), fun _ => hfs, fun h => absurd rfl h, List.Pairwise.nil⟩
  rw [inspectRoot_eq]
  rcases hdirectory : source.isDirectory with e | (- | -)
  · exact Or.inl ⟨.root hdirectory, _, rfl⟩
  · exact Or.inr ⟨fun h => h.isDirectory_ne hdirectory, _, rfl,
      hrefused _ ⟨_, List.mem_singleton_self _, rfl⟩⟩
  rcases hskill : source.hasSkillMd with e | (- | -)
  · exact Or.inl ⟨.skillMd hdirectory hskill, _, rfl⟩
  · exact Or.inr ⟨fun h => h.hasSkillMd_ne hdirectory hskill, _, rfl,
      hrefused _ ⟨_, List.mem_append_right _ (List.mem_singleton_self _), rfl⟩⟩
  dsimp only
  rw [rootHazard_iff hdirectory hskill]
  rcases inspectPackage_cases parsers sha256 source hpolicy with ⟨hhazard, hraises⟩ | ⟨hnone, i, hi, hsound⟩
  · exact Or.inl ⟨hhazard, raises_bind_iff.mpr (Or.inl hraises)⟩
  · refine Or.inr ⟨hnone,
      { i with findings := rootNameFindings source.rootName ++ i.findings }, by rw [hi]; rfl,
      hsound.identity_eq, fun h => ?_, hsound.files_ne_nil, hsound.sorted⟩
    obtain ⟨f, hf, hblocker⟩ := hsound.blocked h
    exact ⟨f, List.mem_append_right _ hf, hblocker⟩

theorem candidate?_of_revision {rootName sourceRevision : PyStr} {revision : GitRevision}
    {files : List PackageManifestFile} (h : revision? sourceRevision = some revision) :
    candidate? sha256 rootName sourceRevision files =
      some <$> candidateOf sha256 rootName revision files := by
  rw [candidate?, h]

theorem revision?_ofText (revision : GitRevision) :
    revision? (PyStr.ofText revision.val) = some revision := by
  rw [revision?, PyStr.encode?_ofText]
  exact dif_pos revision.2

/-- A text that is a revision is written like it. -/
theorem eq_ofText_of_revision? {sourceRevision : PyStr} {revision : GitRevision}
    (h : revision? sourceRevision = some revision) : sourceRevision = PyStr.ofText revision.val := by
  obtain ⟨t, ht, h⟩ := Option.bind_eq_some_iff.mp h
  split_ifs at h
  rw [← Option.some.inj h]
  exact PyStr.encode?_eq_some_iff.mp ht

/-- What the validator hands to its model under a valid policy and revision. -/
structure Resolved (sha256 : List UInt8 → Sha256) (rootName : PyStr) (revision : GitRevision)
    (i : Inspected) (candidate : PackageCandidateIdentity) : Prop where
  sound : i.Sound rootName
  revision_eq : candidate.sourceRevision = revision
  content_eq : candidate.contentSha256 =
    candidateContentSha256 sha256 (i.files.map PackageManifestFile.record)
  identity_eq : ∀ identity : SkillIdentity, i.identity = some identity →
    identity.val.packageId = candidate.packageId

/-- A list in strict order of path has no path twice. -/
theorem nodup_of_sorted {files : List PackageManifestFile}
    (h : files.Pairwise fun a b => a.path.val < b.path.val) : (files.map (·.path)).Nodup := by
  rw [List.Nodup, List.pairwise_map]
  exact h.imp fun hlt heq => absurd (congrArg Subtype.val heq) (ne_of_lt hlt)

/-- The model accepts what the validator builds. -/
theorem Resolved.validate_eq_ok {rootName sourceRevision : PyStr} {revision : GitRevision}
    {i : Inspected} {candidate : PackageCandidateIdentity}
    (h : Resolved sha256 rootName revision i candidate) :
    (resultOf sourceRevision i (some candidate)).validate = .ok () := by
  have hnodup := nodup_of_sorted h.sound.sorted
  have hstatus : (resultOf sourceRevision i (some candidate)).status =
      if (revisionFindings sourceRevision ++ i.findings).any (·.severity = .blocker) then .blocked
      else .pass := rfl
  by_cases hany : ∃ f ∈ revisionFindings sourceRevision ++ i.findings, f.severity = .blocker
  · have hsome : (revisionFindings sourceRevision ++ i.findings).any (·.severity = .blocker) = true := by
      obtain ⟨f, hf, hblocker⟩ := hany
      exact List.any_eq_true.mpr ⟨f, hf, by simpa using hblocker⟩
    rw [if_pos hsome] at hstatus
    refine (SkillPackageValidationData.validate_blocked_iff hstatus).mpr ⟨?_, hnodup⟩
    obtain ⟨f, hf, hblocker⟩ := hany
    exact List.ne_nil_of_mem (List.mem_filter.mpr ⟨hf, by simpa using hblocker⟩)
  · have hnot : ¬ (revisionFindings sourceRevision ++ i.findings).any (·.severity = .blocker) = true := by
      intro h
      obtain ⟨f, hf, hblocker⟩ := List.any_eq_true.mp h
      exact hany ⟨f, hf, by simpa using hblocker⟩
    rw [if_neg hnot] at hstatus
    -- without an identity there is a blocker
    have hidentity : i.identity ≠ none := by
      intro hnone
      obtain ⟨f, hf, hblocker⟩ := h.sound.blocked hnone
      exact hany ⟨f, List.mem_append_right _ hf, hblocker⟩
    refine (SkillPackageValidationData.validate_pass_iff hstatus).mpr
      ⟨?_, ⟨Option.some_ne_none _, hidentity, h.sound.files_ne_nil hidentity⟩, ?_, hnodup⟩
    · refine List.filter_eq_nil_iff.mpr fun f hf hblocker => hany ⟨f, hf, by simpa using hblocker⟩
    · obtain ⟨identity, heq⟩ := Option.ne_none_iff_exists'.mp hidentity
      have hpackage := h.identity_eq identity heq
      simp [resultOf, heq, hpackage]

/-- **The validator on a valid policy and revision**: it raises exactly at a
hazard of the root, or on a name that stands for no bytes. -/
theorem validateSkillPackage_cases (parsers : Parsers) (sha256 : List UInt8 → Sha256)
    (source : PackageSource) (revision : GitRevision) (hpolicy : policyFindings policy = []) :
    ((RootHazard parsers policy source ∨ source.rootName.encodeEscaped? = none) ∧
        Raises (validateSkillPackage parsers sha256 source (PyStr.ofText revision.val) policy)) ∨
      (¬ RootHazard parsers policy source ∧ source.rootName.encodeEscaped? ≠ none ∧
        ∃ i candidate, Resolved sha256 source.rootName revision i candidate ∧
          ∃ r, validateSkillPackage parsers sha256 source (PyStr.ofText revision.val) policy = .ok r ∧
            r.val = resultOf (PyStr.ofText revision.val) i (some candidate)) := by
  rw [validateSkillPackage_eq hpolicy]
  rcases inspectRoot_cases parsers sha256 source hpolicy with ⟨hhazard, hraises⟩ | ⟨hnone, i, hi, hsound⟩
  · exact Or.inl ⟨Or.inl hhazard, raises_bind_iff.mpr (Or.inl hraises)⟩
  rw [hi]
  have hcandidate : candidate? sha256 source.rootName (PyStr.ofText revision.val) i.files =
      some <$> candidateOf sha256 source.rootName revision i.files :=
    candidate?_of_revision (revision?_ofText revision)
  rcases candidateOf_cases sha256 source.rootName revision i.files with
    ⟨hbytes, herror⟩ | ⟨hbytes, candidate, hok, hrevision, hcontent, hname⟩
  · refine Or.inl ⟨Or.inr hbytes, .exc .valueError, ?_⟩
    change (do
      let candidate ← candidate? sha256 source.rootName (PyStr.ofText revision.val) i.files
      modelCall (construct SkillPackageValidationData.validate
        (resultOf (PyStr.ofText revision.val) i candidate))) = _
    rw [hcandidate, herror]
    rfl
  · have hresolved : Resolved sha256 source.rootName revision i candidate :=
      ⟨hsound, hrevision, hcontent, fun identity h => (hname _ (hsound.identity_eq identity h)).symm⟩
    refine Or.inr ⟨hnone, hbytes, i, candidate, hresolved, ⟨_, hresolved.validate_eq_ok⟩, ?_, rfl⟩
    change (do
      let candidate ← candidate? sha256 source.rootName (PyStr.ofText revision.val) i.files
      modelCall (construct SkillPackageValidationData.validate
        (resultOf (PyStr.ofText revision.val) i candidate))) = _
    rw [hcandidate, hok]
    change modelCall (construct SkillPackageValidationData.validate
      (resultOf (PyStr.ofText revision.val) i (some candidate))) = _
    rw [construct_of_ok hresolved.validate_eq_ok]
    rfl

/-- Under a revision that is none the result blocks, and its model accepts it. -/
theorem validate_resultOf_of_no_revision {rootName sourceRevision : PyStr} {i : Inspected}
    (hrevision : revision? sourceRevision = none) (hsound : i.Sound rootName) :
    (resultOf sourceRevision i none).validate = .ok () := by
  have hmem : plainFinding invalidSourceRevision ∈ revisionFindings sourceRevision ++ i.findings := by
    rw [revisionFindings, if_pos hrevision]
    exact List.mem_append_left _ (List.mem_singleton_self _)
  have hany : (revisionFindings sourceRevision ++ i.findings).any (·.severity = .blocker) = true :=
    List.any_eq_true.mpr ⟨_, hmem, rfl⟩
  have hstatus : (resultOf sourceRevision i none).status = .blocked := if_pos hany
  refine (SkillPackageValidationData.validate_blocked_iff hstatus).mpr ⟨?_, nodup_of_sorted hsound.sorted⟩
  exact List.ne_nil_of_mem (List.mem_filter.mpr ⟨hmem, rfl⟩)

/-- **The validator returns** on any revision when neither the root nor its name is a hazard. -/
theorem not_raises_validateSkillPackage {parsers : Parsers} {sha256 : List UInt8 → Sha256}
    {source : PackageSource} (sourceRevision : PyStr) (hpolicy : policyFindings policy = [])
    (hroot : ¬ RootHazard parsers policy source) (hname : source.rootName.encodeEscaped? ≠ none) :
    ¬ Raises (validateSkillPackage parsers sha256 source sourceRevision policy) := by
  rcases hrevision : revision? sourceRevision with - | revision
  · rw [validateSkillPackage_eq hpolicy]
    rcases inspectRoot_cases parsers sha256 source hpolicy with ⟨hhazard, -⟩ | ⟨-, i, hi, hsound⟩
    · exact absurd hhazard hroot
    have hcandidate : candidate? sha256 source.rootName sourceRevision i.files = .ok none := by
      rw [candidate?, hrevision]
    rw [hi]
    change ¬ Raises (do
      let candidate ← candidate? sha256 source.rootName sourceRevision i.files
      modelCall (construct SkillPackageValidationData.validate (resultOf sourceRevision i candidate)))
    rw [hcandidate]
    change ¬ Raises (modelCall (construct SkillPackageValidationData.validate (resultOf sourceRevision i none)))
    rw [construct_of_ok (validate_resultOf_of_no_revision hrevision hsound)]
    exact not_raises_ok
  · obtain rfl := eq_ofText_of_revision? hrevision
    rcases validateSkillPackage_cases parsers sha256 source revision hpolicy with
      ⟨hhazard | hhazard, -⟩ | ⟨-, -, _, _, -, r, hr, -⟩
    · exact absurd hhazard hroot
    · exact absurd hhazard hname
    · rw [hr]
      exact not_raises_ok

end SkillsSdk

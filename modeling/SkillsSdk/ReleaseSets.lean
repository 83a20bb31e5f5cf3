/-
SkillsSdk/ReleaseSets.lean

Release sets are read as they were validated, or the assessment goes wrong.

`_release_sets` accepts a set for its groups or else for its flat ids, and
`_release_set_case_ids` reads the groups of every set that has a mapping of
them.  The two part on a set that was accepted for its flat ids next to groups
that are not acceptable (`ReadsAsValidated`).  Apart from this the assessment
raises on strings that cannot be encoded, where a finding or the receipt has to
quote them, on a pattern that `re.compile` does not reject but raises on, and on
a category with an integer that is too long to write (`QualityHazard`).
-/
import SkillsSdk.ScenarioQuality

namespace SkillsSdk

/-! ### Strings that encode -/

theorem encodes_joinCommas {strings : List PyStr} :
    Encodes (joinCommas strings) ↔ ∀ s ∈ strings, Encodes s := by
  induction strings with
  | nil => exact iff_of_true (encodes_ofText []) (by simp)
  | cons s strings ih =>
    rcases strings with - | ⟨t, strings⟩
    · simp [joinCommas]
    · rw [joinCommas, List.intercalate_cons_cons, encodes_append, encodes_append, List.forall_mem_cons,
        ← ih, joinCommas]
      constructor
      · rintro ⟨⟨hs, -⟩, ht⟩
        exact ⟨hs, ht⟩
      · rintro ⟨hs, ht⟩
        exact ⟨⟨hs, encodes_ofText _⟩, ht⟩

/-- What Python takes for a blank contains what the models take for one. -/
theorem not_isWhiteSpace_of_not_isSpace {c : Char} (h : isSpace c = false) : isWhiteSpace c = false := by
  rw [← Bool.not_eq_true] at h ⊢
  intro hwhite
  apply h
  simp only [isWhiteSpace, isSpace, Bool.or_eq_true, Bool.and_eq_true, decide_eq_true_eq, beq_iff_eq]
    at hwhite ⊢
  omega

/-- A model takes a string that is not blank exactly when it encodes. -/
theorem nonEmptyText?_isSome_iff {s : PyStr} (h : s.strip ≠ []) :
    (nonEmptyText? s).isSome = true ↔ Encodes s := by
  constructor
  · intro hsome
    obtain ⟨m, hm⟩ := Option.isSome_iff_exists.mp hsome
    obtain ⟨t, ht, -⟩ := Option.bind_eq_some_iff.mp hm
    exact Option.isSome_iff_exists.mpr ⟨t, ht⟩
  · intro hencodes
    obtain ⟨t, rfl⟩ := encodes_iff.mp hencodes
    have hletter : ∃ c ∈ t, isSpace c = false := by
      by_contra hall
      push Not at hall
      apply h
      have hblank : ∀ c ∈ PyStr.ofText t, isSpacePy c = true := by
        intro c hc
        obtain ⟨d, hd, rfl⟩ := List.mem_map.mp hc
        exact Bool.not_eq_false _ ▸ hall d hd
      rw [PyStr.strip, List.dropWhile_eq_nil_iff.mpr hblank]
      rfl
    obtain ⟨c, hc, hspace⟩ := hletter
    obtain ⟨m, hm⟩ := nonEmptyText?_isSome (PyStr.encode?_ofText t)
      ⟨c, hc, not_isWhiteSpace_of_not_isSpace hspace⟩
    exact Option.isSome_iff_exists.mpr ⟨m, hm⟩

/-- A message that starts with a letter is taken exactly when the rest of it encodes. -/
theorem nonEmptyText?_lit_append {w : String} {s : PyStr} (hw : ∃ c ∈ w.toList, isWhiteSpace c = false) :
    (nonEmptyText? (PyStr.lit w ++ s)).isSome = true ↔ Encodes s := by
  constructor
  · intro hsome
    obtain ⟨m, hm⟩ := Option.isSome_iff_exists.mp hsome
    obtain ⟨t, ht, -⟩ := Option.bind_eq_some_iff.mp hm
    exact (encodes_append.mp (Option.isSome_iff_exists.mpr ⟨t, ht⟩)).2
  · intro hencodes
    obtain ⟨t, rfl⟩ := encodes_iff.mp hencodes
    obtain ⟨c, hc, hwhite⟩ := hw
    have hencode : (PyStr.lit w ++ PyStr.ofText t).encode? = some (w.toList ++ t) := by
      rw [PyStr.encode?_eq_some_iff, PyStr.lit, PyStr.ofText, PyStr.ofText, PyStr.ofText, List.map_append]
    obtain ⟨m, hm⟩ := nonEmptyText?_isSome hencode ⟨c, List.mem_append_left t hc, hwhite⟩
    exact Option.isSome_iff_exists.mpr ⟨m, hm⟩

/-- A text that a model holds is taken again. -/
theorem nonEmptyText?_val (text : NonEmptyText) : (nonEmptyText? (PyStr.ofText text.val)).isSome = true := by
  have h := isNonEmptyText_iff.mp text.2
  rw [nonEmptyText?, PyStr.encode?_ofText, Option.bind_some, dif_pos (by rw [h.1]; exact h.2)]
  rfl

/-! ### Drafts -/

/-- The text of a value is not blank. -/
theorem strip_of_text? {v : YamlValue} {s : PyStr} (h : v.text? = some s) : v = .str s ∧ s.strip ≠ [] := by
  cases v with
  | str t =>
    rw [YamlValue.text?] at h
    split_ifs at h with hblank
    obtain rfl := Option.some.inj h
    exact ⟨rfl, hblank⟩
  | none | bool | int | float | bytes | date | list | tuple | set | dict => cases h

/-- The id that a draft quotes, when it quotes one, is not blank. -/
def FindingDraft.QuotesText (d : FindingDraft) : Prop := ∀ id, d.caseId = some id → id.strip ≠ []

theorem sound_eq_false_iff {d : FindingDraft} (hid : d.QuotesText) :
    d.sound = false ↔ (nonEmptyText? d.message).isSome = false ∨ ∃ id, d.caseId = some id ∧ ¬ Encodes id := by
  rw [FindingDraft.sound, Bool.and_eq_false_iff]
  apply or_congr_right
  rcases hcase : d.caseId with - | id
  · simp
  · rw [Option.all_some, ← Bool.not_eq_true, nonEmptyText?_isSome_iff (hid id hcase)]
    simp

/-- A draft with a fixed message that quotes no case is sound. -/
theorem draft_sound (text : FindingText) : (draft text).sound = true := by
  rw [FindingDraft.sound, Bool.and_eq_true]
  exact ⟨nonEmptyText?_val text.2, rfl⟩

theorem raises_emitAll_iff {ds : List FindingDraft} :
    Raises (emitAll ds) ↔ ∃ d ∈ ds, d.sound = false := raises_emit_mapM_iff

theorem raises_emitSteps_iff {steps : List (Except PyExc (List FindingDraft))} :
    Raises (emitSteps steps) ↔
      ∃ step ∈ steps, Raises step ∨ ∃ ds, step = .ok ds ∧ ∃ d ∈ ds, d.sound = false := by
  rw [emitSteps, raises_pure_bind_iff, raises_mapM_iff]
  simp only [raises_bind_iff, raises_emitAll_iff]

/-! ### Cases -/

section

variable (lib : QualityLibrary)

/-- The pattern of an assertion that is otherwise valid makes `re.compile` raise. -/
def RegexRaises (assertion : YamlValue) : Prop :=
  ∃ kind members allowed value e, assertionType? assertion = some (kind, members) ∧
    (kind = PyStr.lit "regex" ∨ kind = PyStr.lit "not_regex") ∧
    assertionFields.lookup kind = some allowed ∧ unsupportedKeys allowed members = [] ∧
    (yamlGet members "value").text? = some value ∧ lib.compile value = .raised e

/-- Some rule finds a fault in the case. -/
def CaseReported (members : YamlMembers) : Prop :=
  ∃ ds, Except.ok ds ∈ caseSteps lib (.dict members) ∧ ds ≠ []

/-- A field that the output contract of the case requires and no assertion proves. -/
def UnprovenField (members : YamlMembers) (field : PyStr) : Prop :=
  ∃ contract required, yamlGet members "output_contract" = .dict contract ∧
    requiredFields? contract = some required ∧ field ∈ required ∧
    field ∉ (acceptanceOf members).filterMap provenField

/-- What makes the check of a case raise. -/
inductive CaseHazard (members : YamlMembers) : Prop
  | key {key : PyStr} : key ∈ members.map Prod.fst → key ∉ caseFields → ¬ Encodes key →
      CaseHazard members
  | field {field : PyStr} : UnprovenField members field → ¬ Encodes field → CaseHazard members
  | id {id : PyStr} : (yamlGet members "id").text? = some id → ¬ Encodes id →
      CaseReported lib members → CaseHazard members
  | regex {assertion : YamlValue} : assertion ∈ acceptanceOf members → RegexRaises lib assertion →
      CaseHazard members

end

section

variable {lib : QualityLibrary}

theorem mem_unsupportedKeys {allowed : List PyStr} {members : YamlMembers} {key : PyStr} :
    key ∈ unsupportedKeys allowed members ↔ key ∈ members.map Prod.fst ∧ key ∉ allowed := by
  rw [unsupportedKeys, sortStrings, List.mem_insertionSort, List.mem_filter, decide_eq_true_eq]

theorem raises_compileValid_iff {kind value : PyStr} :
    Raises (compileValid lib kind value) ↔
      (kind = PyStr.lit "regex" ∨ kind = PyStr.lit "not_regex") ∧ ∃ e, lib.compile value = .raised e := by
  rw [compileValid]
  by_cases hkind : kind = PyStr.lit "regex" ∨ kind = PyStr.lit "not_regex"
  · rw [if_pos hkind, and_iff_right hkind]
    rcases lib.compile value with - | - | e
    · exact iff_of_false not_raises_ok (by simp)
    · exact iff_of_false not_raises_ok (by simp)
    · exact iff_of_true ⟨e, rfl⟩ ⟨e, rfl⟩
  · rw [if_neg hkind]
    exact iff_of_false not_raises_ok fun h => hkind h.1

theorem regex_mem_valueAssertionTypes {kind : PyStr}
    (h : kind = PyStr.lit "regex" ∨ kind = PyStr.lit "not_regex") : kind ∈ valueAssertionTypes := by
  rcases h with rfl | rfl
  · decide
  · decide

/-- Checking an assertion raises only on its pattern. -/
theorem raises_assertionDrafts_iff {caseId : Option PyStr} {assertion : YamlValue} :
    Raises (assertionDrafts lib caseId assertion) ↔ RegexRaises lib assertion := by
  rw [assertionDrafts]
  rcases htype : assertionType? assertion with - | ⟨kind, members⟩
  · exact iff_of_false not_raises_ok fun ⟨_, _, _, _, _, h, _⟩ => by simp [htype] at h
  -- only the compilation of a pattern raises
  · have hvalid : Raises (assertionValid lib kind members) ↔ RegexRaises lib assertion := by
      rw [assertionValid]
      constructor
      · rcases hfields : assertionFields.lookup kind with - | allowed
        · exact fun h => absurd h not_raises_ok
        · dsimp only
          intro h
          split_ifs at h with hkeys hkind
          · exact absurd h not_raises_ok
          · rcases hvalue : (yamlGet members "value").text? with - | value
            · rw [hvalue] at h
              exact absurd h not_raises_ok
            · rw [hvalue] at h
              obtain ⟨hregex, e, he⟩ := raises_compileValid_iff.mp h
              exact ⟨kind, members, allowed, value, e, htype, hregex, hfields, not_not.mp hkeys, hvalue, he⟩
          · exact absurd h not_raises_ok
      · rintro ⟨kind', members', allowed, value, e, htype', hregex, hfields, hkeys, hvalue, he⟩
        rw [htype] at htype'
        cases htype'
        rw [hfields]
        dsimp only
        rw [if_neg (not_not.mpr hkeys), if_pos (regex_mem_valueAssertionTypes hregex), hvalue]
        exact raises_compileValid_iff.mpr ⟨hregex, e, he⟩
    dsimp only
    rw [← hvalid, raises_bind_iff]
    constructor
    · rintro (h | ⟨b, -, h⟩)
      · exact h
      · cases b
        · exact absurd h not_raises_ok
        · exact absurd h not_raises_ok
    · exact Or.inl

/-- What a check of an assertion returns quotes the case. -/
theorem mem_assertionDrafts {caseId : Option PyStr} {assertion : YamlValue} {ds : List FindingDraft}
    (h : assertionDrafts lib caseId assertion = .ok ds) :
    ∀ d ∈ ds, ∃ text, d = draft text caseId := by
  rw [assertionDrafts] at h
  rcases htype : assertionType? assertion with - | ⟨kind, members⟩
  · rw [htype] at h
    obtain rfl := Except.ok.inj h
    intro d hd
    exact ⟨_, List.mem_singleton.mp hd⟩
  · rw [htype] at h
    obtain ⟨b, -, h⟩ := bind_eq_ok_iff.mp h
    cases b
    · obtain rfl := Except.ok.inj h
      intro d hd
      exact ⟨_, List.mem_singleton.mp hd⟩
    · obtain rfl := Except.ok.inj h
      intro d hd
      exact absurd hd List.not_mem_nil

/-- The draft quotes the case and its message is taken. -/
def FindingDraft.PlainFor (caseId : Option PyStr) (d : FindingDraft) : Prop :=
  d.caseId = caseId ∧ (nonEmptyText? d.message).isSome = true

theorem draft_plainFor (text : FindingText) (caseId : Option PyStr) : (draft text caseId).PlainFor caseId :=
  ⟨rfl, nonEmptyText?_val text.2⟩

/-- A message about a field with a fixed name is taken. -/
theorem nonEmptyText?_named {first field : String} (h : ∃ c ∈ first.toList, isWhiteSpace c = false) :
    (nonEmptyText? (PyStr.lit (first ++ field))).isSome = true := by
  have hsplit : PyStr.lit (first ++ field) = PyStr.lit first ++ PyStr.lit field := by
    rw [PyStr.lit, String.toList_append, PyStr.ofText, List.map_append]
    rfl
  rw [hsplit]
  exact (nonEmptyText?_lit_append h).mpr (encodes_ofText _)

/-- The finding about keys that are not supported. -/
def unsupportedDraft (members : YamlMembers) (caseId : Option PyStr) : FindingDraft :=
  ⟨unsupportedScenarioField,
    PyStr.lit "unsupported scenario fields: " ++ joinCommas (unsupportedKeys caseFields members), caseId⟩

theorem mem_fieldDrafts {members : YamlMembers} {caseId : Option PyStr} {d : FindingDraft}
    (h : d ∈ fieldDrafts members caseId) :
    d.PlainFor caseId ∨ (unsupportedKeys caseFields members ≠ [] ∧ d = unsupportedDraft members caseId) := by
  simp only [fieldDrafts, List.mem_append] at h
  -- the groups of findings in the order of the source; only the first quotes keys
  rcases h with ((((((((h | h) | h) | h) | h) | h) | h) | h) | h)
  · split_ifs at h with hkeys
    · exact absurd h List.not_mem_nil
    · exact Or.inr ⟨hkeys, List.mem_singleton.mp h⟩
  · left
    obtain ⟨field, -, rfl⟩ := List.mem_map.mp h
    exact ⟨rfl, nonEmptyText?_named ⟨'s', by decide +kernel, rfl⟩⟩
  · left
    split_ifs at h
    · exact absurd h List.not_mem_nil
    · exact List.mem_singleton.mp h ▸ draft_plainFor _ _
  · left
    obtain ⟨field, -, rfl⟩ := List.mem_map.mp h
    refine ⟨rfl, ?_⟩
    rw [String.append_assoc]
    exact nonEmptyText?_named ⟨'s', by decide +kernel, rfl⟩
  · left
    obtain ⟨field, -, rfl⟩ := List.mem_map.mp h
    refine ⟨rfl, ?_⟩
    rw [String.append_assoc]
    exact nonEmptyText?_named ⟨'s', by decide +kernel, rfl⟩
  · left
    split_ifs at h
    · exact List.mem_singleton.mp h ▸ draft_plainFor _ _
    · exact absurd h List.not_mem_nil
  · left
    split_ifs at h
    · exact absurd h List.not_mem_nil
    · exact List.mem_singleton.mp h ▸ draft_plainFor _ _
  · left
    split_ifs at h
    · exact absurd h List.not_mem_nil
    · exact List.mem_singleton.mp h ▸ draft_plainFor _ _
  · left
    split_ifs at h
    · exact List.mem_singleton.mp h ▸ draft_plainFor _ _
    · exact absurd h List.not_mem_nil

theorem unsupportedDraft_mem {members : YamlMembers} (caseId : Option PyStr)
    (h : unsupportedKeys caseFields members ≠ []) :
    unsupportedDraft members caseId ∈ fieldDrafts members caseId := by
  simp only [fieldDrafts, List.mem_append]
  refine Or.inl (Or.inl (Or.inl (Or.inl (Or.inl (Or.inl (Or.inl (Or.inl ?_)))))))
  rw [if_neg h]
  exact List.mem_singleton.mpr rfl

/-- The finding about a required field without a proof. -/
def unprovenDraft (field : PyStr) (caseId : Option PyStr) : FindingDraft :=
  ⟨missingFieldAssertion, PyStr.lit "required output field lacks field-aware proof: " ++ field, caseId⟩

theorem mem_contractDrafts {members : YamlMembers} {caseId : Option PyStr} {d : FindingDraft}
    (h : d ∈ contractDrafts members caseId) :
    d.PlainFor caseId ∨ ∃ field, UnprovenField members field ∧ d = unprovenDraft field caseId := by
  rw [contractDrafts] at h
  generalize hcontract : yamlGet members "output_contract" = v at h
  cases v with
  | none => exact absurd h List.not_mem_nil
  | dict contract =>
    dsimp only at h
    rcases hrequired : requiredFields? contract with - | required
    · rw [hrequired] at h
      exact Or.inl (List.mem_singleton.mp h ▸ draft_plainFor _ _)
    · rw [hrequired] at h
      obtain ⟨field, hfield, rfl⟩ := List.mem_map.mp h
      obtain ⟨hmem, hproven⟩ := List.mem_filter.mp hfield
      exact Or.inr ⟨field, ⟨contract, required, hcontract, hrequired, hmem, of_decide_eq_true hproven⟩, rfl⟩
  | bool | int | float | str | bytes | date | list | tuple | set =>
    exact Or.inl (List.mem_singleton.mp h ▸ draft_plainFor _ _)

theorem unprovenDraft_mem {members : YamlMembers} (caseId : Option PyStr) {field : PyStr}
    (h : UnprovenField members field) : unprovenDraft field caseId ∈ contractDrafts members caseId := by
  obtain ⟨contract, required, hcontract, hrequired, hmem, hproven⟩ := h
  rw [contractDrafts, hcontract]
  dsimp only
  rw [hrequired]
  exact List.mem_map.mpr ⟨field, List.mem_filter.mpr ⟨hmem, decide_eq_true hproven⟩, rfl⟩

theorem mem_caseSteps {members : YamlMembers} {step : Except PyExc (List FindingDraft)} :
    step ∈ caseSteps lib (.dict members) ↔
      step = .ok (fieldDrafts members (yamlGet members "id").text?) ∨
      (∃ assertion ∈ acceptanceOf members,
        assertionDrafts lib (yamlGet members "id").text? assertion = step) ∨
      step = .ok (contractDrafts members (yamlGet members "id").text?) := by
  rw [caseSteps, List.mem_cons, List.mem_append, List.mem_map, List.mem_singleton]

/-- Every finding about a case quotes its id. -/
theorem caseId_of_mem {members : YamlMembers} {ds : List FindingDraft}
    (h : Except.ok ds ∈ caseSteps lib (.dict members)) :
    ∀ d ∈ ds, d.caseId = (yamlGet members "id").text? := by
  intro d hd
  rcases mem_caseSteps.mp h with h | ⟨assertion, -, h⟩ | h
  · obtain rfl := Except.ok.inj h
    rcases mem_fieldDrafts hd with h | ⟨-, rfl⟩
    · exact h.1
    · rfl
  · obtain ⟨text, rfl⟩ := mem_assertionDrafts h d hd
    rfl
  · obtain rfl := Except.ok.inj h
    rcases mem_contractDrafts hd with h | ⟨field, -, rfl⟩
    · exact h.1
    · rfl

/-- Every finding about a case quotes a text, if any. -/
theorem quotesText_of_caseId {d : FindingDraft} {v : YamlValue} (h : d.caseId = v.text?) :
    d.QuotesText := by
  intro id hid
  rw [h] at hid
  exact (strip_of_text? hid).2

/-- An unsound draft about a case quotes a key, a required field or an id that does not encode. -/
theorem caseHazard_of_unsound {members : YamlMembers} {ds : List FindingDraft} {d : FindingDraft}
    (h : Except.ok ds ∈ caseSteps lib (.dict members)) (hd : d ∈ ds) (hsound : d.sound = false) :
    CaseHazard lib members := by
  have hid := caseId_of_mem h d hd
  -- either its message or its case id does not encode
  rcases (sound_eq_false_iff (quotesText_of_caseId hid)).mp hsound with hmessage | ⟨id, hcase, hencodes⟩
  · rcases mem_caseSteps.mp h with h | ⟨assertion, -, h⟩ | h
    · obtain rfl := Except.ok.inj h
      rcases mem_fieldDrafts hd with hplain | ⟨-, rfl⟩
      · rw [hplain.2] at hmessage
        cases hmessage
      · have hkeys : ¬ Encodes (joinCommas (unsupportedKeys caseFields members)) := by
          rw [← nonEmptyText?_lit_append (w := "unsupported scenario fields: ") ⟨'u', by decide +kernel, rfl⟩,
            Bool.not_eq_true]
          exact hmessage
        rw [encodes_joinCommas] at hkeys
        push Not at hkeys
        obtain ⟨key, hkey, hencodes⟩ := hkeys
        obtain ⟨hmem, hfields⟩ := mem_unsupportedKeys.mp hkey
        exact .key hmem hfields hencodes
    · obtain ⟨text, rfl⟩ := mem_assertionDrafts h d hd
      have hplain := (draft_plainFor text (yamlGet members "id").text?).2
      rw [hplain] at hmessage
      cases hmessage
    · obtain rfl := Except.ok.inj h
      rcases mem_contractDrafts hd with hplain | ⟨field, hfield, rfl⟩
      · rw [hplain.2] at hmessage
        cases hmessage
      · refine .field hfield ?_
        rw [← nonEmptyText?_lit_append (w := "required output field lacks field-aware proof: ")
          ⟨'r', by decide +kernel, rfl⟩, Bool.not_eq_true]
        exact hmessage
  · exact .id (hid ▸ hcase) hencodes ⟨ds, h, List.ne_nil_of_mem hd⟩

/-- **The check of a case raises** exactly on a hazard of the case. -/
theorem raises_caseFindings_iff {members : YamlMembers} :
    Raises (caseFindings lib (.dict members)) ↔ CaseHazard lib members := by
  rw [caseFindings, raises_emitSteps_iff]
  constructor
  · rintro ⟨step, hstep, hraises | ⟨ds, rfl, d, hd, hsound⟩⟩
    · rcases mem_caseSteps.mp hstep with rfl | ⟨assertion, hmem, rfl⟩ | rfl
      · exact absurd hraises not_raises_ok
      · exact .regex hmem (raises_assertionDrafts_iff.mp hraises)
      · exact absurd hraises not_raises_ok
    · exact caseHazard_of_unsound hstep hd hsound
  · intro hazard
    -- one case for each text that may not encode, and one for the pattern
    cases hazard with
    | @key key hmem hfields hencodes =>
      have hkey := mem_unsupportedKeys.mpr ⟨hmem, hfields⟩
      have hdraft := unsupportedDraft_mem (yamlGet members "id").text? (List.ne_nil_of_mem hkey)
      refine ⟨_, mem_caseSteps.mpr (Or.inl rfl), Or.inr ⟨_, rfl, _, hdraft, ?_⟩⟩
      rw [sound_eq_false_iff (quotesText_of_caseId rfl), ← Bool.not_eq_true]
      refine Or.inl fun hsome => hencodes ?_
      exact encodes_joinCommas.mp ((nonEmptyText?_lit_append ⟨'u', by decide +kernel, rfl⟩).mp hsome) key hkey
    | @field field hfield hencodes =>
      have hdraft := unprovenDraft_mem (yamlGet members "id").text? hfield
      refine ⟨_, mem_caseSteps.mpr (Or.inr (Or.inr rfl)), Or.inr ⟨_, rfl, _, hdraft, ?_⟩⟩
      rw [sound_eq_false_iff (quotesText_of_caseId rfl), ← Bool.not_eq_true]
      refine Or.inl fun hsome => hencodes ?_
      exact (nonEmptyText?_lit_append ⟨'r', by decide +kernel, rfl⟩).mp hsome
    | @id id hid hencodes hreported =>
      obtain ⟨ds, hds, hne⟩ := hreported
      obtain ⟨d, hd⟩ := List.exists_mem_of_ne_nil ds hne
      have hcase := caseId_of_mem hds d hd
      refine ⟨_, hds, Or.inr ⟨ds, rfl, d, hd, ?_⟩⟩
      rw [sound_eq_false_iff (quotesText_of_caseId hcase)]
      exact Or.inr ⟨id, hcase ▸ hid, hencodes⟩
    | @regex assertion hmem hregex =>
      exact ⟨_, mem_caseSteps.mpr (Or.inr (Or.inl ⟨assertion, hmem, rfl⟩)),
        Or.inl (raises_assertionDrafts_iff.mpr hregex)⟩

/-- A case that is no mapping is reported without a quotation. -/
theorem not_raises_caseFindings {case : YamlValue} (h : members? case = none) :
    ¬ Raises (caseFindings lib case) := by
  have hsteps : caseSteps lib case = [.ok [draft invalidScenarioCase]] := by
    cases case with
    | dict members => cases h
    | none | bool | int | float | str | bytes | date | list | tuple | set => rfl
  rw [caseFindings, hsteps, raises_emitSteps_iff]
  rintro ⟨step, hstep, hraises | ⟨ds, hds, d, hd, hsound⟩⟩
  · rw [List.mem_singleton.mp hstep] at hraises
    exact absurd hraises not_raises_ok
  · rw [List.mem_singleton.mp hstep] at hds
    obtain rfl := Except.ok.inj hds
    obtain rfl := List.mem_singleton.mp hd
    rw [draft_sound] at hsound
    cases hsound

end

/-! ### Reading a set -/

/-- What reading the set yields: the ids that made it acceptable. -/
def ReadAsAccepted (set : YamlMembers) : Prop :=
  ∃ ids, acceptedIds? set = some ids ∧ ids ≠ [] ∧ (∀ id ∈ ids, id.strip ≠ []) ∧
    releaseSetCaseIds set = .ok (ids.map .str)

/-- Iterating the values of the groups spells the ids. -/
def Spells (groups : YamlMembers) (ids : List PyStr) : Prop :=
  ∃ parts : List (List PyStr),
    groups.map (·.2.iterate) = parts.map (fun part => .ok (part.map .str)) ∧ parts.flatten = ids

/-- The groups of the set are no mapping, or are acceptable, or happen to spell
the flat ids. -/
def ReadsAsValidated (set : YamlMembers) : Prop :=
  ∀ groups, yamlGet set "groups" = .dict groups →
    (groupIds? set).isSome = true ∨ ∃ ids, flatIds? set = some ids ∧ Spells groups ids

theorem textList?_eq_some {v : YamlValue} {ids : List PyStr} (h : v.textList? = some ids) :
    v = .list (ids.map .str) ∧ ids ≠ [] ∧ ∀ id ∈ ids, id.strip ≠ [] := by
  cases v with
  | list items =>
    rw [YamlValue.textList?] at h
    split_ifs at h with hempty
    -- the items are read one by one, and one that is no text ends it
    have hitems : ∀ (items : List YamlValue) (ids : List PyStr), items.mapM YamlValue.text? = some ids →
        items = ids.map .str ∧ ∀ id ∈ ids, id.strip ≠ [] := by
      intro items
      induction items with
      | nil =>
        intro ids h
        obtain rfl : [] = ids := Option.some.inj h
        exact ⟨rfl, by simp⟩
      | cons v items ih =>
        intro ids h
        rw [List.mapM_cons] at h
        obtain ⟨id, hid, h⟩ := Option.bind_eq_some_iff.mp h
        obtain ⟨rest, hrest, h⟩ := Option.bind_eq_some_iff.mp h
        obtain rfl : id :: rest = ids := Option.some.inj h
        obtain ⟨rfl, hall⟩ := ih rest hrest
        obtain ⟨rfl, hblank⟩ := strip_of_text? hid
        exact ⟨rfl, List.forall_mem_cons.mpr ⟨hblank, hall⟩⟩
    obtain ⟨rfl, hall⟩ := hitems items ids h
    refine ⟨rfl, ?_, hall⟩
    rintro rfl
    exact hempty rfl
  | none | bool | int | float | str | bytes | date | tuple | set | dict => cases h

/-- Lists of strings in turn, as one list of strings. -/
theorem flatten_eq_map_str_iff {values : List (List YamlValue)} {ids : List PyStr} :
    values.flatten = ids.map .str ↔
      ∃ parts : List (List PyStr), values = parts.map (·.map .str) ∧ parts.flatten = ids := by
  constructor
  · induction values generalizing ids with
    | nil =>
      intro h
      exact ⟨[], rfl, (List.map_eq_nil_iff.mp h.symm).symm⟩
    | cons part values ih =>
      intro h
      rw [List.flatten_cons] at h
      obtain ⟨first, rest, rfl, hfirst, hrest⟩ := List.map_eq_append_iff.mp h.symm
      obtain ⟨parts, rfl, rfl⟩ := ih hrest.symm
      exact ⟨first :: parts, by rw [List.map_cons, hfirst], rfl⟩
  · rintro ⟨parts, rfl, rfl⟩
    rw [List.map_flatten]

theorem releaseSetCaseIds_dict {set groups : YamlMembers} {ids : List PyStr}
    (h : yamlGet set "groups" = .dict groups) :
    releaseSetCaseIds set = .ok (ids.map .str) ↔ Spells groups ids := by
  rw [releaseSetCaseIds, h, Spells]
  dsimp only
  rw [bind_eq_ok_iff]
  constructor
  · rintro ⟨values, hvalues, hflatten⟩
    obtain ⟨parts, rfl, hparts⟩ := flatten_eq_map_str_iff.mp (Except.ok.inj hflatten)
    refine ⟨parts, ?_, hparts⟩
    rw [mapM_eq_ok_iff.mp hvalues, List.map_map]
    rfl
  · rintro ⟨parts, hparts, rfl⟩
    refine ⟨parts.map (·.map .str), mapM_eq_ok_iff.mpr ?_, ?_⟩
    · rw [hparts, List.map_map]
      rfl
    · rw [← List.map_flatten]
      rfl

/-- Groups that are acceptable spell their ids. -/
theorem groupIds?_eq_some {set : YamlMembers} {ids : List PyStr} (h : groupIds? set = some ids) :
    ∃ groups, yamlGet set "groups" = .dict groups ∧ Spells groups ids ∧ ids ≠ [] ∧
      ∀ id ∈ ids, id.strip ≠ [] := by
  rw [groupIds?] at h
  generalize hgroups : yamlGet set "groups" = v at h
  cases v with
  | dict groups =>
    dsimp only at h
    split_ifs at h with hempty
    obtain ⟨parts, hparts, rfl⟩ := Option.map_eq_some_iff.mp h
    -- every group is a non-empty list of texts
    have hall : ∀ (groups : YamlMembers) (parts : List (List PyStr)),
        (groups.mapM fun (g : PyStr × YamlValue) => g.2.textList?) = some parts →
        groups.map (·.2.iterate) = parts.map (fun part => .ok (part.map .str)) ∧
          groups.length = parts.length ∧ ∀ part ∈ parts, part ≠ [] ∧ ∀ id ∈ part, id.strip ≠ [] := by
      intro groups
      induction groups with
      | nil =>
        intro parts h
        obtain rfl : [] = parts := Option.some.inj h
        exact ⟨rfl, rfl, by simp⟩
      | cons g groups ih =>
        intro parts h
        rw [List.mapM_cons] at h
        obtain ⟨part, hpart, h⟩ := Option.bind_eq_some_iff.mp h
        obtain ⟨rest, hrest, h⟩ := Option.bind_eq_some_iff.mp h
        obtain rfl : part :: rest = parts := Option.some.inj h
        obtain ⟨hmap, hlength, hrestall⟩ := ih rest hrest
        obtain ⟨hlist, hne, hblank⟩ := textList?_eq_some hpart
        refine ⟨?_, by simp [hlength], List.forall_mem_cons.mpr ⟨⟨hne, hblank⟩, hrestall⟩⟩
        rw [List.map_cons, List.map_cons, hmap, hlist]
        rfl
    obtain ⟨hmap, hlength, hparts⟩ := hall groups parts hparts
    refine ⟨groups, rfl, ⟨parts, hmap, rfl⟩, ?_, ?_⟩
    · rcases parts with - | ⟨part, parts⟩
      · rw [List.length_nil, List.length_eq_zero_iff] at hlength
        rw [hlength] at hempty
        exact absurd rfl hempty
      · rw [List.flatten_cons]
        exact List.append_ne_nil_of_left_ne_nil (hparts part List.mem_cons_self).1 _
    · intro id hid
      obtain ⟨part, hpart, hid⟩ := List.mem_flatten.mp hid
      exact (hparts part hpart).2 id hid
  | none | bool | int | float | str | bytes | date | list | tuple | set => cases h

/-- **An acceptable set is read as it was accepted** exactly when its groups are
no mapping, or acceptable, or spell the flat ids. -/
theorem readAsAccepted_iff {set : YamlMembers} (h : acceptedIds? set ≠ none) :
    ReadAsAccepted set ↔ ReadsAsValidated set := by
  rcases hgroups : groupIds? set with - | ids
  · -- the flat ids made the set acceptable
    have hflat : acceptedIds? set = flatIds? set := by rw [acceptedIds?, hgroups]; rfl
    obtain ⟨ids, hids⟩ := Option.ne_none_iff_exists'.mp (hflat ▸ h)
    obtain ⟨hlist, hne, hblank⟩ := textList?_eq_some hids
    have hread : ReadAsAccepted set ↔ releaseSetCaseIds set = .ok (ids.map .str) := by
      constructor
      · rintro ⟨ids', hids', -, -, hok⟩
        rw [hflat, hids] at hids'
        obtain rfl := Option.some.inj hids'
        exact hok
      · exact fun hok => ⟨ids, hflat.trans hids, hne, hblank, hok⟩
    rw [hread]
    constructor
    · intro hok groups hdict
      exact Or.inr ⟨ids, hids, (releaseSetCaseIds_dict hdict).mp hok⟩
    · intro hreads
      generalize hv : yamlGet set "groups" = v
      cases v with
      | dict groups =>
        rcases hreads groups hv with hsome | ⟨ids', hids', hspells⟩
        · rw [hgroups] at hsome
          cases hsome
        · rw [hids] at hids'
          obtain rfl := Option.some.inj hids'
          exact (releaseSetCaseIds_dict hv).mpr hspells
      | none | bool | int | float | str | bytes | date | list | tuple | set =>
        rw [releaseSetCaseIds, hv]
        dsimp only
        rw [yamlGet] at hlist
        rcases hlookup : List.lookup (PyStr.lit "cases") set with - | cases
        · rw [hlookup] at hlist
          cases hlist
        · rw [hlookup, Option.getD_some] at hlist
          rw [hlist]
          rfl
  · obtain ⟨groups, hdict, hspells, hne, hblank⟩ := groupIds?_eq_some hgroups
    have haccepted : acceptedIds? set = some ids := by rw [acceptedIds?, hgroups]; rfl
    constructor
    · intro _ _ _
      exact Or.inl (by rw [hgroups]; rfl)
    · intro _
      exact ⟨ids, haccepted, hne, hblank, (releaseSetCaseIds_dict hdict).mpr hspells⟩

/-! ### What an assessment reads -/

/-- The payload, where the assessment reads one. -/
def readPayload (validation : SkillPackageValidation) (payload : YamlValue) (selector : Option PyStr) :
    Option YamlValue :=
  if validation.val.status = .pass ∧ selectorValid selector = true ∧
      evalsPath ∈ validation.val.files.map (·.path) then some payload else none

/-- The cases of the payload. -/
def readCases (payload : Option YamlValue) : List YamlValue := (payload.map documentCases).getD []

/-- The ids that made the selected set acceptable, when one set is selected. -/
def selectedIds (version : QualityVersion) (selector : Option PyStr) (payload : Option YamlValue) :
    List PyStr :=
  ((validSelector selector).bind fun id =>
    (matchingSet? (keptSets version selector payload) id).bind acceptedIds?).getD []

/-- The cases that are assessed: all of them, or those of the selected set. -/
def selectedCases (version : QualityVersion) (selector : Option PyStr) (payload : Option YamlValue) :
    List YamlValue :=
  match validSelector selector with
  | none => readCases payload
  | some _ => (selectedIds version selector payload).filterMap (caseById (readCases payload))

/-- What makes an assessment raise whose sets are read as they were validated. -/
inductive QualityHazard (lib : QualityLibrary) (version : QualityVersion) (selector : Option PyStr)
    (payload : Option YamlValue) : Prop
  | selector {id : PyStr} : validSelector selector = some id → ¬ Encodes id →
      QualityHazard lib version selector payload
  | topKey {members : YamlMembers} {key : PyStr} : payload = some (.dict members) →
      key ∈ members.map Prod.fst → key ∉ topFields → ¬ Encodes key →
      QualityHazard lib version selector payload
  | unknownId {id : PyStr} : id ∈ selectedIds version selector payload →
      caseById (readCases payload) id = none → ¬ Encodes id →
      QualityHazard lib version selector payload
  | case {members : YamlMembers} : .dict members ∈ selectedCases version selector payload →
      CaseHazard lib members → QualityHazard lib version selector payload
  | category {members : YamlMembers} : validSelector selector ≠ none →
      .dict members ∈ selectedCases version selector payload →
      (yamlGet members "category").hasLongInt = true → QualityHazard lib version selector payload
  | ineligible {members : YamlMembers} {id : PyStr} : validSelector selector ≠ none →
      .dict members ∈ selectedCases version selector payload →
      releaseEligible (yamlGet members "eval_modes") = false →
      (yamlGet members "id").text? = some id → ¬ Encodes id →
      QualityHazard lib version selector payload

/-! ### Stages -/

section

variable {lib : QualityLibrary}

/-- What follows a call raises or not whatever the call returns. -/
theorem raises_bind_iff_of_forall {α β : Type _} {x : Except PyExc α} {f : α → Except PyExc β} {P : Prop}
    (h : ∀ a, x = .ok a → (Raises (f a) ↔ P)) : Raises (x >>= f) ↔ Raises x ∨ P := by
  rw [raises_bind_iff]
  constructor
  · rintro (hx | ⟨a, ha, hf⟩)
    · exact Or.inl hx
    · exact Or.inr ((h a ha).mp hf)
  · rintro (hx | hP)
    · exact Or.inl hx
    · by_cases hx : Raises x
      · exact Or.inl hx
      · obtain ⟨a, ha⟩ := ok_of_not_raises hx
        exact Or.inr ⟨a, ha, (h a ha).mpr hP⟩

/-- Every draft becomes a finding. -/
theorem emitAll_eq_nil_iff {ds : List FindingDraft} {fs : List ScenarioQualityFinding}
    (h : emitAll ds = .ok fs) : fs = [] ↔ ds = [] := by
  have hlength : (fs.map (Except.ok (ε := PyExc))).length = (ds.map (FindingDraft.emit evalsPath)).length := by
    rw [mapM_eq_ok_iff.mp h]
  rw [List.length_map, List.length_map] at hlength
  rw [← List.length_eq_zero_iff, ← List.length_eq_zero_iff, hlength]

/-- The finding about keys of the document that are not supported. -/
def unsupportedTopDraft (members : YamlMembers) : FindingDraft :=
  ⟨unsupportedEvalsField,
    PyStr.lit "unsupported eval fields: " ++ joinCommas (unsupportedKeys topFields members), none⟩

theorem unsupportedTopDraft_sound {members : YamlMembers} :
    (unsupportedTopDraft members).sound = false ↔
      ∃ key ∈ members.map Prod.fst, key ∉ topFields ∧ ¬ Encodes key := by
  have hmessage : (unsupportedTopDraft members).sound =
      (nonEmptyText? (unsupportedTopDraft members).message).isSome := by
    rw [FindingDraft.sound]
    exact Bool.and_true _
  rw [hmessage, ← Bool.not_eq_true, unsupportedTopDraft,
    nonEmptyText?_lit_append ⟨'u', by decide +kernel, rfl⟩, encodes_joinCommas]
  push Not
  constructor
  · rintro ⟨key, hkey, hencodes⟩
    obtain ⟨hmem, hfields⟩ := mem_unsupportedKeys.mp hkey
    exact ⟨key, hmem, hfields, hencodes⟩
  · rintro ⟨key, hmem, hfields, hencodes⟩
    exact ⟨key, mem_unsupportedKeys.mpr ⟨hmem, hfields⟩, hencodes⟩

theorem mem_setDrafts {version : QualityVersion} {selector : Option PyStr} {members : YamlMembers}
    {d : FindingDraft} (h : d ∈ setDrafts version selector members) : ∃ text, d = draft text := by
  rw [setDrafts] at h
  generalize yamlGet members "release_scenario_sets" = v at h
  cases v with
  | none => exact absurd h List.not_mem_nil
  | list entries =>
    dsimp only at h
    by_cases hempty : entries.isEmpty
    · rw [if_pos hempty] at h
      exact ⟨_, List.mem_singleton.mp h⟩
    · rw [if_neg hempty] at h
      rcases List.mem_append.mp h with h | h
      · obtain ⟨entry, -, hentry⟩ := List.mem_filterMap.mp h
        rcases hcheck : checkSet version selector entry with text | kept
        · rw [hcheck] at hentry
          exact ⟨text, (Option.some.inj hentry).symm⟩
        · rw [hcheck] at hentry
          cases hentry
      · split_ifs at h
        · exact absurd h List.not_mem_nil
        · exact ⟨_, List.mem_singleton.mp h⟩
  | bool | int | float | str | bytes | date | tuple | set | dict => exact ⟨_, List.mem_singleton.mp h⟩

theorem mem_duplicateDrafts {cases : List YamlValue} {d : FindingDraft} (h : d ∈ duplicateDrafts cases) :
    ∃ text, d = draft text := by
  rw [duplicateDrafts] at h
  split_ifs at h
  · exact absurd h List.not_mem_nil
  · exact ⟨_, List.mem_singleton.mp h⟩

theorem mem_documentDrafts {packageId : PackageId} {payload : YamlValue} {d : FindingDraft}
    (h : d ∈ documentDrafts packageId payload) :
    (∃ text, d = draft text) ∨ ∃ members, payload = .dict members ∧
      unsupportedKeys topFields members ≠ [] ∧ d = unsupportedTopDraft members := by
  cases payload with
  | dict members =>
    simp only [documentDrafts, List.mem_append] at h
    rcases h with ((h | h) | h) | h
    · split_ifs at h with hkeys
      · exact absurd h List.not_mem_nil
      · exact Or.inr ⟨members, rfl, hkeys, List.mem_singleton.mp h⟩
    · left
      split_ifs at h
      · exact absurd h List.not_mem_nil
      · exact ⟨_, List.mem_singleton.mp h⟩
    · left
      split_ifs at h
      · exact absurd h List.not_mem_nil
      · exact ⟨_, List.mem_singleton.mp h⟩
    · left
      split_ifs at h
      · exact ⟨_, List.mem_singleton.mp h⟩
      · exact absurd h List.not_mem_nil
  | none | bool | int | float | str | bytes | date | list | tuple | set =>
    exact Or.inl ⟨_, List.mem_singleton.mp h⟩

/-- Before the selection only a key of the document can make the assessment raise. -/
theorem raises_early_iff {opening : List FindingDraft} (hopening : ∀ d ∈ opening, d.sound = true)
    {packageId : PackageId} {version : QualityVersion} {selector : Option PyStr}
    {payload : Option YamlValue} :
    Raises (emitAll (opening ++ earlyDrafts packageId version selector payload)) ↔
      ∃ members key, payload = some (.dict members) ∧ key ∈ members.map Prod.fst ∧ key ∉ topFields ∧
        ¬ Encodes key := by
  rw [raises_emitAll_iff]
  -- a finding with a fixed text is always accepted
  have hfixed : ∀ {d : FindingDraft}, d.sound = false → ¬ ∃ text, d = draft text := by
    rintro d hsound ⟨text, rfl⟩
    rw [draft_sound] at hsound
    cases hsound
  constructor
  · rintro ⟨d, hd, hsound⟩
    rcases List.mem_append.mp hd with hd | hd
    · exact absurd ((hopening d hd).symm.trans hsound) (by decide)
    · rcases payload with - | v
      · exact absurd hd List.not_mem_nil
      · rw [earlyDrafts, List.mem_append, List.mem_append] at hd
        rcases hd with (hd | hd) | hd
        · rcases mem_documentDrafts hd with htext | ⟨members, rfl, -, rfl⟩
          · exact absurd htext (hfixed hsound)
          · obtain ⟨key, hmem, hfields, hencodes⟩ := unsupportedTopDraft_sound.mp hsound
            exact ⟨members, key, rfl, hmem, hfields, hencodes⟩
        · rcases hmembers : members? v with - | members
          · rw [hmembers] at hd
            exact absurd hd List.not_mem_nil
          · rw [hmembers] at hd
            exact absurd (mem_setDrafts hd) (hfixed hsound)
        · exact absurd (mem_duplicateDrafts hd) (hfixed hsound)
  · rintro ⟨members, key, rfl, hmem, hfields, hencodes⟩
    -- the finding for unsupported keys joins all of them, the bad one included
    have hkeys : unsupportedKeys topFields members ≠ [] :=
      List.ne_nil_of_mem (mem_unsupportedKeys.mpr ⟨hmem, hfields⟩)
    refine ⟨unsupportedTopDraft members, List.mem_append_right opening ?_,
      unsupportedTopDraft_sound.mpr ⟨key, hmem, hfields, hencodes⟩⟩
    simp only [earlyDrafts, documentDrafts, List.mem_append]
    refine Or.inl (Or.inl (Or.inl (Or.inl (Or.inl ?_))))
    rw [if_neg hkeys]
    exact List.mem_singleton.mpr rfl

/-! ### The selection -/

/-- The finding about ids that no case has. -/
def unknownDraft (unknown : List PyStr) : FindingDraft :=
  ⟨unknownScenarioId, PyStr.lit "release scenario set contains unknown ids: " ++ joinCommas unknown, none⟩

theorem mapM_idText {ids : List PyStr} : (ids.map YamlValue.str).mapM idText = .ok ids := by
  rw [mapM_eq_ok_iff, List.map_map]
  rfl

theorem mem_of_matchingSet? {sets : List YamlMembers} {id : PyStr} {set : YamlMembers}
    (h : matchingSet? sets id = some set) : set ∈ sets := by
  rw [matchingSet?] at h
  rcases hsets : sets.filter fun set => isStr (yamlGet set "id") id with - | ⟨first, - | ⟨other, rest⟩⟩
  · rw [hsets] at h
    cases h
  · rw [hsets] at h
    obtain rfl := Option.some.inj h
    exact List.mem_of_mem_filter (hsets ▸ List.mem_singleton.mpr rfl)
  · rw [hsets] at h
    cases h

/-- Sets that are read as they were accepted yield the selected cases. -/
theorem selectReleaseCases_eq {version : QualityVersion} {selector : Option PyStr}
    {payload : Option YamlValue}
    (hread : ∀ set ∈ keptSets version selector payload, ReadAsAccepted set) :
    ∃ drafts, selectReleaseCases (readCases payload) (keptSets version selector payload)
        (validSelector selector) = .ok (drafts, selectedCases version selector payload) ∧
      ((∃ d ∈ drafts, d.sound = false) ↔ ∃ id ∈ selectedIds version selector payload,
        caseById (readCases payload) id = none ∧ ¬ Encodes id) := by
  rw [selectedCases, selectedIds]
  rcases validSelector selector with - | id
  · exact ⟨[], rfl, by simp⟩
  · -- the ids that are read are those that made the set acceptable
    obtain ⟨ids, hids, hread⟩ : ∃ ids : List PyStr,
        ((matchingSet? (keptSets version selector payload) id).bind acceptedIds?).getD [] = ids ∧
        (matchingSet? (keptSets version selector payload) id).elim (.ok []) releaseSetCaseIds =
          .ok (ids.map .str) := by
      rcases hset : matchingSet? (keptSets version selector payload) id with - | set
      · exact ⟨[], rfl, rfl⟩
      · obtain ⟨ids, hids, -, -, hok⟩ := hread set (mem_of_matchingSet? hset)
        exact ⟨ids, by rw [Option.bind_some, hids, Option.getD_some], hok⟩
    dsimp only [Option.bind_some]
    rw [hids, selectReleaseCases, hread]
    rcases ids with - | ⟨first, ids⟩
    · refine ⟨[draft selectedSetMissing], rfl, ?_⟩
      simp [draft_sound]
    · refine ⟨(pickCases (readCases payload) (first :: ids)).1, ?_, ?_⟩
      · show (do return pickCases _ (← ((first :: ids).map YamlValue.str).mapM idText)) = _
        rw [mapM_idText]
        rfl
      · rw [pickCases]
        dsimp only
        generalize hunknown : (first :: ids).filter
          (fun id => (caseById (readCases payload) id).isNone) = unknown
        have hmem : ∀ id, id ∈ unknown ↔ id ∈ first :: ids ∧ caseById (readCases payload) id = none := by
          intro id
          rw [← hunknown, List.mem_filter, Option.isNone_iff_eq_none]
        have hmessage : (unknownDraft unknown).sound = false ↔ ∃ id ∈ unknown, ¬ Encodes id := by
          have hsound : (unknownDraft unknown).sound = (nonEmptyText? (unknownDraft unknown).message).isSome := by
            rw [FindingDraft.sound]
            exact Bool.and_true _
          rw [hsound, ← Bool.not_eq_true, unknownDraft,
            nonEmptyText?_lit_append ⟨'r', by decide +kernel, rfl⟩, encodes_joinCommas]
          push Not
          rfl
        constructor
        · rintro ⟨d, hd, hsound⟩
          split_ifs at hd
          · exact absurd hd List.not_mem_nil
          · obtain rfl := List.mem_singleton.mp hd
            obtain ⟨id, hid, hencodes⟩ := hmessage.mp hsound
            exact ⟨id, ((hmem id).mp hid).1, ((hmem id).mp hid).2, hencodes⟩
        · rintro ⟨id, hid, hnone, hencodes⟩
          have hunknown := (hmem id).mpr ⟨hid, hnone⟩
          refine ⟨unknownDraft unknown, ?_, hmessage.mpr ⟨id, hunknown, hencodes⟩⟩
          rw [if_neg (List.ne_nil_of_mem hunknown)]
          exact List.mem_singleton.mpr rfl

/-- A selected case of a release is a mapping with an id that is a text. -/
theorem caseText?_of_selected {version : QualityVersion} {selector : Option PyStr}
    {payload : Option YamlValue} (hselector : validSelector selector ≠ none) {case : YamlValue}
    (h : case ∈ selectedCases version selector payload) : ∃ id, caseText? case = some id := by
  rw [selectedCases] at h
  rcases hvalid : validSelector selector with - | id
  · exact absurd hvalid hselector
  · rw [hvalid] at h
    obtain ⟨id, -, hcase⟩ := List.mem_filterMap.mp h
    exact ⟨id, by simpa using List.find?_some hcase⟩

/-! ### The release -/

theorem mem_members {selected : List YamlValue} {members : YamlMembers} :
    members ∈ selected.filterMap members? ↔ .dict members ∈ selected := by
  rw [List.mem_filterMap]
  constructor
  · rintro ⟨case, hcase, hmembers⟩
    cases case with
    | dict ms =>
      obtain rfl := Option.some.inj hmembers
      exact hcase
    | none | bool | int | float | str | bytes | date | list | tuple | set => cases hmembers
  · exact fun h => ⟨_, h, rfl⟩

theorem raises_shownCategories_iff {selected : List YamlValue} :
    Raises (shownCategories lib selected) ↔
      ∃ members, .dict members ∈ selected ∧ (yamlGet members "category").hasLongInt = true := by
  rw [shownCategories, raises_mapM_iff]
  simp only [mem_members, raises_shown_iff]

/-- The categories are no more than the cases. -/
theorem length_shownCategories {selected : List YamlValue} {categories : List PyStr}
    (h : shownCategories lib selected = .ok categories) : categories.length ≤ selected.length := by
  have hlength := congrArg List.length (mapM_eq_ok_iff.mp h)
  rw [List.length_map, List.length_map] at hlength
  rw [← hlength]
  exact List.length_filterMap_le _ _

/-- The finding about a case that is not eligible quotes the id of the case. -/
theorem ineligibleDrafts_eq {members : YamlMembers} {id : PyStr} (h : (yamlGet members "id").text? = some id) :
    ineligibleDrafts lib members = .ok
      (if releaseEligible (yamlGet members "eval_modes") then [] else [draft releaseCaseNotEligible (some id)]) := by
  obtain ⟨hstr, hblank⟩ := strip_of_text? h
  have hne : id ≠ [] := by
    rintro rfl
    exact hblank rfl
  rw [ineligibleDrafts, hstr]
  by_cases heligible : releaseEligible (yamlGet members "eval_modes") = true
  · rw [if_pos heligible, if_pos heligible]
  · rw [if_neg heligible, if_neg heligible]
    have htruthy : (YamlValue.str id).truthy = true := by
      rw [YamlValue.truthy, bne_iff_ne]
      exact hne
    dsimp only
    rw [if_pos htruthy]
    show Except.ok [draft releaseCaseNotEligible (if id = [] then none else some id)] = _
    rw [if_neg hne]

theorem mem_floorDrafts {version : QualityVersion} {selected : List YamlValue} {categories : List PyStr}
    {d : FindingDraft} (h : d ∈ floorDrafts version selected categories) : ∃ text, d = draft text := by
  simp only [floorDrafts, List.mem_append] at h
  rcases h with (((h | h) | h) | h) | h <;> split_ifs at h <;>
    first
    | exact ⟨_, List.mem_singleton.mp h⟩
    | exact absurd h List.not_mem_nil

/-- The release rules raise only on the id of a case that is not eligible. -/
theorem raises_releaseSteps_iff {version : QualityVersion} {selected : List YamlValue}
    {categories : List PyStr} (htexts : ∀ case ∈ selected, ∃ id, caseText? case = some id) :
    Raises (emitSteps (releaseSteps lib version selected categories)) ↔
      ∃ members id, .dict members ∈ selected ∧ releaseEligible (yamlGet members "eval_modes") = false ∧
        (yamlGet members "id").text? = some id ∧ ¬ Encodes id := by
  rw [raises_emitSteps_iff]
  constructor
  · rintro ⟨step, hstep, h⟩
    -- of the findings only the one for an ineligible case shows an id
    rcases List.mem_append.mp hstep with hstep | hstep
    · obtain ⟨members, hmembers, rfl⟩ := List.mem_map.mp hstep
      have hcase := mem_members.mp hmembers
      obtain ⟨id, hid⟩ := htexts _ hcase
      rw [ineligibleDrafts_eq hid] at h
      rcases h with h | ⟨ds, hds, d, hd, hsound⟩
      · exact absurd h not_raises_ok
      · obtain rfl := Except.ok.inj hds
        split_ifs at hd with heligible
        · exact absurd hd List.not_mem_nil
        · obtain rfl := List.mem_singleton.mp hd
          refine ⟨members, id, hcase, Bool.not_eq_true _ ▸ heligible, hid, fun hencodes => ?_⟩
          rw [FindingDraft.sound, Bool.and_eq_false_iff] at hsound
          rcases hsound with hsound | hsound
          · rw [(draft_plainFor releaseCaseNotEligible (some id)).2] at hsound
            cases hsound
          · rw [show (draft releaseCaseNotEligible (some id)).caseId = some id from rfl, Option.all_some,
              (nonEmptyText?_isSome_iff (strip_of_text? hid).2).mpr hencodes] at hsound
            cases hsound
    · rw [List.mem_singleton.mp hstep] at h
      rcases h with h | ⟨ds, hds, d, hd, hsound⟩
      · exact absurd h not_raises_ok
      · obtain rfl := Except.ok.inj hds
        obtain ⟨text, rfl⟩ := mem_floorDrafts hd
        rw [draft_sound] at hsound
        cases hsound
  · rintro ⟨members, id, hcase, heligible, hid, hencodes⟩
    refine ⟨_, List.mem_append_left _ (List.mem_map.mpr ⟨members, mem_members.mpr hcase, rfl⟩), Or.inr ?_⟩
    refine ⟨_, ineligibleDrafts_eq hid, draft releaseCaseNotEligible (some id), ?_, ?_⟩
    · rw [heligible]
      exact List.mem_singleton.mpr rfl
    · rw [FindingDraft.sound, Bool.and_eq_false_iff]
      right
      rw [show (draft releaseCaseNotEligible (some id)).caseId = some id from rfl, Option.all_some,
        ← Bool.not_eq_true, nonEmptyText?_isSome_iff (strip_of_text? hid).2]
      exact hencodes

/-- A release without findings has five to ten cases of the required mixture. -/
theorem floorDrafts_eq_nil {version : QualityVersion} {selected : List YamlValue} {categories : List PyStr}
    (h : floorDrafts version selected categories = []) :
    (5 ≤ selected.length ∧ selected.length ≤ 10 ∧ 1 ≤ countCategories "pressure" "regression" categories ∧
      1 ≤ countCategories "negative" "edge" categories) ∧ (version = .v2 → selected.length = 10) := by
  simp only [floorDrafts, List.append_eq_nil_iff, ite_eq_right_iff, List.cons_ne_nil, imp_false, not_lt,
    not_and, not_not] at h
  obtain ⟨⟨⟨⟨hleast, hmost⟩, hactive⟩, hpressure⟩, hnegative⟩ := h
  exact ⟨⟨hleast, hmost, hpressure, hnegative⟩, hactive⟩

/-- Release rules without findings have no floor to report. -/
theorem floorDrafts_eq_nil_of_emitSteps {version : QualityVersion} {selected : List YamlValue}
    {categories : List PyStr} {late : List ScenarioQualityFinding}
    (h : emitSteps (releaseSteps lib version selected categories) = .ok late) (hnil : late = []) :
    floorDrafts version selected categories = [] := by
  rw [emitSteps] at h
  obtain ⟨found, hfound, h⟩ := bind_eq_ok_iff.mp h
  obtain rfl := Except.ok.inj h
  obtain ⟨fs, hfs, hemit⟩ := exists_of_mapM_eq_ok hfound (.ok (floorDrafts version selected categories))
    (List.mem_append_right _ (List.mem_singleton.mpr rfl))
  exact (emitAll_eq_nil_iff hemit).mp (List.flatten_eq_nil_iff.mp hnil fs hfs)

/-! ### The receipt -/

theorem strip_of_validSelector {selector : Option PyStr} {id : PyStr} (h : validSelector selector = some id) :
    id.strip ≠ [] := by
  rw [validSelector] at h
  split_ifs at h with hvalid
  rw [h, selectorValid, Option.all_some, Bool.and_eq_true, bne_iff_ne] at hvalid
  exact hvalid.1

/-- The selector is a field of the receipt unless it does not encode. -/
theorem setIdField_cases (selector : Option PyStr) :
    (Raises (setIdField selector) ∧ ∃ id, validSelector selector = some id ∧ ¬ Encodes id) ∨
    (∃ field, setIdField selector = .ok field ∧ (scopeOf selector = .release ↔ field ≠ none) ∧
      ¬ ∃ id, validSelector selector = some id ∧ ¬ Encodes id) := by
  rw [setIdField, scopeOf]
  rcases hvalid : validSelector selector with - | id
  · exact Or.inr ⟨none, rfl, by simp, by simp⟩
  · have hencodes := nonEmptyText?_isSome_iff (strip_of_validSelector hvalid)
    rcases hfield : nonEmptyText? id with - | field
    · rw [hfield] at hencodes
      refine Or.inl ⟨⟨.valueError, ?_⟩, id, rfl, fun h => by simpa using hencodes.mpr h⟩
      simp [hfield]
    · rw [hfield] at hencodes
      refine Or.inr ⟨some field, ?_, by simp, ?_⟩
      · simp [hfield]
      · rintro ⟨id', hid', h⟩
        obtain rfl := Option.some.inj hid'
        exact h (hencodes.mp rfl)

theorem not_raises_versionedReceipt {r : ScenarioQualityReceiptData} {version : QualityVersion}
    (h : ∀ v, (v = .v1 ∨ v = version) → ({ r with version := v } : ScenarioQualityReceiptData).validate = .ok ()) :
    ¬ Raises (versionedReceipt r version) := by
  rw [versionedReceipt, raises_bind_iff]
  rintro (hfirst | ⟨first, -, hsecond⟩)
  · rw [receiptIn, raises_mapError_iff, construct_of_ok (h .v1 (Or.inl rfl))] at hfirst
    exact not_raises_ok hfirst
  · split_ifs at hsecond
    · exact not_raises_ok hsecond
    · cases version with
      | v1 => contradiction
      | v2 =>
        rw [receiptIn, raises_mapError_iff, construct_of_ok (h .v2 (Or.inr rfl))] at hsecond
        exact not_raises_ok hsecond

/-- The receipt about selected cases is refused only for its selector. -/
theorem raises_qualityReceipt_iff {candidate : PackageCandidateIdentity} {selector : Option PyStr}
    {version : QualityVersion} {selected : List YamlValue} {categories : List PyStr}
    {findings : List ScenarioQualityFinding} (hlength : categories.length ≤ selected.length)
    (hpass : findings = [] → selected ≠ [] ∧
      (validSelector selector ≠ none →
        5 ≤ selected.length ∧ selected.length ≤ 10 ∧ 1 ≤ countCategories "pressure" "regression" categories ∧
          1 ≤ countCategories "negative" "edge" categories) ∧
      (version = .v2 → validSelector selector ≠ none ∧ selected.length = 10)) :
    Raises (qualityReceipt candidate selector version selected categories findings) ↔
      ∃ id, validSelector selector = some id ∧ ¬ Encodes id := by
  rw [qualityReceipt, raises_bind_iff]
  -- only the scenario set id may be refused: the rules of the receipt hold
  rcases setIdField_cases selector with ⟨hraises, hid⟩ | ⟨field, hfield, hscope, hid⟩
  · exact iff_of_true (Or.inl hraises) hid
  · refine iff_of_false ?_ hid
    rintro (hraises | ⟨field', hfield', hraises⟩)
    · rw [hfield] at hraises
      exact not_raises_ok hraises
    · rw [hfield] at hfield'
      obtain rfl := Except.ok.inj hfield'
      refine not_raises_versionedReceipt (fun v hv => ?_) hraises
      have hsorted : findings.insertionSort findingPrecedes = [] ↔ findings = [] := by
        rw [← List.length_eq_zero_iff, List.length_insertionSort, List.length_eq_zero_iff]
      have hrelease : scopeOf selector = .release → validSelector selector ≠ none := by
        intro h hnone
        rw [scopeOf, if_pos hnone] at h
        cases h
      apply ScenarioQualityReceiptData.validate_eq_ok
      · exact hscope
      · exact List.countP_le_length.trans hlength
      · exact List.countP_le_length.trans hlength
      · intro hstatus hnil
        dsimp only at hstatus hnil
        rw [if_pos (hsorted.mp hnil)] at hstatus
        cases hstatus
      · intro hstatus
        dsimp only at hstatus
        have hnil : findings = [] := by
          by_contra hne
          rw [if_neg hne] at hstatus
          cases hstatus
        obtain ⟨hne, hfloor, hactive⟩ := hpass hnil
        refine ⟨⟨hsorted.mpr hnil, Option.some_ne_none _⟩, fun h => hne (List.length_eq_zero_iff.mp h), ?_, ?_⟩
        · intro h
          obtain ⟨hleast, hmost, hpressure, hnegative⟩ := hfloor (hrelease h)
          cases v with
          | v1 => exact ⟨hleast, hmost, hpressure, hnegative⟩
          | v2 =>
            obtain ⟨-, hten⟩ := hactive (hv.resolve_left (by simp)).symm
            exact ⟨hten.ge, hten.le, hpressure, hnegative⟩
        · intro h
          have hv2 : v = .v2 := h
          rw [hv2] at hv
          obtain ⟨hsome, hten⟩ := hactive (hv.resolve_left (by simp)).symm
          exact ⟨by rw [scopeOf, if_neg hsome], hten⟩

/-! ### The whole assessment -/

/-- How a payload is loaded: it is read under a valid selector, or a finding says why not. -/
def Loaded (selector : Option PyStr) (loading : List FindingDraft) (payload : Option YamlValue) : Prop :=
  (∃ v, payload = some v ∧ loading = [] ∧ selectorValid selector = true) ∨
    ∃ d, payload = none ∧ loading = [d] ∧ d.sound = true

theorem not_mem_selected_of_none {version : QualityVersion} {selector : Option PyStr} {case : YamlValue} :
    case ∉ selectedCases version selector none := by
  rw [selectedCases]
  rcases validSelector selector with - | id
  · exact List.not_mem_nil
  · intro h
    obtain ⟨id, -, hcase⟩ := List.mem_filterMap.mp h
    cases hcase

/-- An assessment without findings has selected cases, in a release of the required mixture. -/
theorem selected_of_no_findings {packageId : PackageId} {version : QualityVersion} {selector : Option PyStr}
    {loading : List FindingDraft} {payload : Option YamlValue} (hload : Loaded selector loading payload)
    {opening : List FindingDraft}
    (hopening : opening = if version = .v2 ∧ selector = none then [draft activeScenarioSetRequired] else [])
    (hearly : opening ++ loading ++ earlyDrafts packageId version selector payload = [])
    {categories : List PyStr}
    (hlate : validSelector selector ≠ none →
      floorDrafts version (selectedCases version selector payload) categories = []) :
    selectedCases version selector payload ≠ [] ∧
      (validSelector selector ≠ none →
        5 ≤ (selectedCases version selector payload).length ∧
          (selectedCases version selector payload).length ≤ 10 ∧
          1 ≤ countCategories "pressure" "regression" categories ∧
          1 ≤ countCategories "negative" "edge" categories) ∧
      (version = .v2 → validSelector selector ≠ none ∧
        (selectedCases version selector payload).length = 10) := by
  obtain ⟨hopen, hdrafts⟩ := List.append_eq_nil_iff.mp hearly
  obtain ⟨hopen, hloading⟩ := List.append_eq_nil_iff.mp hopen
  -- a payload that is not loaded has its finding in `loading`
  rcases hload with ⟨v, rfl, -, hselector⟩ | ⟨d, -, rfl, -⟩
  · have hfloor : validSelector selector ≠ none → _ := fun h => floorDrafts_eq_nil (hlate h)
    refine ⟨?_, fun h => (hfloor h).1, fun hversion => ?_⟩
    · intro hnil
      by_cases hnone : validSelector selector = none
      · rw [selectedCases, hnone] at hnil
        have hcases : documentCases v = [] := hnil
        obtain ⟨hdocument, -⟩ := List.append_eq_nil_iff.mp (List.append_eq_nil_iff.mp hdrafts).1
        cases v with
        | dict members =>
          simp only [documentDrafts, List.append_eq_nil_iff] at hdocument
          rw [hcases] at hdocument
          exact List.cons_ne_nil _ _ hdocument.2
        | none | bool | int | float | str | bytes | date | list | tuple | set =>
          exact List.cons_ne_nil _ _ hdocument
      · have hleast := (hfloor hnone).1.1
        rw [hnil] at hleast
        exact absurd hleast (by decide)
    · have hselected : validSelector selector ≠ none := by
        rw [validSelector, if_pos hselector]
        intro hnone
        rw [hopening, if_pos ⟨hversion, hnone⟩] at hopen
        exact List.cons_ne_nil _ _ hopen
      exact ⟨hselected, (hfloor hselected).2 hversion⟩
  · exact absurd hloading (List.cons_ne_nil _ _)

/-- **An assessment whose sets are read as they were accepted raises** exactly on a hazard. -/
theorem raises_assessPayload_iff {candidate : PackageCandidateIdentity} {version : QualityVersion}
    {selector : Option PyStr} {loading : List FindingDraft} {payload : Option YamlValue}
    (hload : Loaded selector loading payload)
    (hread : ∀ set ∈ keptSets version selector payload, ReadAsAccepted set) :
    Raises (assessPayload lib candidate selector version loading payload) ↔
      QualityHazard lib version selector payload := by
  obtain ⟨drafts, hselect, hunknown⟩ := selectReleaseCases_eq hread
  generalize hselected : selectedCases version selector payload = selected at hselect
  have htexts : validSelector selector ≠ none → ∀ case ∈ selected, ∃ id, caseText? case = some id := by
    intro h case hcase
    exact caseText?_of_selected h (hselected ▸ hcase)
  have hrelease : scopeOf selector = .release ↔ validSelector selector ≠ none := by
    rw [scopeOf]
    split_ifs with h
    · simp [h]
    · simp [h]
  rw [assessPayload]
  dsimp only
  generalize hopening : (if version = .v2 ∧ selector = none then [draft activeScenarioSetRequired]
    else []) = opening
  have hfixed : ∀ d ∈ opening ++ loading, d.sound = true := by
    intro d hd
    rcases List.mem_append.mp hd with hd | hd
    · rw [← hopening] at hd
      split_ifs at hd
      · rw [List.mem_singleton.mp hd]
        exact draft_sound _
      · exact absurd hd List.not_mem_nil
    · rcases hload with ⟨-, -, rfl, -⟩ | ⟨d', -, rfl, hsound⟩
      · exact absurd hd List.not_mem_nil
      · rw [List.mem_singleton.mp hd]
        exact hsound
  have hcases : (∃ members key, payload = some (.dict members) ∧ key ∈ members.map Prod.fst ∧
        key ∉ topFields ∧ ¬ Encodes key) ∨
      (∃ id ∈ selectedIds version selector payload,
        caseById (readCases payload) id = none ∧ ¬ Encodes id) ∨
      (∃ case ∈ selected, Raises (caseFindings lib case)) ∨
      (validSelector selector ≠ none ∧
        ∃ members, .dict members ∈ selected ∧ (yamlGet members "category").hasLongInt = true) ∨
      (validSelector selector ≠ none ∧ ∃ members id, .dict members ∈ selected ∧
        releaseEligible (yamlGet members "eval_modes") = false ∧
        (yamlGet members "id").text? = some id ∧ ¬ Encodes id) ∨
      (∃ id, validSelector selector = some id ∧ ¬ Encodes id) ↔
        QualityHazard lib version selector payload := by
    subst hselected
    constructor
    · rintro (⟨members, key, hpayload, hmem, hfields, hencodes⟩ | ⟨id, hid, hnone, hencodes⟩ |
        ⟨case, hcase, hraises⟩ | ⟨hvalid, members, hcase, hlong⟩ |
        ⟨hvalid, members, id, hcase, heligible, hid, hencodes⟩ | ⟨id, hid, hencodes⟩)
      · exact .topKey hpayload hmem hfields hencodes
      · exact .unknownId hid hnone hencodes
      · rcases hmembers : members? case with - | members
        · exact absurd hraises (not_raises_caseFindings hmembers)
        · cases case with
          | dict ms => exact .case hcase (raises_caseFindings_iff.mp hraises)
          | none | bool | int | float | str | bytes | date | list | tuple | set => cases hmembers
      · exact .category hvalid hcase hlong
      · exact .ineligible hvalid hcase heligible hid hencodes
      · exact .selector hid hencodes
    · intro hazard
      cases hazard with
      | selector hid hencodes => exact Or.inr (Or.inr (Or.inr (Or.inr (Or.inr ⟨_, hid, hencodes⟩))))
      | topKey hpayload hmem hfields hencodes => exact Or.inl ⟨_, _, hpayload, hmem, hfields, hencodes⟩
      | unknownId hid hnone hencodes => exact Or.inr (Or.inl ⟨_, hid, hnone, hencodes⟩)
      | case hcase hazard =>
        exact Or.inr (Or.inr (Or.inl ⟨_, hcase, raises_caseFindings_iff.mpr hazard⟩))
      | category hvalid hcase hlong => exact Or.inr (Or.inr (Or.inr (Or.inl ⟨hvalid, _, hcase, hlong⟩)))
      | ineligible hvalid hcase heligible hid hencodes =>
        exact Or.inr (Or.inr (Or.inr (Or.inr (Or.inl ⟨hvalid, _, _, hcase, heligible, hid, hencodes⟩))))
  rw [← hcases]
  refine (raises_bind_iff_of_forall fun early hearly => ?_).trans (or_congr_left (raises_early_iff hfixed))
  -- the selection returns
  show Raises (selectReleaseCases (readCases payload) _ _ >>= _) ↔ _
  rw [hselect]
  show Raises (emitAll (drafts ++ duplicateDrafts selected) >>= _) ↔ _
  have hselection : Raises (emitAll (drafts ++ duplicateDrafts selected)) ↔
      ∃ id ∈ selectedIds version selector payload,
        caseById (readCases payload) id = none ∧ ¬ Encodes id := by
    rw [raises_emitAll_iff, ← hunknown]
    constructor
    · rintro ⟨d, hd, hsound⟩
      rcases List.mem_append.mp hd with hd | hd
      · exact ⟨d, hd, hsound⟩
      · obtain ⟨text, rfl⟩ := mem_duplicateDrafts hd
        rw [draft_sound] at hsound
        cases hsound
    · exact fun ⟨d, hd, hsound⟩ => ⟨d, List.mem_append_left _ hd, hsound⟩
  refine (raises_bind_iff_of_forall fun selection _ => ?_).trans (or_congr_left hselection)
  refine (raises_bind_iff_of_forall fun found _ => ?_).trans (or_congr_left raises_mapM_iff)
  have hcategories : Raises (countedCategories lib selector selected) ↔ validSelector selector ≠ none ∧
        ∃ members, .dict members ∈ selected ∧ (yamlGet members "category").hasLongInt = true := by
    rw [countedCategories]
    by_cases h : scopeOf selector = .release
    · rw [if_pos h, raises_shownCategories_iff, and_iff_right (hrelease.mp h)]
    · rw [if_neg h]
      exact iff_of_false not_raises_ok fun hvalid => h (hrelease.mpr hvalid.1)
  refine (raises_bind_iff_of_forall fun categories hcats => ?_).trans (or_congr_left hcategories)
  have hsteps : Raises (releaseFindings lib selector version selected categories) ↔
      validSelector selector ≠ none ∧ ∃ members id, .dict members ∈ selected ∧
        releaseEligible (yamlGet members "eval_modes") = false ∧
        (yamlGet members "id").text? = some id ∧ ¬ Encodes id := by
    rw [releaseFindings]
    by_cases h : scopeOf selector = .release
    · rw [if_pos h, raises_releaseSteps_iff (htexts (hrelease.mp h)), and_iff_right (hrelease.mp h)]
    · rw [if_neg h]
      exact iff_of_false not_raises_ok fun hvalid => h (hrelease.mpr hvalid.1)
  refine (raises_bind_iff_of_forall fun late hlate => ?_).trans (or_congr_left hsteps)
  apply raises_qualityReceipt_iff
  · by_cases h : scopeOf selector = .release
    · rw [countedCategories, if_pos h] at hcats
      exact length_shownCategories hcats
    · rw [countedCategories, if_neg h] at hcats
      obtain rfl := Except.ok.inj hcats
      exact Nat.zero_le _
  · intro hnil
    obtain ⟨hnil, hlatenil⟩ := List.append_eq_nil_iff.mp hnil
    obtain ⟨hnil, -⟩ := List.append_eq_nil_iff.mp hnil
    obtain ⟨hearlynil, -⟩ := List.append_eq_nil_iff.mp hnil
    subst hselected
    refine selected_of_no_findings hload hopening.symm ((emitAll_eq_nil_iff hearly).mp hearlynil) fun hvalid => ?_
    rw [releaseFindings, if_pos (hrelease.mpr hvalid)] at hlate
    exact floorDrafts_eq_nil_of_emitSteps hlate hlatenil

/-- A kept set has been accepted for some ids. -/
theorem acceptedIds?_of_kept {version : QualityVersion} {selector : Option PyStr} {payload : Option YamlValue}
    {set : YamlMembers} (h : set ∈ keptSets version selector payload) : acceptedIds? set ≠ none := by
  rw [keptSets] at h
  rcases hmembers : payload.bind members? with - | members
  · rw [hmembers] at h
    exact absurd h List.not_mem_nil
  · rw [hmembers, Option.map_some, Option.getD_some, releaseSets] at h
    generalize yamlGet members "release_scenario_sets" = v at h
    cases v with
    | list entries =>
      dsimp only at h
      split_ifs at h
      · obtain ⟨⟨id, set⟩, hpassing, rfl⟩ := List.mem_map.mp h
        obtain ⟨entry, -, hentry⟩ := List.mem_filterMap.mp hpassing
        cases entry with
        | dict members =>
          rw [checkSet] at hentry
          rcases hid : (yamlGet members "id").text? with - | id
          · rw [hid] at hentry
            cases hentry
          · rw [hid] at hentry
            dsimp only at hentry
            by_cases hnone : acceptedIds? members = none
            · rw [if_pos hnone] at hentry
              split_ifs at hentry
              · cases hentry
              · cases hentry
            · rw [if_neg hnone] at hentry
              split_ifs at hentry
              · cases hentry
              · obtain rfl : members = set := congrArg Prod.snd (Option.some.inj hentry)
                exact hnone
              · cases hentry
        | none | bool | int | float | str | bytes | date | list | tuple | set => cases hentry
      · exact absurd h List.not_mem_nil
    | none | bool | int | float | str | bytes | date | tuple | set | dict => exact absurd h List.not_mem_nil

/-- Loading a parsed payload. -/
theorem loadPayload_ok {validation : SkillPackageValidation} (payload : YamlValue) (selector : Option PyStr)
    (hpass : validation.val.status = .pass) :
    ∃ loading, loadPayload validation.val.files (.ok payload) selector =
        .ok (loading, readPayload validation payload selector) ∧
      Loaded selector loading (readPayload validation payload selector) := by
  rw [loadPayload, readPayload]
  by_cases hselector : selectorValid selector = false
  · rw [if_pos hselector, if_neg (by simp [hselector])]
    exact ⟨_, rfl, Or.inr ⟨_, rfl, rfl, draft_sound invalidSelector⟩⟩
  · rw [if_neg hselector]
    by_cases hfile : evalsPath ∈ validation.val.files.map (·.path)
    · rw [if_neg (not_not.mpr hfile), if_pos ⟨hpass, by simpa using hselector, hfile⟩]
      exact ⟨[], rfl, Or.inl ⟨payload, rfl, rfl, by simpa using hselector⟩⟩
    · rw [if_pos hfile, if_neg fun h => hfile h.2.2]
      exact ⟨_, rfl, Or.inr ⟨_, rfl, rfl, draft_sound missingEvalsYaml⟩⟩

/-- A blocked package is reported, unless the selector does not encode. -/
theorem raises_blockedValidationReceipt_iff {validation : SkillPackageValidation} (selector : Option PyStr)
    (version : QualityVersion) (hblocked : validation.val.status = .blocked) :
    Raises (blockedValidationReceipt validation selector version) ↔
      ∃ id, validSelector selector = some id ∧ ¬ Encodes id := by
  rw [blockedValidationReceipt, raises_bind_iff]
  rcases setIdField_cases selector with ⟨hraises, hid⟩ | ⟨field, hfield, hscope, hid⟩
  · exact iff_of_true (Or.inl hraises) hid
  · refine iff_of_false ?_ hid
    rintro (hraises | ⟨field', hfield', hraises⟩)
    · rw [hfield] at hraises
      exact not_raises_ok hraises
    · rw [hfield] at hfield'
      obtain rfl := Except.ok.inj hfield'
      refine not_raises_versionedReceipt (fun v _ => ?_) hraises
      -- a blocked validation has a finding to hand on
      have hfindings : validation.val.findings ≠ [] := by
        intro hnil
        have hblockers := ((SkillPackageValidationData.validate_blocked_iff hblocked).mp validation.2).1
        rw [SkillPackageValidationData.blockers, hnil] at hblockers
        exact hblockers rfl
      apply ScenarioQualityReceiptData.validate_eq_ok
      · exact hscope
      · exact Nat.le_refl 0
      · exact Nat.le_refl 0
      · exact fun _ hnil => hfindings (List.map_eq_nil_iff.mp hnil)
      · intro hstatus
        cases hstatus

/-- Without a payload only the selector is left to fail. -/
theorem qualityHazard_none_iff {version : QualityVersion} {selector : Option PyStr} :
    QualityHazard lib version selector none ↔ ∃ id, validSelector selector = some id ∧ ¬ Encodes id := by
  constructor
  · intro hazard
    cases hazard with
    | selector hid hencodes => exact ⟨_, hid, hencodes⟩
    | topKey hpayload => cases hpayload
    | unknownId hid =>
      rw [selectedIds] at hid
      rcases hvalid : validSelector selector with - | id
      · rw [hvalid] at hid
        exact absurd hid List.not_mem_nil
      · rw [hvalid] at hid
        exact absurd hid List.not_mem_nil
    | case hcase => exact absurd hcase not_mem_selected_of_none
    | category _ hcase => exact absurd hcase not_mem_selected_of_none
    | ineligible _ hcase => exact absurd hcase not_mem_selected_of_none
  · rintro ⟨id, hid, hencodes⟩
    exact .selector hid hencodes

/-- A failure that is handled is reported by a finding that can be made. -/
theorem failureDraft_eq_ok {failure : EvalsFailure} (h : ∀ e, failure ≠ .unlisted e) :
    ∃ d, failureDraft failure = .ok d ∧ d.sound = true := by
  have hnamed : ∀ (code : BlockerCode) (name : PlainText), (⟨code,
      PyStr.lit "evals.yaml could not be safely loaded: " ++ PyStr.ofText name.val, none⟩ :
        FindingDraft).sound = true := by
    intro code name
    rw [FindingDraft.sound, (nonEmptyText?_lit_append ⟨'e', by decide +kernel, rfl⟩).mpr (encodes_ofText _)]
    rfl
  cases failure with
  | unicodeDecodeError => exact ⟨_, rfl, draft_sound _⟩
  | valueError message name => exact ⟨_, rfl, hnamed _ _⟩
  | handled name => exact ⟨_, rfl, hnamed _ _⟩
  | unlisted e => exact absurd rfl (h e)

/-- A document that does not load is reported, unless the selector does not encode. -/
theorem not_raises_of_failure {validation : SkillPackageValidation} {failure : EvalsFailure}
    (h : ∀ e, failure ≠ .unlisted e) {selector : Option PyStr}
    (hselector : ¬ ∃ id, validSelector selector = some id ∧ ¬ Encodes id) (version : QualityVersion) :
    ¬ Raises (assessScenarioQuality lib validation (.error failure) selector version) := by
  rw [assessScenarioQuality]
  cases hstatus : validation.val.status with
  | pass =>
    obtain ⟨candidate, hcandidate⟩ := Option.ne_none_iff_exists'.mp
      ((SkillPackageValidationData.validate_pass_iff hstatus).mp validation.2).2.1.1
    -- a failure to load is a finding that is always accepted
    obtain ⟨d, hd, hsound⟩ := failureDraft_eq_ok h
    obtain ⟨d', hload, hsound'⟩ : ∃ d', loadPayload validation.val.files (.error failure) selector =
        .ok ([d'], none) ∧ d'.sound = true := by
      rw [loadPayload]
      split_ifs
      · exact ⟨_, rfl, draft_sound _⟩
      · exact ⟨d, by rw [hd]; rfl, hsound⟩
      · exact ⟨_, rfl, draft_sound _⟩
    rw [hcandidate]
    dsimp only
    rw [hload]
    have hloaded : Loaded selector [d'] none := Or.inr ⟨d', rfl, rfl, hsound'⟩
    have hraises : Raises (assessPayload lib candidate selector version [d'] none) ↔ _ :=
      raises_assessPayload_iff hloaded fun set hset => absurd hset List.not_mem_nil
    exact fun hassess => hselector (qualityHazard_none_iff.mp (hraises.mp hassess))
  | blocked =>
    have hreceipt := raises_blockedValidationReceipt_iff selector version hstatus
    rcases validation.val.candidate with - | candidate
    · exact fun hassess => hselector (hreceipt.mp hassess)
    · exact fun hassess => hselector (hreceipt.mp hassess)

/-- An assessment whose sets are read as they were accepted raises exactly on a hazard of
the payload that it reads. -/
theorem raises_assessScenarioQuality_iff {validation : SkillPackageValidation} {payload : YamlValue}
    {selector : Option PyStr} {version : QualityVersion}
    (hread : ∀ set ∈ keptSets version selector (readPayload validation payload selector), ReadAsAccepted set) :
    Raises (assessScenarioQuality lib validation (.ok payload) selector version) ↔
      QualityHazard lib version selector (readPayload validation payload selector) := by
  rw [assessScenarioQuality]
  cases hstatus : validation.val.status with
  | pass =>
    obtain ⟨candidate, hcandidate⟩ := Option.ne_none_iff_exists'.mp
      ((SkillPackageValidationData.validate_pass_iff hstatus).mp validation.2).2.1.1
    obtain ⟨loading, hloading, hload⟩ := loadPayload_ok payload selector hstatus
    rw [hcandidate]
    dsimp only
    rw [hloading]
    exact raises_assessPayload_iff hload hread
  | blocked =>
    have hnone : readPayload validation payload selector = none := by
      rw [readPayload, if_neg (by simp [hstatus])]
    have hreceipt := raises_blockedValidationReceipt_iff selector version hstatus
    rw [hnone, qualityHazard_none_iff, ← hreceipt]
    rcases validation.val.candidate with - | candidate
    · rfl
    · rfl

/-- **Release sets are read as they were validated and the assessment returns**
exactly when the groups next to accepted flat ids are no mapping, acceptable or
spell the same ids, and nothing that has to be quoted, compiled or written makes
the assessment raise. -/
theorem readsReleaseSets_iff (lib : QualityLibrary) (validation : SkillPackageValidation)
    (payload : YamlValue) (selector : Option PyStr) (version : QualityVersion) :
    (¬ Raises (assessScenarioQuality lib validation (.ok payload) selector version) ∧
      ∀ set ∈ keptSets version selector (readPayload validation payload selector), ReadAsAccepted set) ↔
    (∀ set ∈ keptSets version selector (readPayload validation payload selector), ReadsAsValidated set) ∧
      ¬ QualityHazard lib version selector (readPayload validation payload selector) := by
  have hsets : (∀ set ∈ keptSets version selector (readPayload validation payload selector),
        ReadAsAccepted set) ↔
      ∀ set ∈ keptSets version selector (readPayload validation payload selector),
        ReadsAsValidated set :=
    forall₂_congr fun set hset => readAsAccepted_iff (acceptedIds?_of_kept hset)
  rw [and_comm, ← hsets]
  exact and_congr_right fun hread => not_congr (raises_assessScenarioQuality_iff hread)

end

/-! ### A set with stray groups -/

/-- A set that is accepted for its flat id, with a group that is a number. -/
def strayGroupsSet : YamlMembers :=
  [(PyStr.lit "id", .str (PyStr.lit "active")), (PyStr.lit "minimum_scenarios", .int 5),
    (PyStr.lit "target_scenarios", .int 8), (PyStr.lit "maximum_scenarios", .int 10),
    (PyStr.lit "groups", .dict [(PyStr.lit "main", .int 5)]),
    (PyStr.lit "cases", .list [.str (PyStr.lit "first")])]

def strayGroupsPayload : YamlValue :=
  .dict [(PyStr.lit "release_scenario_sets", .list [.dict strayGroupsSet])]

def strayGroupsCandidate : PackageCandidateIdentity where
  packageId := literal "stray" (by decide +kernel)
  sourceRevision := ⟨List.replicate 40 'a', by decide +kernel⟩
  contentSha256 := ⟨List.replicate 64 'b', by decide +kernel⟩

theorem strayGroups_hex : isHexOfLength 64 (List.replicate 64 'c') = true := isHexOfLength_replicate rfl

def strayGroupsValidation : SkillPackageValidation :=
  ⟨{ candidate := some strayGroupsCandidate
     status := .pass
     identity := some ⟨⟨literal "stray" (by decide +kernel), literal "stray" (by decide +kernel),
       literal "1" (by decide +kernel)⟩, by decide +kernel⟩
     files := [⟨evalsPath, ⟨List.replicate 64 'c', strayGroups_hex⟩, 1, .reference⟩] },
    by decide +kernel⟩

theorem strayGroups_float : ("0.0".toList.all isPrintableAscii) = true := by decide +kernel

def strayGroupsLibrary : QualityLibrary where
  interp := ⟨fun _ => ⟨"0.0".toList, strayGroups_float⟩, fun _ => true⟩
  compile := fun _ => .compiled

/-- The set is kept and selected, and reading it raises. -/
theorem strayGroups_not_read :
    ¬ (¬ Raises (assessScenarioQuality strayGroupsLibrary strayGroupsValidation (.ok strayGroupsPayload)
        (some (PyStr.lit "active")) .v1) ∧
      ∀ set ∈ keptSets .v1 (some (PyStr.lit "active"))
          (readPayload strayGroupsValidation strayGroupsPayload (some (PyStr.lit "active"))),
        ReadAsAccepted set) := by
  rintro ⟨-, hread⟩
  have hkept : keptSets .v1 (some (PyStr.lit "active"))
      (readPayload strayGroupsValidation strayGroupsPayload (some (PyStr.lit "active"))) =
        [strayGroupsSet] := rfl
  rw [hkept] at hread
  obtain ⟨ids, -, -, -, hok⟩ := hread strayGroupsSet (List.mem_singleton.mpr rfl)
  have hraises : releaseSetCaseIds strayGroupsSet = .error .typeError := rfl
  rw [hraises] at hok
  cases hok

end SkillsSdk

/-
SkillsSdk/SourceIndicators.lean

The scan of captured source for indicators: `source_security_indicators`.

The file `references/evals.yaml` is not scanned as it is written.  It is parsed,
and what is scanned are its keys and what `str(…)` makes of its values, without
the prompts of cases that ask for a refusal.  A string that stands directly
under a key arrives as it is (`DirectText`); a string inside a list or a mapping
arrives escaped, so the letters that the scan looks for are gone.
-/
import SkillsSdk.SkillValidation
import SkillsSdk.YamlValues

namespace SkillsSdk

/-! ### Findings -/

inductive SecurityCategory where
  | secret
  | unsafePath
  | externalService
  | license
  | mcpAuth
  | dependency
  deriving DecidableEq

inductive SecuritySeverity where
  | info
  | warning
  | blocker
  deriving DecidableEq

structure SecurityFinding where
  code : NonEmptyText
  category : SecurityCategory
  severity : SecuritySeverity
  message : NonEmptyText
  evidenceRefs : List PortablePath
  deriving DecidableEq

/-- A stable code and its category. -/
abbrev IndicatorKind := NonEmptyText × SecurityCategory

/-- `_finding`. -/
def indicator (kind : IndicatorKind) (path : PortablePath) : SecurityFinding where
  code := kind.1
  category := kind.2
  severity := .warning
  message := literal "Captured source contains an indicator requiring applicable review."
    (by decide +kernel)
  evidenceRefs := [path]

def opaqueBinaryContent : IndicatorKind := (literal "opaque_binary_content" (by decide +kernel), .dependency)

def pipeToShellDownload : IndicatorKind :=
  (literal "pipe_to_shell_download" (by decide +kernel), .externalService)

def suspiciousDownloadUrl : IndicatorKind :=
  (literal "suspicious_download_url" (by decide +kernel), .externalService)

def hardcodedSecretLiteral : IndicatorKind :=
  (literal "hardcoded_secret_literal" (by decide +kernel), .secret)

def externalWriteCapability : IndicatorKind :=
  (literal "external_write_capability" (by decide +kernel), .externalService)

def untrustedExternalContent : IndicatorKind :=
  (literal "untrusted_external_content_acquisition" (by decide +kernel), .externalService)

def composedCapabilityRisk : IndicatorKind :=
  (literal "composed_capability_risk" (by decide +kernel), .externalService)

def hiddenUnicodeObfuscation : IndicatorKind :=
  (literal "hidden_unicode_obfuscation" (by decide +kernel), .unsafePath)

def executableSourceCapability : IndicatorKind :=
  (literal "executable_source_capability" (by decide +kernel), .dependency)

def dependencyManifest : IndicatorKind := (literal "dependency_manifest" (by decide +kernel), .dependency)

/-- The patterns of `_PATTERNS` by their codes. -/
inductive SourcePattern where
  | runtimeInstructionFetch
  | hardcodedSecretLiteral
  | insecureCredentialOutput
  | systemServiceModification
  | destructiveLocalCapability
  | externalWriteCapability
  | toolAccessCapability
  | untrustedExternalContent
  deriving DecidableEq

def SourcePattern.kind : SourcePattern → IndicatorKind
  | runtimeInstructionFetch =>
    (literal "runtime_instruction_fetch" (by decide +kernel), .externalService)
  | hardcodedSecretLiteral => SkillsSdk.hardcodedSecretLiteral
  | insecureCredentialOutput => (literal "insecure_credential_output" (by decide +kernel), .secret)
  | systemServiceModification =>
    (literal "system_service_modification" (by decide +kernel), .unsafePath)
  | destructiveLocalCapability =>
    (literal "destructive_local_capability" (by decide +kernel), .unsafePath)
  | externalWriteCapability => SkillsSdk.externalWriteCapability
  | toolAccessCapability => (literal "tool_access_capability" (by decide +kernel), .mcpAuth)
  | untrustedExternalContent => SkillsSdk.untrustedExternalContent

/-- `_PATTERNS`, in its order. -/
def sourcePatterns : List SourcePattern :=
  [.runtimeInstructionFetch, .hardcodedSecretLiteral, .insecureCredentialOutput,
    .systemServiceModification, .destructiveLocalCapability, .externalWriteCapability,
    .toolAccessCapability, .untrustedExternalContent]

/-! ### The library -/

/-- A match of `_PIPE_TOKENS`. -/
inductive PipeToken where
  | newline
  /-- A pipe, and whether `_SHELL_AFTER_PIPE` matches behind it. -/
  | pipe (shell : Bool)
  | download
  deriving DecidableEq

/-- What the scan takes from outside: the closed YAML loader, the interpreter,
and the matches of its regular expressions in a text. -/
structure SourceLibrary where
  interp : PyInterpreter
  load : Text → Except PyExc YamlValue
  pipeTokens : PyStr → List PipeToken
  urlTokens : PyStr → List PyStr
  downloadMarker : PyStr → Bool
  search : SourcePattern → PyStr → Bool

variable (lib : SourceLibrary)

/-- The loop of `_pipe_to_shell`, after the tokens that led to the flag. -/
def pipeToShellFrom : List PipeToken → Bool → Bool
  | [], _ => false
  | .newline :: tokens, _ => pipeToShellFrom tokens false
  | .pipe shell :: tokens, download => (download && shell) || pipeToShellFrom tokens false
  | .download :: tokens, _ => pipeToShellFrom tokens true

/-- `_pipe_to_shell`. -/
def pipeToShell (text : PyStr) : Bool := pipeToShellFrom (lib.pipeTokens text) false

/-- `_suspicious_download_url`. -/
def hasSuspiciousUrl (text : PyStr) : Bool := (lib.urlTokens text).any lib.downloadMarker

/-! ### Evaluation text -/

/-- The categories and the expectations of a case that asks for a refusal. -/
def refusalCategories : List PyStr := ["negative", "pressure"].map PyStr.lit

def refusalExpectations : List PyStr :=
  ["refuse the operation", "reject the operation", "decline the operation", "cannot comply"].map PyStr.lit

mutual

/-- Asking whether the value is in a set of strings does not raise: it is
hashable, or itself a set. -/
def YamlValue.askable : YamlValue → Bool
  | .none | .bool _ | .int _ | .float _ | .str _ | .bytes _ | .date _ _ | .set _ => true
  | .list _ | .dict _ => false
  | .tuple items => allHashable items

/-- Every one of the values is hashable. -/
def YamlValue.allHashable : List YamlValue → Bool
  | [] => true
  | .set _ :: _ => false
  | v :: items => v.askable && allHashable items

end

/-- `value in {…}`, of a set of strings. -/
def inStrings (v : YamlValue) (strings : List PyStr) : Except PyExc Bool :=
  if v.askable = false then .error .typeError
  else
    match v with
    | .str s => .ok (decide (s ∈ strings))
    | _ => .ok false

/-- The case asks for a refusal. -/
def isRefusal (members : YamlMembers) : Except PyExc Bool := do
  let category ← inStrings (yamlGet members "category") refusalCategories
  return category &&
    match yamlGet members "should" with
    | .str s => decide (s.strip.lower ∈ refusalExpectations)
    | _ => false

def newline : PyStr := [.scalar '\n']

/-- A key and what `str(…)` makes of its value. -/
def memberText (m : PyStr × YamlValue) : Except PyExc PyStr := do
  return m.1 ++ newline ++ (← m.2.shown lib.interp)

/-- The members of a case that are not exempt. -/
def scannedMembers (refusal : Bool) (members : YamlMembers) : YamlMembers :=
  members.filter fun m => !(m.1 == PyStr.lit "prompt" && refusal)

/-- `_case_security_text`. -/
def caseSecurityText : YamlValue → Except PyExc PyStr
  | .dict members => do
    let refusal ← isRefusal members
    let texts ← (scannedMembers refusal members).mapM (memberText lib)
    return List.intercalate newline texts
  | v => v.shown lib.interp

/-- The members of the document besides its cases. -/
def topMembers (members : YamlMembers) : YamlMembers :=
  members.filter fun m => m.1 != PyStr.lit "cases"

/-- The exceptions that the handler of `_eval_security_text` lists. -/
def evalTextHandles : PyExc → Bool
  | .yamlError | .valueError | .unicodeDecodeError | .typeError | .recursionError => true
  | _ => false

/-- The text of a document with cases. -/
def documentText (members : YamlMembers) (cases : List YamlValue) : Except PyExc PyStr := do
  let tops ← (topMembers members).mapM (memberText lib)
  let texts ← cases.mapM (caseSecurityText lib)
  return List.intercalate newline (tops ++ texts)

/-- `_eval_security_text`. -/
def evalSecurityText (text : Text) : Except PyExc PyStr :=
  match lib.load text with
  | .error e => if evalTextHandles e then .ok (PyStr.ofText text) else .error e
  | .ok (.dict members) =>
    match yamlGet members "cases" with
    | .list cases => documentText lib members cases
    | _ => .ok (PyStr.ofText text)
  | .ok _ => .ok (PyStr.ofText text)

/-! ### The scan -/

/-- `char not in "\n\r\t" and unicodedata.category(char) in {"Cf", "Cc"}`. -/
def isHidden : PyChar → Bool
  | .scalar c => c != '\n' && c != '\r' && c != '\t' && isFormatOrControl c
  | .surrogate _ => false

def executableSuffixes : List PyStr :=
  [".py", ".js", ".ts", ".tsx", ".jsx", ".sh", ".bash", ".zsh", ".ps1"].map PyStr.lit

def manifestNames : List PyStr :=
  ["requirements.txt", "pyproject.toml", "package.json", "uv.lock", "package-lock.json"].map PyStr.lit

/-- The kinds that the text causes, in the order of the scan. -/
def textIndicators (text : PyStr) : List IndicatorKind :=
  (if pipeToShell lib text then [pipeToShellDownload] else []) ++
  (if hasSuspiciousUrl lib text then [suspiciousDownloadUrl] else []) ++
  (sourcePatterns.filter fun p => lib.search p text).map SourcePattern.kind

/-- The kind that the others cause together. -/
def composedIndicators (kinds : List IndicatorKind) : List IndicatorKind :=
  if untrustedExternalContent ∈ kinds ∧
      (hardcodedSecretLiteral ∈ kinds ∨ externalWriteCapability ∈ kinds) then [composedCapabilityRisk]
  else []

/-- The kinds that the path causes, with the start of the text. -/
def pathIndicators (path : PortablePath) (text : PyStr) : List IndicatorKind :=
  let parts := path.val.splitOn '/'
  (if (PyStr.lit "#!").isPrefixOf text ∨ "scripts".toList ∈ parts ∨
      (PyStr.ofText (pathSuffix path.val)).lower ∈ executableSuffixes
    then [executableSourceCapability] else []) ++
  (if (PyStr.ofText (parts.getLast?.getD [])).lower ∈ manifestNames then [dependencyManifest] else [])

def hiddenIndicators (text : PyStr) : List IndicatorKind :=
  if text.any isHidden then [hiddenUnicodeObfuscation] else []

/-- The findings of a text. -/
def scanText (path : PortablePath) (text : PyStr) : List SecurityFinding :=
  let kinds := textIndicators lib text
  (kinds ++ composedIndicators kinds ++ hiddenIndicators text ++ pathIndicators path text).map
    (indicator · path)

def evalsPath : PortablePath := literal "references/evals.yaml" (by decide +kernel)

/-- `source_security_indicators`. -/
def sourceSecurityIndicators (path : PortablePath) (content : List UInt8) :
    Except PyExc (List SecurityFinding) :=
  match decodeUtf8 content with
  | none => .ok [indicator opaqueBinaryContent path]
  | some text => do
    let scanned ← if path = evalsPath then evalSecurityText lib text else .ok (PyStr.ofText text)
    return scanText lib path scanned

/-! ### Strings of a document -/

/-- The string stands in the value, at any depth, as a scalar or as a key. -/
inductive Scalar : YamlValue → PyStr → Prop
  | str {s : PyStr} : Scalar (.str s) s
  | list {items : List YamlValue} {v : YamlValue} {s : PyStr} : v ∈ items → Scalar v s →
      Scalar (.list items) s
  | tuple {items : List YamlValue} {v : YamlValue} {s : PyStr} : v ∈ items → Scalar v s →
      Scalar (.tuple items) s
  | set {items : List YamlValue} {v : YamlValue} {s : PyStr} : v ∈ items → Scalar v s →
      Scalar (.set items) s
  | key {members : List (PyStr × YamlValue)} {m : PyStr × YamlValue} : m ∈ members →
      Scalar (.dict members) m.1
  | value {members : List (PyStr × YamlValue)} {m : PyStr × YamlValue} {s : PyStr} : m ∈ members →
      Scalar m.2 s → Scalar (.dict members) s

/-- The code exempts the prompt of the case. -/
def Refuses (members : YamlMembers) : Prop := isRefusal members = .ok true

/-- The string stands in a document with cases, and is no part of an exempt
prompt; `Part` says what counts as a part of a value. -/
inductive DocumentPart (Part : YamlValue → PyStr → Prop) (members : YamlMembers)
    (cases : List YamlValue) : PyStr → Prop
  | topKey {m : PyStr × YamlValue} : m ∈ topMembers members → DocumentPart Part members cases m.1
  | topValue {m : PyStr × YamlValue} {s : PyStr} : m ∈ topMembers members → Part m.2 s →
      DocumentPart Part members cases s
  | loneCase {v : YamlValue} {s : PyStr} : v ∈ cases → (∀ ms, v ≠ .dict ms) → Part v s →
      DocumentPart Part members cases s
  | caseKey {ms : YamlMembers} {m : PyStr × YamlValue} : .dict ms ∈ cases → m ∈ ms →
      DocumentPart Part members cases m.1
  | caseValue {ms : YamlMembers} {m : PyStr × YamlValue} {s : PyStr} : .dict ms ∈ cases → m ∈ ms →
      ¬ (m.1 = PyStr.lit "prompt" ∧ Refuses ms) → Part m.2 s → DocumentPart Part members cases s

/-- A string at any depth, besides the exempt prompts. -/
abbrev DocumentScalar := DocumentPart Scalar

/-- A key, or a string directly under one, or a case that is a string. -/
abbrev DirectText := DocumentPart fun v s => v = .str s

/-- The document can be written: no long integer, and no case whose category is
a list or a mapping. -/
structure Writable (members : YamlMembers) (cases : List YamlValue) : Prop where
  top : ∀ m ∈ topMembers members, m.2.hasLongInt = false
  loneCase : ∀ v ∈ cases, (∀ ms, v ≠ .dict ms) → v.hasLongInt = false
  category : ∀ ms : YamlMembers, .dict ms ∈ cases → (yamlGet ms "category").askable = true
  caseValue : ∀ ms : YamlMembers, .dict ms ∈ cases → ∀ m ∈ ms,
    ¬ (m.1 = PyStr.lit "prompt" ∧ Refuses ms) → m.2.hasLongInt = false

/-! ### What the text holds -/

section

variable {lib} {c : Char}

theorem raises_inStrings_iff {v : YamlValue} {strings : List PyStr} :
    Raises (inStrings v strings) ↔ v.askable = false := by
  unfold inStrings
  by_cases h : v.askable = false
  · rw [if_pos h]
    exact iff_of_true ⟨_, rfl⟩ h
  · rw [if_neg h]
    refine iff_of_false ?_ h
    cases v with
    | str s => exact not_raises_ok
    | _ => exact not_raises_ok

theorem isRefusal_cases (ms : YamlMembers) :
    ((yamlGet ms "category").askable = false ∧ Raises (isRefusal ms)) ∨
      ((yamlGet ms "category").askable = true ∧ ∃ refusal, isRefusal ms = .ok refusal ∧
        (refusal = true ↔ Refuses ms)) := by
  rcases hcategory : inStrings (yamlGet ms "category") refusalCategories with e | category
  · have hraises : Raises (inStrings (yamlGet ms "category") refusalCategories) := ⟨e, hcategory⟩
    refine Or.inl ⟨raises_inStrings_iff.mp hraises, e, ?_⟩
    rw [isRefusal, hcategory]
    rfl
  · have haskable : (yamlGet ms "category").askable = true := by
      by_contra h
      have hraises : Raises (inStrings (yamlGet ms "category") refusalCategories) :=
        raises_inStrings_iff.mpr (by simpa using h)
      rw [hcategory] at hraises
      exact not_raises_ok hraises
    have hok : ∃ refusal, isRefusal ms = .ok refusal := by
      rw [isRefusal, hcategory]
      exact ⟨_, rfl⟩
    obtain ⟨refusal, hrefusal⟩ := hok
    refine Or.inr ⟨haskable, refusal, hrefusal, ?_⟩
    rw [Refuses, hrefusal]
    exact ⟨fun h => h ▸ rfl, fun h => Except.ok.inj h⟩

theorem mem_scannedMembers {refusal : Bool} {ms : YamlMembers} (h : refusal = true ↔ Refuses ms)
    {m : PyStr × YamlValue} :
    m ∈ scannedMembers refusal ms ↔ m ∈ ms ∧ ¬ (m.1 = PyStr.lit "prompt" ∧ Refuses ms) := by
  rw [scannedMembers, List.mem_filter, ← h]
  cases refusal with
  | true => simp
  | false => simp

/-- A letter in texts that are joined by line feeds is in one of them. -/
theorem mem_intercalate_newline {texts : List PyStr} (hc : c ≠ '\n') :
    PyChar.scalar c ∈ List.intercalate newline texts ↔ ∃ t ∈ texts, PyChar.scalar c ∈ t := by
  induction texts with
  | nil => simp
  | cons t texts ih =>
    rcases texts with - | ⟨u, texts⟩
    · simp [List.intercalate]
    · rw [List.intercalate_cons_cons, List.mem_append, List.mem_append, ih, List.exists_mem_cons_iff]
      have hnewline : PyChar.scalar c ∉ newline := by simpa [newline] using hc
      simp [hnewline]

theorem raises_memberText_iff {m : PyStr × YamlValue} :
    Raises (memberText lib m) ↔ m.2.hasLongInt = true := by
  rw [memberText, raises_pure_bind_iff]
  exact raises_shown_iff

/-- What a member is written to holds a hidden letter of its key, or of its string. -/
theorem mem_memberText {m : PyStr × YamlValue} {t : PyStr} (h : memberText lib m = .ok t)
    (hc : isFormatOrControl c = true) (hline : c ≠ '\n') :
    PyChar.scalar c ∈ t ↔ PyChar.scalar c ∈ m.1 ∨ ∃ s, m.2 = .str s ∧ PyChar.scalar c ∈ s := by
  rw [memberText] at h
  obtain ⟨u, hu, h⟩ := bind_eq_ok_iff.mp h
  obtain rfl := Except.ok.inj h
  have hnewline : PyChar.scalar c ∉ newline := by simpa [newline] using hline
  rw [List.mem_append, List.mem_append, mem_shown hu hc]
  simp [hnewline]

/-! ### One case -/

/-- A case is written unless its category cannot be asked for, or a long integer
stands in what is scanned of it. -/
theorem caseSecurityText_dict {ms : YamlMembers} :
    Raises (caseSecurityText lib (.dict ms)) ↔ ¬ ((yamlGet ms "category").askable = true ∧
      ∀ m ∈ ms, ¬ (m.1 = PyStr.lit "prompt" ∧ Refuses ms) → m.2.hasLongInt = false) := by
  rw [caseSecurityText]
  rcases isRefusal_cases ms with ⟨haskable, hraises⟩ | ⟨haskable, refusal, hrefusal, hiff⟩
  · refine iff_of_true (raises_bind_iff.mpr (Or.inl hraises)) fun h => ?_
    exact absurd (h.1.symm.trans haskable) (by decide)
  · rw [hrefusal]
    have hsteps : Raises (Except.ok refusal >>= fun refusal => do
        let texts ← (scannedMembers refusal ms).mapM (memberText lib)
        pure (List.intercalate newline texts)) ↔
        Raises ((scannedMembers refusal ms).mapM (memberText lib)) := raises_pure_bind_iff
    rw [hsteps, raises_mapM_iff]
    constructor
    · rintro ⟨m, hm, hraises⟩ ⟨-, hall⟩
      obtain ⟨hmem, hexempt⟩ := (mem_scannedMembers hiff).mp hm
      exact absurd ((raises_memberText_iff.mp hraises).symm.trans (hall m hmem hexempt)) (by decide)
    · intro h
      by_contra hnone
      apply h
      refine ⟨haskable, fun m hm hexempt => ?_⟩
      by_contra hlong
      exact hnone ⟨m, (mem_scannedMembers hiff).mpr ⟨hm, hexempt⟩,
        raises_memberText_iff.mpr (by simpa using hlong)⟩

theorem caseSecurityText_lone {v : YamlValue} (h : ∀ ms, v ≠ .dict ms) :
    caseSecurityText lib v = v.shown lib.interp := by
  cases v with
  | dict ms => exact absurd rfl (h ms)
  | _ => rfl

/-- What a case is written to holds the hidden letters of its direct texts. -/
theorem mem_caseSecurityText {ms : YamlMembers} {t : PyStr} (h : caseSecurityText lib (.dict ms) = .ok t)
    (hc : isFormatOrControl c = true) (hline : c ≠ '\n') :
    PyChar.scalar c ∈ t ↔ ∃ m ∈ ms, ¬ (m.1 = PyStr.lit "prompt" ∧ Refuses ms) ∧
      (PyChar.scalar c ∈ m.1 ∨ ∃ s, m.2 = .str s ∧ PyChar.scalar c ∈ s) := by
  rw [caseSecurityText] at h
  obtain ⟨refusal, hrefusal, h⟩ := bind_eq_ok_iff.mp h
  obtain ⟨texts, htexts, h⟩ := bind_eq_ok_iff.mp h
  obtain rfl := Except.ok.inj h
  have hiff : refusal = true ↔ Refuses ms := by
    rw [Refuses, hrefusal]
    exact ⟨fun h => h ▸ rfl, fun h => Except.ok.inj h⟩
  rw [mem_intercalate_newline hline]
  constructor
  · rintro ⟨t, ht, hmem⟩
    obtain ⟨m, hm, hwritten⟩ := mem_of_mapM_eq_ok htexts t ht
    obtain ⟨hms, hexempt⟩ := (mem_scannedMembers hiff).mp hm
    exact ⟨m, hms, hexempt, (mem_memberText hwritten hc hline).mp hmem⟩
  · rintro ⟨m, hms, hexempt, hmem⟩
    obtain ⟨t, ht, hwritten⟩ := exists_of_mapM_eq_ok htexts m ((mem_scannedMembers hiff).mpr ⟨hms, hexempt⟩)
    exact ⟨t, ht, (mem_memberText hwritten hc hline).mpr hmem⟩

/-! ### The document -/

theorem lit_not_hidden {w : String} (hw : w.toList.all isPrintableAscii = true)
    (hc : isFormatOrControl c = true) : PyChar.scalar c ∉ PyStr.lit w := by
  intro hmem
  obtain ⟨d, hd, hdc⟩ := List.mem_map.mp hmem
  obtain rfl := PyChar.scalar.inj hdc
  rw [clean_of_ascii hw d hd] at hc
  cases hc

/-- The text of a document is written exactly when the document can be. -/
theorem raises_documentText_iff {members : YamlMembers} {cases : List YamlValue} :
    Raises (documentText lib members cases) ↔ ¬ Writable members cases := by
  have hcases : Raises (cases.mapM (caseSecurityText lib)) ↔
      ∃ v ∈ cases, Raises (caseSecurityText lib v) := raises_mapM_iff
  rw [documentText, raises_bind_iff, raises_mapM_iff]
  simp only [raises_memberText_iff, raises_pure_bind_iff]
  constructor
  · rintro (⟨m, hm, hlong⟩ | ⟨_, -, hraises⟩) hwritable
    · exact absurd (hlong.symm.trans (hwritable.top m hm)) (by decide)
    · obtain ⟨v, hv, hraises⟩ := hcases.mp hraises
      by_cases hdict : ∃ ms, v = .dict ms
      · obtain ⟨ms, rfl⟩ := hdict
        exact caseSecurityText_dict.mp hraises ⟨hwritable.category ms hv, hwritable.caseValue ms hv⟩
      · rw [not_exists] at hdict
        rw [caseSecurityText_lone hdict, raises_shown_iff] at hraises
        exact absurd (hraises.symm.trans (hwritable.loneCase v hv hdict)) (by decide)
  · intro hnot
    by_contra hnone
    rw [not_or] at hnone
    -- if nothing raises, then each value is written and the document is writable
    have htop : ∀ m ∈ topMembers members, m.2.hasLongInt = false := by
      intro m hm
      by_contra hlong
      exact hnone.1 ⟨m, hm, by simpa using hlong⟩
    obtain ⟨tops, htops⟩ : ∃ tops, (topMembers members).mapM (memberText lib) = .ok tops := by
      refine ok_of_not_raises fun hraises => ?_
      obtain ⟨m, hm, hraises⟩ := raises_mapM_iff.mp hraises
      exact hnone.1 ⟨m, hm, raises_memberText_iff.mp hraises⟩
    have hquiet : ∀ v ∈ cases, ¬ Raises (caseSecurityText lib v) := fun v hv hraises =>
      hnone.2 ⟨tops, htops, hcases.mpr ⟨v, hv, hraises⟩⟩
    refine hnot ⟨htop, fun v hv hdict => ?_, fun ms hms => ?_, fun ms hms => ?_⟩
    · have hlone := hquiet v hv
      rw [caseSecurityText_lone hdict, raises_shown_iff] at hlone
      simpa using hlone
    · exact (not_not.mp (mt caseSecurityText_dict.mpr (hquiet _ hms))).1
    · exact (not_not.mp (mt caseSecurityText_dict.mpr (hquiet _ hms))).2

/-- **The text holds the hidden letters of the direct texts**, and no others. -/
theorem mem_documentText {members : YamlMembers} {cases : List YamlValue} {t : PyStr}
    (h : documentText lib members cases = .ok t) (hc : isFormatOrControl c = true)
    (hline : c ≠ '\n') :
    PyChar.scalar c ∈ t ↔ ∃ s, DirectText members cases s ∧ PyChar.scalar c ∈ s := by
  rw [documentText] at h
  obtain ⟨tops, htops, h⟩ := bind_eq_ok_iff.mp h
  obtain ⟨texts, htexts, h⟩ := bind_eq_ok_iff.mp h
  obtain rfl := Except.ok.inj h
  rw [mem_intercalate_newline hline]
  constructor
  · rintro ⟨t, ht, hmem⟩
    rcases List.mem_append.mp ht with ht | ht
    · obtain ⟨m, hm, hwritten⟩ := mem_of_mapM_eq_ok htops t ht
      rcases (mem_memberText hwritten hc hline).mp hmem with hmem | ⟨s, hs, hmem⟩
      · exact ⟨_, .topKey hm, hmem⟩
      · exact ⟨s, .topValue hm hs, hmem⟩
    · obtain ⟨v, hv, hwritten⟩ := mem_of_mapM_eq_ok htexts t ht
      by_cases hdict : ∃ ms, v = .dict ms
      · obtain ⟨ms, rfl⟩ := hdict
        obtain ⟨m, hm, hexempt, hmem | ⟨s, hs, hmem⟩⟩ :=
          (mem_caseSecurityText hwritten hc hline).mp hmem
        · exact ⟨_, .caseKey hv hm, hmem⟩
        · exact ⟨s, .caseValue hv hm hexempt hs, hmem⟩
      · rw [not_exists] at hdict
        rw [caseSecurityText_lone hdict] at hwritten
        obtain ⟨s, hs, hmem⟩ := (mem_shown hwritten hc).mp hmem
        exact ⟨s, .loneCase hv hdict hs, hmem⟩
  · have htop : ∀ {m}, m ∈ topMembers members →
        (PyChar.scalar c ∈ m.1 ∨ ∃ s, m.2 = .str s ∧ PyChar.scalar c ∈ s) →
        ∃ t ∈ tops ++ texts, PyChar.scalar c ∈ t := by
      intro m hm hmem
      obtain ⟨t, ht, hwritten⟩ := exists_of_mapM_eq_ok htops m hm
      exact ⟨t, List.mem_append_left _ ht, (mem_memberText hwritten hc hline).mpr hmem⟩
    have hcase : ∀ {ms : YamlMembers} {m}, YamlValue.dict ms ∈ cases → m ∈ ms →
        ¬ (m.1 = PyStr.lit "prompt" ∧ Refuses ms) →
        (PyChar.scalar c ∈ m.1 ∨ ∃ s, m.2 = .str s ∧ PyChar.scalar c ∈ s) →
        ∃ t ∈ tops ++ texts, PyChar.scalar c ∈ t := by
      intro ms m hms hm hexempt hmem
      obtain ⟨t, ht, hwritten⟩ := exists_of_mapM_eq_ok htexts _ hms
      exact ⟨t, List.mem_append_right _ ht,
        (mem_caseSecurityText hwritten hc hline).mpr ⟨m, hm, hexempt, hmem⟩⟩
    rintro ⟨s, hs, hmem⟩
    cases hs with
    | topKey hm => exact htop hm (Or.inl hmem)
    | topValue hm hs => exact htop hm (Or.inr ⟨s, hs, hmem⟩)
    | loneCase hv hdict hs =>
      obtain ⟨t, ht, hwritten⟩ := exists_of_mapM_eq_ok htexts _ hv
      rw [caseSecurityText_lone hdict] at hwritten
      exact ⟨t, List.mem_append_right _ ht, (mem_shown hwritten hc).mpr ⟨s, hs, hmem⟩⟩
    | caseKey hms hm =>
      -- the key of an exempt prompt has no hidden letter
      refine hcase hms hm (fun hexempt => ?_) (Or.inl hmem)
      rw [hexempt.1] at hmem
      exact lit_not_hidden (by decide +kernel) hc hmem
    | caseValue hms hm hexempt hs => exact hcase hms hm hexempt (Or.inr ⟨s, hs, hmem⟩)

/-! ### The findings of a text -/

theorem code_ne_hidden {p : SourcePattern} : p.kind.1 ≠ hiddenUnicodeObfuscation.1 := by
  cases p <;> decide +kernel

/-- **The scan of a text reports hidden letters** exactly when it has one. -/
theorem scanText_reports_iff {path : PortablePath} {text : PyStr} :
    (∃ f ∈ scanText lib path text, f.code = hiddenUnicodeObfuscation.1) ↔
      ∃ c ∈ text, isHidden c = true := by
  -- no other indicator has the code of the hidden one
  have htext : ∀ kind ∈ textIndicators lib text, kind.1 ≠ hiddenUnicodeObfuscation.1 := by
    intro kind hkind
    rw [textIndicators, List.mem_append, List.mem_append] at hkind
    rcases hkind with (hkind | hkind) | hkind
    · split_ifs at hkind
      · rw [List.mem_singleton.mp hkind]
        decide +kernel
      · exact absurd hkind List.not_mem_nil
    · split_ifs at hkind
      · rw [List.mem_singleton.mp hkind]
        decide +kernel
      · exact absurd hkind List.not_mem_nil
    · obtain ⟨p, -, rfl⟩ := List.mem_map.mp hkind
      exact code_ne_hidden
  have hcomposed : ∀ kinds, ∀ kind ∈ composedIndicators kinds, kind.1 ≠ hiddenUnicodeObfuscation.1 := by
    intro kinds kind hkind
    rw [composedIndicators] at hkind
    split_ifs at hkind
    · rw [List.mem_singleton.mp hkind]
      decide +kernel
    · exact absurd hkind List.not_mem_nil
  have hpath : ∀ kind ∈ pathIndicators path text, kind.1 ≠ hiddenUnicodeObfuscation.1 := by
    intro kind hkind
    rw [pathIndicators, List.mem_append] at hkind
    rcases hkind with hkind | hkind
    · split_ifs at hkind
      · rw [List.mem_singleton.mp hkind]
        decide +kernel
      · exact absurd hkind List.not_mem_nil
    · split_ifs at hkind
      · rw [List.mem_singleton.mp hkind]
        decide +kernel
      · exact absurd hkind List.not_mem_nil
  constructor
  · rintro ⟨f, hf, hcode⟩
    obtain ⟨kind, hkind, rfl⟩ := List.mem_map.mp hf
    simp only [List.mem_append] at hkind
    rcases hkind with ((hkind | hkind) | hkind) | hkind
    · exact absurd hcode (htext kind hkind)
    · exact absurd hcode (hcomposed _ kind hkind)
    · rw [hiddenIndicators] at hkind
      split_ifs at hkind with hany
      · exact List.any_eq_true.mp hany
      · exact absurd hkind List.not_mem_nil
    · exact absurd hcode (hpath kind hkind)
  · intro hany
    refine ⟨indicator hiddenUnicodeObfuscation path, List.mem_map_of_mem ?_, rfl⟩
    rw [List.mem_append, List.mem_append, hiddenIndicators, if_pos (List.any_eq_true.mpr hany)]
    exact Or.inl (Or.inr (List.mem_singleton_self _))

end

/-! ### A file of evaluations -/

/-- A file that parses to a mapping with a list of cases. -/
structure EvalsDocument (lib : SourceLibrary) where
  content : List UInt8
  text : Text
  members : YamlMembers
  cases : List YamlValue
  decoded : decodeUtf8 content = some text
  loaded : lib.load text = .ok (.dict members)
  listed : yamlGet members "cases" = .list cases

/-- The scan of the file reports hidden letters. -/
def ReportsHidden (lib : SourceLibrary) (content : List UInt8) : Prop :=
  ∃ findings, sourceSecurityIndicators lib evalsPath content = .ok findings ∧
    ∃ f ∈ findings, f.code = hiddenUnicodeObfuscation.1

variable {lib}

theorem EvalsDocument.evalSecurityText_eq (d : EvalsDocument lib) :
    evalSecurityText lib d.text = documentText lib d.members d.cases := by
  unfold evalSecurityText
  rw [d.loaded]
  dsimp only
  rw [d.listed]

theorem EvalsDocument.scan_eq (d : EvalsDocument lib) :
    sourceSecurityIndicators lib evalsPath d.content = (do
      let scanned ← documentText lib d.members d.cases
      return scanText lib evalsPath scanned) := by
  unfold sourceSecurityIndicators
  rw [d.decoded]
  dsimp only
  rw [if_pos rfl, d.evalSecurityText_eq]

/-- A hidden letter is a scalar of the categories `Cc` and `Cf`, and no line feed. -/
theorem scalar_of_isHidden {c : PyChar} (h : isHidden c = true) :
    ∃ d, c = .scalar d ∧ isFormatOrControl d = true ∧ d ≠ '\n' := by
  cases c with
  | surrogate n => cases h
  | scalar d =>
    simp only [isHidden, Bool.and_eq_true, bne_iff_ne] at h
    exact ⟨d, rfl, h.2, h.1.1.1⟩

/-- The scan of a file of evaluations reports every hidden letter of its strings,
and keeps it, exactly when the document can be written and each such letter also
stands in a direct text. -/
theorem evalsScan_keeps_hidden_iff (lib : SourceLibrary) (d : EvalsDocument lib) :
    (∀ s c, DocumentScalar d.members d.cases s → c ∈ s → isHidden c = true →
        ReportsHidden lib d.content ∧ ∃ t, evalSecurityText lib d.text = .ok t ∧ c ∈ t) ↔
      ∀ s c, DocumentScalar d.members d.cases s → c ∈ s → isHidden c = true →
        Writable d.members d.cases ∧ ∃ s', DirectText d.members d.cases s' ∧ c ∈ s' := by
  -- a hidden letter is reported exactly when it is in the text that is scanned
  have hkeeps : ∀ c, isHidden c = true →
      ((ReportsHidden lib d.content ∧ ∃ t, evalSecurityText lib d.text = .ok t ∧ c ∈ t) ↔
        Writable d.members d.cases ∧ ∃ s', DirectText d.members d.cases s' ∧ c ∈ s') := by
    intro c hc
    obtain ⟨letter, rfl, hletter, hline⟩ := scalar_of_isHidden hc
    rw [d.evalSecurityText_eq]
    constructor
    · rintro ⟨-, t, ht, hmem⟩
      refine ⟨?_, (mem_documentText ht hletter hline).mp hmem⟩
      by_contra hnot
      exact not_raises_ok (ht ▸ raises_documentText_iff.mpr hnot)
    · rintro ⟨hwritable, hdirect⟩
      obtain ⟨t, ht⟩ : ∃ t, documentText lib d.members d.cases = .ok t :=
        ok_of_not_raises fun hraises => raises_documentText_iff.mp hraises hwritable
      have hmem := (mem_documentText ht hletter hline).mpr hdirect
      refine ⟨⟨scanText lib evalsPath t, ?_, scanText_reports_iff.mpr ⟨_, hmem, hc⟩⟩, t, ht, hmem⟩
      rw [d.scan_eq, ht]
      rfl
  constructor
  · exact fun h s c hs hmem hc => (hkeeps c hc).mp (h s c hs hmem hc)
  · exact fun h s c hs hmem hc => (hkeeps c hc).mpr (h s c hs hmem hc)

/-! ### A letter inside a list -/

/-- The only note of the only case, with a zero-width space in it. -/
def hiddenNote : Text := "see\u200bbelow".toList

def hiddenNoteText : Text := "cases: [\x7bnotes: [".toList ++ hiddenNote ++ "]\x7d]".toList

def hiddenNoteCases : List YamlValue :=
  [.dict [(PyStr.lit "notes", .list [.str (PyStr.ofText hiddenNote)])]]

/-- A library that loads this file, and whose patterns match nothing. -/
def hiddenNoteLibrary : SourceLibrary where
  interp := ⟨fun _ => ⟨"0.0".toList, by decide +kernel⟩, fun _ => false⟩
  load := fun text =>
    if text = hiddenNoteText then .ok (.dict [(PyStr.lit "cases", .list hiddenNoteCases)])
    else .error .yamlError
  pipeTokens := fun _ => []
  urlTokens := fun _ => []
  downloadMarker := fun _ => false
  search := fun _ _ => false

/-- The bytes of a text decode to it. -/
theorem decodeUtf8_utf8 (t : Text) : decodeUtf8 (utf8 t) = some t := by
  have hencode : (utf8 t).toByteArray = t.utf8Encode := rfl
  rw [decodeUtf8, hencode, List.utf8Decode?_utf8Encode]
  rfl

theorem hiddenNote_loaded : hiddenNoteLibrary.load hiddenNoteText =
    .ok (.dict [(PyStr.lit "cases", .list hiddenNoteCases)]) := by
  unfold hiddenNoteLibrary
  dsimp only
  rw [if_pos rfl]

def hiddenNoteDocument : EvalsDocument hiddenNoteLibrary where
  content := utf8 hiddenNoteText
  text := hiddenNoteText
  members := [(PyStr.lit "cases", .list hiddenNoteCases)]
  cases := hiddenNoteCases
  decoded := decodeUtf8_utf8 hiddenNoteText
  loaded := hiddenNote_loaded
  listed := rfl

/-- The note has a zero-width space, and the scan reports nothing. -/
theorem hiddenNote_not_reported :
    ∃ s, DocumentScalar hiddenNoteDocument.members hiddenNoteDocument.cases s ∧
      (∃ c ∈ s, isHidden c = true) ∧ ¬ ReportsHidden hiddenNoteLibrary hiddenNoteDocument.content := by
  refine ⟨PyStr.ofText hiddenNote, ?_, by decide +kernel, ?_⟩
  · exact .caseValue (List.mem_singleton_self _) (List.mem_singleton_self _)
      (fun h => absurd h.1 (by decide +kernel)) (.list (List.mem_singleton_self _) .str)
  · have hwritten : documentText hiddenNoteLibrary hiddenNoteDocument.members hiddenNoteDocument.cases =
        .ok (PyStr.lit "notes\n['see\\u200bbelow']") := by decide +kernel
    rintro ⟨findings, hfindings, hreported⟩
    rw [hiddenNoteDocument.scan_eq, hwritten] at hfindings
    obtain rfl := Except.ok.inj hfindings
    obtain ⟨c, hmem, hc⟩ := scanText_reports_iff.mp hreported
    have hnone : (PyStr.lit "notes\n['see\\u200bbelow']").all (fun c => !isHidden c) = true := by
      decide +kernel
    have hnot := List.all_eq_true.mp hnone c hmem
    rw [hc] at hnot
    cases hnot

end SkillsSdk

/-
SkillsSdk/Models/PublicText.lean

The texts the public contracts may carry: two families of patterns.

The registry contracts refuse a text in which a component starts with one of
nine credential prefixes.  The lifecycle contracts refuse more: private keys,
tokens, assignments of secrets, and paths of a machine.  The patterns are
written one by one as the source has them.

Both families ignore case, but not in the same way: the lifecycle patterns fold
ASCII only, the registry patterns fold Unicode, where `i`, `s` and `k` have
relatives outside ASCII.
-/
import SkillsSdk.Text

namespace SkillsSdk

open Rx Rx.Regex

/-! ### Case folding -/

/-- ASCII lower case. -/
def asciiLower (c : Char) : Char := if isUpper c then Char.ofNat (c.toNat + 32) else c

/-- A letter under `re.IGNORECASE | re.ASCII`. -/
def asciiLetter (d : Char) : Regex Char := cls fun c => asciiLower c == asciiLower d

/-- A literal word under `re.IGNORECASE | re.ASCII`. -/
def asciiWord (s : String) : Regex Char := concat (s.toList.map asciiLetter)

/-- The letters outside ASCII that Unicode folding sends to `i`, `s` or `k`. -/
def unicodeRelative (c : Char) : Option Char :=
  if c.toNat = 0x130 ∨ c.toNat = 0x131 then some 'i'
  else if c.toNat = 0x17f then some 's'
  else if c.toNat = 0x212a then some 'k'
  else none

/-- A literal word under `re.IGNORECASE`. -/
def unicodeWord (s : String) : Regex Char :=
  concat (s.toList.map fun d =>
    cls fun c => asciiLower c == asciiLower d || unicodeRelative c == some (asciiLower d))

/-- `[^A-Za-z0-9]` under `re.IGNORECASE`. -/
def unicodeNonAlnum (c : Char) : Bool := !isAlnum c && unicodeRelative c == none

/-! ### Registry patterns -/

/-- `_CREDENTIAL_PREFIXES`. -/
def credentialPrefixes : List String :=
  ["aiza", "akia", "bearer", "ghp_", "github_pat_", "hf_", "sk-", "xoxb-", "xoxp-"]

/-- `_CREDENTIAL_COMPONENT_PATTERN`. -/
def credentialComponentPattern : Regex Char :=
  seq (guard (oneOf "._-")) (union (credentialPrefixes.map unicodeWord))

/-- `_PUBLIC_TEXT_CREDENTIAL_PATTERN`. -/
def publicTextCredentialPattern : Regex Char :=
  seq (guard unicodeNonAlnum) (union (credentialPrefixes.map unicodeWord))

/-- `registry_evidence_is_redaction_safe`. -/
def registryEvidenceIsRedactionSafe (value : Text) : Bool :=
  !search publicTextCredentialPattern value

/-! ### Lifecycle patterns -/

/-- `[^A-Za-z0-9]`. -/
def nonAlnum (c : Char) : Bool := !isAlnum c

/-- `[A-Za-z0-9_-]+`. -/
def tokenPart : Regex Char := plus (cls fun c => isAlnum c || oneOf "_-" c)

/-- `-----BEGIN(?: [A-Z0-9]+)? PRIVATE KEY-----`. -/
def privateKeyHeader : Regex Char :=
  concat [asciiWord "-----BEGIN", opt (seq (word " ") (plus (cls isAlnum))),
    asciiWord " PRIVATE KEY-----"]

/-- `eyJ[A-Za-z0-9_-]+\.[A-Za-z0-9_-]+\.[A-Za-z0-9_-]+`. -/
def webToken : Regex Char :=
  concat [asciiWord "eyJ", tokenPart, word ".", tokenPart, word ".", tokenPart]

/-- `(?:client|access)[_-]?(?:secret|token|key(?:[_-]?id)?)`. -/
def clientSecret : Regex Char :=
  concat [alt (asciiWord "client") (asciiWord "access"), opt (cls (oneOf "_-")),
    union [asciiWord "secret", asciiWord "token",
      seq (asciiWord "key") (opt (seq (opt (cls (oneOf "_-"))) (asciiWord "id")))]]

/-- `[\s\u001c-\u001f\u0085\u00a0\u1680\u2000-\u200a\u2028\u2029\u202f\u205f\u3000]`. -/
def assignmentBlank (c : Char) : Bool := isSpace c

/-- `(?:(?:ssh_)?private[_-]?key|…|token)(?:[_-][A-Za-z0-9]+)*["']?\s*[:=]`. -/
def secretAssignment : Regex Char :=
  concat [
    union [
      concat [opt (asciiWord "ssh_"), asciiWord "private", opt (cls (oneOf "_-")), asciiWord "key"],
      concat [asciiWord "api", opt (cls (oneOf "_-")), asciiWord "key"],
      asciiWord "credential", asciiWord "password", asciiWord "secret", asciiWord "token"],
    many (seq (cls (oneOf "_-")) (plus (cls isAlnum))),
    opt (cls fun c => c == '"' || c == '\''),
    many (cls assignmentBlank),
    cls (oneOf ":=")]

/-- `_CREDENTIAL_PATTERN`. -/
def credentialPattern : Regex Char :=
  seq (guard nonAlnum)
    (union (credentialPrefixes.map asciiWord ++
      [privateKeyHeader, webToken, clientSecret, secretAssignment]))

/-- The directories of a machine that the path patterns name. -/
def machineDirectory : Regex Char :=
  union (["users", "home", "private", "tmp", "workspace", "var/folders", "root"].map asciiWord)

/-- `[A-Za-z0-9._-]+`. -/
def pathPart : Regex Char := plus (cls fun c => isAlnum c || oneOf "._-" c)

/-- `[^A-Za-z0-9/]`. -/
def beforeSlash (c : Char) : Bool := !(isAlnum c || c == '/')

/-- `[^A-Za-z0-9.:/]`. -/
def beforePart (c : Char) : Bool := !(isAlnum c || oneOf ".:/" c)

/-- `_MACHINE_PATH_PATTERN`. -/
def machinePathPattern : Regex Char :=
  union [
    seq (asciiWord "file:") (plus (word "/")),
    seq (guard nonAlnum) (concat [word "$", cls (fun c => isAlpha c || c == '_'),
      many (cls fun c => isAlnum c || c == '_'), word "/"]),
    seq (plus (seq pathPart (word "\\"))) pathPart,
    seq (guard nonAlnum) (word "\\"),
    seq (guard beforeSlash) (seq (word "/") (notNext (· == '/'))),
    seq (guard beforeSlash) (concat [word "/", machineDirectory, word "/"]),
    seq (guard beforePart) (concat [plus (seq pathPart (word "/")), machineDirectory, word "/"]),
    seq (guard nonAlnum) (seq (cls isAlpha) (word ":"))]

/-- `lifecycle_text_is_public_safe`. -/
def lifecycleTextIsPublicSafe (value : Text) : Bool :=
  !search credentialPattern value && !search machinePathPattern value

/-- `_public_text_is_redaction_safe`, whose patterns are those of the lifecycle contracts. -/
def publicTextIsRedactionSafe (value : Text) : Bool := lifecycleTextIsPublicSafe value

/-! ### Safety as the absence of matches -/

theorem lifecycleTextIsPublicSafe_iff {value : Text} :
    lifecycleTextIsPublicSafe value = true ↔
      ¬ Searches credentialPattern value ∧ ¬ Searches machinePathPattern value := by
  simp [lifecycleTextIsPublicSafe, ← search_iff]

/-! ### Written texts -/

theorem needs_word {t : Text} {s : String} {d : Char} (hs : s.toList = [d]) (h : d ∉ t) : Needs t (word s) := by
  rw [word, hs]
  intro c hc
  have : c ≠ d := fun hcd => h (hcd ▸ hc)
  simpa using this

/-- A machine path has a slash or a colon. -/
theorem not_searches_machinePathPattern {t : Text} (hslash : '/' ∉ t) (hback : '\\' ∉ t) (hcolon : ':' ∉ t) :
    ¬ Searches machinePathPattern t := by
  have hs : Needs t (word "/") := needs_word rfl hslash
  have hb : Needs t (word "\\") := needs_word rfl hback
  have hc : Needs t (word ":") := needs_word rfl hcolon
  have hn : Needs t machinePathPattern :=
    ⟨.inr (.inl hs), .inr (.inr (.inr (.inr hs))), .inl (.inl (.inr hb)), .inr hb, .inr (.inl hs),
      .inr (.inl hs), .inr (.inl (.inl (.inr hs))), .inr (.inr hc)⟩
  exact not_searches_of_needs hn fun _ h => h

/-- A written text without these three is public when it names no credential. -/
theorem lifecycleTextIsPublicSafe_ofList {l : Text}
    (h : (!l.contains '/' && !l.contains '\\' && !l.contains ':' && !search credentialPattern l) = true) :
    lifecycleTextIsPublicSafe (String.ofList l).toList = true := by
  simp only [Bool.and_eq_true, Bool.not_eq_true', List.contains_eq_mem, decide_eq_false_iff_not] at h
  obtain ⟨⟨⟨hslash, hback⟩, hcolon⟩, hcredential⟩ := h
  rw [String.toList_ofList, lifecycleTextIsPublicSafe_iff, ← search_iff, hcredential]
  exact ⟨Bool.false_ne_true, not_searches_machinePathPattern hslash hback hcolon⟩

theorem registryEvidenceIsRedactionSafe_ofList {l : Text} (h : registryEvidenceIsRedactionSafe l = true) :
    registryEvidenceIsRedactionSafe (String.ofList l).toList = true :=
  check_ofList h

/-! ### NUL separates, digests are neutral -/

/-- No lifecycle pattern reads across a NUL. -/
theorem splits_credentialPattern : Splits '\x00' credentialPattern :=
  .guard (by decide) (by decide +kernel)

theorem splits_machinePathPattern : Splits '\x00' machinePathPattern := by
  refine .alt (.avoids (by decide +kernel)) (.alt (.guard (by decide) (by decide +kernel))
    (.alt (.avoids (by decide +kernel)) (.alt (.guard (by decide) (by decide +kernel))
    (.alt (.guard (by decide) (by decide +kernel)) (.alt (.guard (by decide) (by decide +kernel))
    (.alt (.guard (by decide) (by decide +kernel)) (.guard (by decide) (by decide +kernel))))))))

def hexAlphabet : Text := "0123456789abcdef".toList

theorem mem_hexAlphabet {c : Char} (h : isHex c = true) : c ∈ hexAlphabet := by
  have hlt : c.toNat < 128 := by
    simp only [isHex, isDigit, Bool.or_eq_true, Bool.and_eq_true, decide_eq_true_eq] at h
    rcases h with ⟨-, h⟩ | ⟨-, h⟩
    · exact lt_of_le_of_lt (show c.toNat ≤ '9'.toNat from h) (by decide)
    · exact lt_of_le_of_lt (show c.toNat ≤ 'f'.toNat from h) (by decide)
  have hall : ∀ n < 128, isHex (Char.ofNat n) = true → Char.ofNat n ∈ hexAlphabet := by
    decide +kernel
  have := hall c.toNat hlt
  rw [Char.ofNat_toNat] at this
  exact this h

/-- A text of hexadecimal digits is public. -/
theorem lifecycleTextIsPublicSafe_of_hex {t : Text} (h : ∀ c ∈ t, isHex c = true) :
    lifecycleTextIsPublicSafe t = true := by
  have hmem : ∀ c ∈ t, c ∈ hexAlphabet := fun c hc => mem_hexAlphabet (h c hc)
  exact lifecycleTextIsPublicSafe_iff.mpr
    ⟨not_searches_of_needs (S := hexAlphabet) (by decide +kernel) hmem,
      not_searches_of_needs (S := hexAlphabet) (by decide +kernel) hmem⟩

/-- A text is public when the parts around a NUL are. -/
theorem lifecycleTextIsPublicSafe_append_nul {u v : Text} :
    lifecycleTextIsPublicSafe (u ++ '\x00' :: v) = true ↔
      lifecycleTextIsPublicSafe u = true ∧ lifecycleTextIsPublicSafe v = true := by
  simp only [lifecycleTextIsPublicSafe_iff, searches_append_cons splits_credentialPattern,
    searches_append_cons splits_machinePathPattern, not_or]
  tauto

end SkillsSdk

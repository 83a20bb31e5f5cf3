/-
SkillsSdk/Models/RuntimeEvidence.lean

Evidence that adapters supply about an installation: what was installed, found,
activated, run and rolled back.

Every record is bound to a plan by the same fields (`CandidateBound`) and checks
its own status.  Times are stored and dumped, never read, so the datetime type
is a parameter (`AwareDatetime`).
-/
import SkillsSdk.Models.Lifecycle

namespace SkillsSdk

/-! ### Public paths and times -/

/-- `_require_unique_paths`, after the length checks of the field. -/
def uniquePathErrors (name label : String) (values : List Text) : List (Text × Text) :=
  if [] ∈ values then check false name "String should have at least 1 character"
  else if ¬ values.Nodup then [(name.toList, (label ++ " must be unique").toList)]
  else ((values.map (publicPortableTextErrors name label)).find? (· ≠ [])).getD []

/-- The same, of a field that must not be empty. -/
def somePathErrors (name label : String) (values : List Text) : List (Text × Text) :=
  if values = [] then check false name "Tuple should have at least 1 item after validation, not 0"
  else uniquePathErrors name label values

/-- pydantic's aware datetimes, as far as a contract uses them: how one is
dumped, and what a dumped text loads as. -/
structure AwareDatetime where
  Instant : Type
  dump : Instant → Text
  load : Text → Option Instant

open Rx Rx.Regex in
/-- `_RFC3339_PATTERN`, on a dumped text, whose digits are ASCII. -/
def rfc3339Pattern : Regex Char :=
  let digits := fun n : Nat => concat (List.replicate n (cls isDigit))
  concat [digits 4, word "-", digits 2, word "-", digits 2, cls (oneOf "Tt"),
    digits 2, word ":", digits 2, word ":", digits 2, opt (seq (word ".") (plus (cls isDigit))),
    alt (cls (oneOf "Zz")) (concat [cls (oneOf "+-"), digits 2, word ":", digits 2])]

variable {T : AwareDatetime}

/-- A dumped time, loaded again. -/
def reloadInstant (model name label : String) (t : T.Instant) : Except ValidationError T.Instant :=
  if Rx.fullmatch rfc3339Pattern (T.dump t) then
    match T.load (T.dump t) with
    | some t' => .ok t'
    | none => .error ⟨model.toList, check false name "Input should be a valid datetime"⟩
  else .error ⟨model.toList, [(name.toList, (label ++ " must be an RFC3339 string").toList)]⟩

/-- `_model_sha256`, of a dumped model. -/
def modelSha256 (sha256 : List UInt8 → Sha256) (dumped : Json) : Sha256 :=
  canonicalJsonSha256 sha256 dumped

/-! ### Adapters, blockers and races -/

structure RuntimeAdapterIdentityData where
  adapterId : RuntimeIdentifier
  adapterVersion : NonEmptyText
  deriving DecidableEq

namespace RuntimeAdapterIdentityData

def validate (a : RuntimeAdapterIdentityData) : Except ValidationError Unit :=
  validateWith "RuntimeAdapterIdentity"
    (publicTextErrors "adapter_id" "runtime adapter identity" a.adapterId.val ++
      publicTextErrors "adapter_version" "runtime adapter identity" a.adapterVersion.val) []

def toJson (a : RuntimeAdapterIdentityData) : Json :=
  .obj [field "adapter_id" (jsonText a.adapterId.val),
    field "adapter_version" (jsonText a.adapterVersion.val)]

end RuntimeAdapterIdentityData

abbrev RuntimeAdapterIdentity := Accepted RuntimeAdapterIdentityData.validate

inductive RuntimeBlockerCategory where
  | authorization
  | policy
  | adapter
  | filesystem
  | race
  | runtime
  | unknown
  deriving DecidableEq

def RuntimeBlockerCategory.value : RuntimeBlockerCategory → String
  | authorization => "authorization"
  | policy => "policy"
  | adapter => "adapter"
  | filesystem => "filesystem"
  | race => "race"
  | runtime => "runtime"
  | unknown => "unknown"

structure RuntimeEvidenceBlockerData where
  code : BlockerCode
  category : RuntimeBlockerCategory
  message : NonEmptyText
  evidenceRefs : List Text
  deriving DecidableEq

namespace RuntimeEvidenceBlockerData

def validate (b : RuntimeEvidenceBlockerData) : Except ValidationError Unit :=
  validateWith "RuntimeEvidenceBlocker"
    (publicTextErrors "code" "runtime evidence blocker" b.code.val ++
      publicTextErrors "message" "runtime evidence blocker" b.message.val ++
      uniquePathErrors "evidence_refs" "runtime blocker evidence refs" b.evidenceRefs) []

def toJson (b : RuntimeEvidenceBlockerData) : Json :=
  .obj [field "code" (jsonText b.code.val),
    field "category" (jsonLit b.category.value),
    field "message" (jsonText b.message.val),
    field "evidence_refs" (jsonList jsonText b.evidenceRefs)]

end RuntimeEvidenceBlockerData

abbrev RuntimeEvidenceBlocker := Accepted RuntimeEvidenceBlockerData.validate

structure MutationRaceEvidenceData (T : AwareDatetime) where
  expectedLockSha256 : Sha256
  observedLockSha256 : Sha256
  detectedAt : T.Instant
  evidenceRefs : List Text

namespace MutationRaceEvidenceData

def validate (r : MutationRaceEvidenceData T) : Except ValidationError Unit :=
  validateWith "MutationRaceEvidence"
    (somePathErrors "evidence_refs" "mutation race evidence refs" r.evidenceRefs)
    [violation (r.expectedLockSha256 = r.observedLockSha256)
      "mutation race must record distinct expected and observed lock digests"]

def toJson (r : MutationRaceEvidenceData T) : Json :=
  .obj [field "expected_lock_sha256" (jsonText r.expectedLockSha256.val),
    field "observed_lock_sha256" (jsonText r.observedLockSha256.val),
    field "detected_at" (jsonText (T.dump r.detectedAt)),
    field "evidence_refs" (jsonList jsonText r.evidenceRefs)]

end MutationRaceEvidenceData

abbrev MutationRaceEvidence (T : AwareDatetime) := Accepted (@MutationRaceEvidenceData.validate T)

/-- A race, dumped and loaded again. -/
def MutationRaceEvidence.reload (r : MutationRaceEvidence T) :
    Except ValidationError (MutationRaceEvidence T) := do
  let detectedAt ← reloadInstant "MutationRaceEvidence" "detected_at" "mutation race detected_at"
    r.val.detectedAt
  construct MutationRaceEvidenceData.validate { r.val with detectedAt := detectedAt }

/-! ### What every record is bound to -/

/-- `_CandidateBoundRuntimeEvidence`. -/
structure CandidateBound (T : AwareDatetime) where
  candidate : PackageCandidateIdentity
  packageName : RuntimeIdentifier
  version : NonEmptyText
  packageDigest : Sha256
  planId : ReceiptId
  planSha256 : Sha256
  target : RuntimeTarget
  adapter : RuntimeAdapterIdentity
  observedAt : T.Instant
  evidence : List Text

namespace CandidateBound

variable (b : CandidateBound T)

def fieldErrors : List (Text × Text) :=
  publicTextErrors "package_name" "runtime evidence identity" b.packageName.val ++
    publicTextErrors "version" "runtime evidence identity" b.version.val ++
    publicTextErrors "plan_id" "runtime evidence identity" b.planId.val ++
    somePathErrors "evidence" "runtime evidence paths" b.evidence

/-- `package_identity_must_match_candidate`. -/
def packageIdentityMustMatchCandidate : Bool × String :=
  violation (b.packageName ≠ b.candidate.packageId)
    "runtime evidence package name must match candidate package_id"

def members : List (Text × Json) :=
  [field "candidate" b.candidate.toJson,
    field "package_name" (jsonText b.packageName.val),
    field "version" (jsonText b.version.val),
    field "package_digest" (jsonText b.packageDigest.val),
    field "plan_id" (jsonText b.planId.val),
    field "plan_sha256" (jsonText b.planSha256.val),
    field "target" b.target.val.toJson,
    field "adapter" b.adapter.val.toJson,
    field "observed_at" (jsonText (T.dump b.observedAt)),
    field "evidence" (jsonList jsonText b.evidence)]

/-- The time of the observation, dumped and loaded again. -/
def reloadObservedAt (model : String) : Except ValidationError T.Instant :=
  reloadInstant model "observed_at" "runtime evidence observed_at" b.observedAt

end CandidateBound

/-- A dumped optional digest. -/
def jsonSha256? (d : Option Sha256) : Json := jsonOption (fun s : Sha256 => jsonText s.val) d

/-- A dumped optional blocker. -/
def jsonRuntimeBlocker? (b : Option RuntimeEvidenceBlocker) : Json :=
  jsonOption (fun b : RuntimeEvidenceBlocker => b.val.toJson) b

/-- A dumped optional race. -/
def jsonRace? (r : Option (MutationRaceEvidence T)) : Json :=
  jsonOption (fun r : MutationRaceEvidence T => r.val.toJson) r

/-! ### Installation -/

/-- How an installation or a run ended. -/
inductive RuntimeStatus where
  | completed
  | failed
  | blocked
  | indeterminate
  deriving DecidableEq

def RuntimeStatus.value : RuntimeStatus → String
  | completed => "completed"
  | failed => "failed"
  | blocked => "blocked"
  | indeterminate => "indeterminate"

structure InstallationResultData (T : AwareDatetime) extends CandidateBound T where
  receiptId : ReceiptId
  operation : PlanOperation
  currentLockSha256 : Sha256
  proposedLockSha256 : Sha256
  resultingLockSha256 : Option Sha256
  status : RuntimeStatus
  mutationPerformed : Bool
  blocker : Option RuntimeEvidenceBlocker
  race : Option (MutationRaceEvidence T)

namespace InstallationResultData

variable (r : InstallationResultData T)

/-- `InstallationResult.status_must_match_observation`. -/
def statusMustMatchObservation : List (Bool × String) :=
  (match r.operation with
    | .noChange =>
      [violation (r.currentLockSha256 ≠ r.proposedLockSha256)
          "no-change installation requires identical current and proposed locks",
        violation (r.mutationPerformed = true) "no-change installation cannot claim mutation"]
    | _ =>
      [violation (r.currentLockSha256 = r.proposedLockSha256)
        "install or update observation requires distinct current and proposed locks"]) ++
  (match r.status with
    | .completed =>
      [violation (r.resultingLockSha256 ≠ some r.proposedLockSha256)
          "completed installation must report the proposed lock as applied",
        violation (r.blocker.isSome ∨ r.race.isSome)
          "completed installation cannot contain a blocker or race",
        violation (r.operation ≠ .noChange ∧ r.mutationPerformed = false)
          "completed installation mutation flag must match the operation"]
    | .blocked =>
      [violation (r.mutationPerformed = true ∨ r.resultingLockSha256 ≠ none ∨ r.blocker.isNone)
        "blocked installation requires a blocker and cannot claim mutation"]
    | _ =>
      [violation (r.blocker.isNone) "failed or indeterminate installation requires a blocker"]) ++
  [violation (r.race.isSome ∧ r.status ≠ .failed ∧ r.status ≠ .indeterminate)
    "mutation race evidence requires failed or indeterminate installation"]

def validate : Except ValidationError Unit :=
  validateWith "InstallationResult"
    (r.fieldErrors ++
      publicTextErrors "receipt_id" "installation result receipt id" r.receiptId.val)
    (r.packageIdentityMustMatchCandidate :: r.statusMustMatchObservation)

def toJson : Json :=
  .obj (r.members ++
    [field "schema_version" (jsonLit "installation-result/v1"),
      field "receipt_id" (jsonText r.receiptId.val),
      field "lane" (jsonLit "runtime_installation"),
      field "operation" (jsonLit r.operation.value),
      field "current_lock_sha256" (jsonText r.currentLockSha256.val),
      field "proposed_lock_sha256" (jsonText r.proposedLockSha256.val),
      field "resulting_lock_sha256" (jsonSha256? r.resultingLockSha256),
      field "status" (jsonLit r.status.value),
      field "mutation_performed" (.bool r.mutationPerformed),
      field "blocker" (jsonRuntimeBlocker? r.blocker),
      field "race" (jsonRace? r.race)])

end InstallationResultData

abbrev InstallationResult (T : AwareDatetime) := Accepted (@InstallationResultData.validate T)

/-- `InstallationResult.model_validate(result.model_dump(mode="json"))`. -/
def InstallationResult.reload (r : InstallationResult T) :
    Except ValidationError (InstallationResult T) := do
  let observedAt ← r.val.reloadObservedAt "InstallationResult"
  let race ← r.val.race.mapM MutationRaceEvidence.reload
  construct InstallationResultData.validate { r.val with observedAt := observedAt, race := race }

/-! ### Rollback -/

inductive RollbackAction where
  | restore
  | remove
  deriving DecidableEq

def RollbackAction.value : RollbackAction → String
  | restore => "restore"
  | remove => "remove"

inductive RollbackEntryStatus where
  | planned
  | applied
  | failed
  | skipped
  deriving DecidableEq

def RollbackEntryStatus.value : RollbackEntryStatus → String
  | planned => "planned"
  | applied => "applied"
  | failed => "failed"
  | skipped => "skipped"

structure RollbackJournalEntryData where
  sequence : Nat
  path : Text
  action : RollbackAction
  status : RollbackEntryStatus
  beforeSha256 : Option Sha256
  afterSha256 : Option Sha256
  evidenceRefs : List Text
  deriving DecidableEq

namespace RollbackJournalEntryData

def validate (e : RollbackJournalEntryData) : Except ValidationError Unit :=
  validateWith "RollbackJournalEntry"
    ((if e.path = [] then check false "path" "String should have at least 1 character"
        else publicPortableTextErrors "path" "rollback journal path" e.path) ++
      somePathErrors "evidence_refs" "rollback journal evidence refs" e.evidenceRefs) []

def toJson (e : RollbackJournalEntryData) : Json :=
  .obj [field "sequence" (.int e.sequence),
    field "path" (jsonText e.path),
    field "action" (jsonLit e.action.value),
    field "status" (jsonLit e.status.value),
    field "before_sha256" (jsonSha256? e.beforeSha256),
    field "after_sha256" (jsonSha256? e.afterSha256),
    field "evidence_refs" (jsonList jsonText e.evidenceRefs)]

end RollbackJournalEntryData

abbrev RollbackJournalEntry := Accepted RollbackJournalEntryData.validate

structure RollbackJournalData (T : AwareDatetime) extends CandidateBound T where
  journalId : ReceiptId
  installationResultId : ReceiptId
  installationResultSha256 : Sha256
  rollbackLockSha256 : Sha256
  entries : List RollbackJournalEntry
  mutationPerformed : Bool

namespace RollbackJournalData

variable (j : RollbackJournalData T)

/-- `RollbackJournal.entries_must_be_ordered_and_unique`. -/
def entriesMustBeOrderedAndUnique : List (Bool × String) :=
  [violation (j.entries.map (·.val.sequence) ≠ List.range j.entries.length)
      "rollback journal entries must use contiguous sequence numbers",
    violation (¬ (j.entries.map (·.val.path)).Nodup) "rollback journal paths must be unique",
    violation (j.mutationPerformed ≠ j.entries.any (·.val.status = .applied))
      "rollback journal mutation flag must match applied entries"]

def validate : Except ValidationError Unit :=
  validateWith "RollbackJournal"
    (j.fieldErrors ++
      publicTextErrors "journal_id" "rollback journal identity" j.journalId.val ++
      publicTextErrors "installation_result_id" "rollback journal identity" j.installationResultId.val ++
      check (j.entries ≠ []) "entries" "Tuple should have at least 1 item after validation, not 0")
    (j.packageIdentityMustMatchCandidate :: j.entriesMustBeOrderedAndUnique)

def toJson : Json :=
  .obj (j.members ++
    [field "schema_version" (jsonLit "rollback-journal/v1"),
      field "journal_id" (jsonText j.journalId.val),
      field "installation_result_id" (jsonText j.installationResultId.val),
      field "installation_result_sha256" (jsonText j.installationResultSha256.val),
      field "rollback_lock_sha256" (jsonText j.rollbackLockSha256.val),
      field "entries" (jsonList (fun e : RollbackJournalEntry => e.val.toJson) j.entries),
      field "mutation_performed" (.bool j.mutationPerformed)])

end RollbackJournalData

abbrev RollbackJournal (T : AwareDatetime) := Accepted (@RollbackJournalData.validate T)

/-- `RollbackJournal.model_validate(journal.model_dump(mode="json"))`. -/
def RollbackJournal.reload (j : RollbackJournal T) : Except ValidationError (RollbackJournal T) := do
  let observedAt ← j.val.reloadObservedAt "RollbackJournal"
  construct RollbackJournalData.validate { j.val with observedAt := observedAt }

inductive RollbackStatus where
  | rolledBack
  | rollbackFailed
  | blocked
  | indeterminate
  deriving DecidableEq

structure RollbackOutcomeData (T : AwareDatetime) extends CandidateBound T where
  receiptId : ReceiptId
  journalId : ReceiptId
  journalSha256 : Sha256
  rollbackLockSha256 : Sha256
  resultingLockSha256 : Option Sha256
  status : RollbackStatus
  mutationPerformed : Bool
  blocker : Option RuntimeEvidenceBlocker
  race : Option (MutationRaceEvidence T)

namespace RollbackOutcomeData

variable (o : RollbackOutcomeData T)

/-- `RollbackOutcome.status_must_match_observation`. -/
def statusMustMatchObservation : List (Bool × String) :=
  match o.status with
  | .rolledBack =>
    [violation (o.mutationPerformed = false ∨ o.resultingLockSha256 ≠ some o.rollbackLockSha256)
        "rolled-back outcome must bind the rollback lock",
      violation (o.blocker.isSome ∨ o.race.isSome)
        "rolled-back outcome cannot contain blocker or race evidence"]
  | .blocked =>
    [violation (o.mutationPerformed = true ∨ o.resultingLockSha256 ≠ none ∨ o.blocker.isNone)
      "blocked rollback requires a blocker and cannot claim mutation"]
  | _ => [violation (o.blocker.isNone) "failed or indeterminate rollback requires a blocker"]

def validate : Except ValidationError Unit :=
  validateWith "RollbackOutcome"
    (o.fieldErrors ++
      publicTextErrors "receipt_id" "rollback outcome identity" o.receiptId.val ++
      publicTextErrors "journal_id" "rollback outcome identity" o.journalId.val)
    (o.packageIdentityMustMatchCandidate :: o.statusMustMatchObservation)

end RollbackOutcomeData

abbrev RollbackOutcome (T : AwareDatetime) := Accepted (@RollbackOutcomeData.validate T)

/-! ### Discovery and activation -/

inductive DiscoveryStatus where
  | discovered
  | notDiscovered
  | blocked
  | indeterminate
  deriving DecidableEq

def DiscoveryStatus.value : DiscoveryStatus → String
  | discovered => "discovered"
  | notDiscovered => "not_discovered"
  | blocked => "blocked"
  | indeterminate => "indeterminate"

structure DiscoveryObservationData (T : AwareDatetime) extends CandidateBound T where
  receiptId : ReceiptId
  installationResultId : ReceiptId
  installationResultSha256 : Sha256
  methodId : RuntimeIdentifier
  status : DiscoveryStatus
  blocker : Option RuntimeEvidenceBlocker

namespace DiscoveryObservationData

variable (d : DiscoveryObservationData T)

def validate : Except ValidationError Unit :=
  validateWith "DiscoveryObservation"
    (d.fieldErrors ++
      publicTextErrors "receipt_id" "discovery observation identity" d.receiptId.val ++
      publicTextErrors "installation_result_id" "discovery observation identity"
        d.installationResultId.val ++
      publicTextErrors "method_id" "discovery observation identity" d.methodId.val)
    [d.packageIdentityMustMatchCandidate,
      violation (d.status = .discovered ∧ d.blocker.isSome)
        "discovered observation cannot contain a blocker",
      violation (d.status ≠ .discovered ∧ d.blocker.isNone)
        "non-discovered observation requires a blocker"]

def toJson : Json :=
  .obj (d.members ++
    [field "schema_version" (jsonLit "discovery-observation/v1"),
      field "receipt_id" (jsonText d.receiptId.val),
      field "lane" (jsonLit "runtime_discovery"),
      field "installation_result_id" (jsonText d.installationResultId.val),
      field "installation_result_sha256" (jsonText d.installationResultSha256.val),
      field "method_id" (jsonText d.methodId.val),
      field "status" (jsonLit d.status.value),
      field "mutation_performed" (.bool false),
      field "blocker" (jsonRuntimeBlocker? d.blocker)])

end DiscoveryObservationData

abbrev DiscoveryObservation (T : AwareDatetime) := Accepted (@DiscoveryObservationData.validate T)

/-- `DiscoveryObservation.model_validate(discovery.model_dump(mode="json"))`. -/
def DiscoveryObservation.reload (d : DiscoveryObservation T) :
    Except ValidationError (DiscoveryObservation T) := do
  let observedAt ← d.val.reloadObservedAt "DiscoveryObservation"
  construct DiscoveryObservationData.validate { d.val with observedAt := observedAt }

inductive ActivationStatus where
  | active
  | inactive
  | blocked
  | indeterminate
  deriving DecidableEq

def ActivationStatus.value : ActivationStatus → String
  | active => "active"
  | inactive => "inactive"
  | blocked => "blocked"
  | indeterminate => "indeterminate"

structure ActivationObservationData (T : AwareDatetime) extends CandidateBound T where
  receiptId : ReceiptId
  discoveryReceiptId : ReceiptId
  discoveryReceiptSha256 : Sha256
  mechanismId : RuntimeIdentifier
  status : ActivationStatus
  mutationPerformed : Bool
  deactivationId : Option RuntimeIdentifier
  blocker : Option RuntimeEvidenceBlocker

/-- `_require_public_text` on an optional identifier. -/
def publicTextErrors? (name label : String) : Option RuntimeIdentifier → List (Text × Text)
  | some value => publicTextErrors name label value.val
  | none => []

namespace ActivationObservationData

variable (a : ActivationObservationData T)

def validate : Except ValidationError Unit :=
  validateWith "ActivationObservation"
    (a.fieldErrors ++
      publicTextErrors "receipt_id" "activation observation identity" a.receiptId.val ++
      publicTextErrors "discovery_receipt_id" "activation observation identity"
        a.discoveryReceiptId.val ++
      publicTextErrors "mechanism_id" "activation observation identity" a.mechanismId.val ++
      publicTextErrors? "deactivation_id" "activation observation identity" a.deactivationId)
    [a.packageIdentityMustMatchCandidate,
      violation (a.status = .active ∧ a.blocker.isSome) "active observation cannot contain a blocker",
      violation (a.status ≠ .active ∧ a.blocker.isNone) "non-active observation requires a blocker",
      violation (a.mutationPerformed = true ∧ a.deactivationId = none)
        "mutating activation observation requires a deactivation identity"]

def toJson : Json :=
  .obj (a.members ++
    [field "schema_version" (jsonLit "activation-observation/v1"),
      field "receipt_id" (jsonText a.receiptId.val),
      field "lane" (jsonLit "runtime_activation"),
      field "discovery_receipt_id" (jsonText a.discoveryReceiptId.val),
      field "discovery_receipt_sha256" (jsonText a.discoveryReceiptSha256.val),
      field "mechanism_id" (jsonText a.mechanismId.val),
      field "status" (jsonLit a.status.value),
      field "mutation_performed" (.bool a.mutationPerformed),
      field "deactivation_id" (jsonOption (fun i : RuntimeIdentifier => jsonText i.val) a.deactivationId),
      field "blocker" (jsonRuntimeBlocker? a.blocker)])

end ActivationObservationData

abbrev ActivationObservation (T : AwareDatetime) := Accepted (@ActivationObservationData.validate T)

/-- `ActivationObservation.model_validate(activation.model_dump(mode="json"))`. -/
def ActivationObservation.reload (a : ActivationObservation T) :
    Except ValidationError (ActivationObservation T) := do
  let observedAt ← a.val.reloadObservedAt "ActivationObservation"
  construct ActivationObservationData.validate { a.val with observedAt := observedAt }

/-! ### Outcome -/

structure RuntimeOutcomeReceiptData (T : AwareDatetime) extends CandidateBound T where
  receiptId : ReceiptId
  activationReceiptId : ReceiptId
  activationReceiptSha256 : Sha256
  invocationId : RuntimeIdentifier
  inputSha256 : Sha256
  outputSha256 : Option Sha256
  durationMs : Nat
  status : RuntimeStatus
  providerResultId : Option ReceiptId
  providerResultSha256 : Option Sha256
  evaluationReceiptId : Option ReceiptId
  evaluationReceiptSha256 : Option Sha256
  blocker : Option RuntimeEvidenceBlocker

namespace RuntimeOutcomeReceiptData

variable (o : RuntimeOutcomeReceiptData T)

/-- `RuntimeOutcomeReceipt.status_and_optional_refs_must_be_complete`. -/
def statusAndOptionalRefsMustBeComplete : List (Bool × String) :=
  (match o.status with
    | .completed =>
      [violation (o.outputSha256 = none ∨ o.blocker.isSome)
        "completed runtime outcome requires output digest and no blocker"]
    | _ => [violation (o.blocker.isNone) "non-completed runtime outcome requires a blocker"]) ++
  [violation (o.providerResultId.isNone ≠ o.providerResultSha256.isNone)
      "provider result reference id and digest must be supplied together",
    violation (o.evaluationReceiptId.isNone ≠ o.evaluationReceiptSha256.isNone)
      "evaluation receipt reference id and digest must be supplied together"]

def validate : Except ValidationError Unit :=
  validateWith "RuntimeOutcomeReceipt"
    (o.fieldErrors ++
      publicTextErrors "receipt_id" "runtime outcome identity" o.receiptId.val ++
      publicTextErrors "activation_receipt_id" "runtime outcome identity" o.activationReceiptId.val ++
      publicTextErrors "invocation_id" "runtime outcome identity" o.invocationId.val ++
      publicTextErrors? "provider_result_id" "runtime outcome identity" o.providerResultId ++
      publicTextErrors? "evaluation_receipt_id" "runtime outcome identity" o.evaluationReceiptId)
    (o.packageIdentityMustMatchCandidate :: o.statusAndOptionalRefsMustBeComplete)

end RuntimeOutcomeReceiptData

abbrev RuntimeOutcomeReceipt (T : AwareDatetime) := Accepted (@RuntimeOutcomeReceiptData.validate T)

end SkillsSdk

/-
SkillsSdk/Models/Hardening.lean

The hardening of a package: its policy, its checks and its receipt.

A receipt repeats its failed checks as blockers and its warnings as warnings.
What the registry reads of it is in `PackageHardeningReceipt.passing` and
`PackageHardeningReceipt.blocking`.
-/
import SkillsSdk.Models.Packaging

namespace SkillsSdk

/-- `Field(ge=1)`. -/
abbrev Limit := { n : Nat // 1 ≤ n }

/-! ### Policy and checks -/

structure PackageHardeningPolicy where
  maxFileCount : Limit := ⟨250, by decide⟩
  maxTotalBytes : Limit := ⟨5 * 1024 * 1024, by decide⟩
  requireReadme : Bool := true
  deriving DecidableEq

def PackageHardeningPolicy.toJson (p : PackageHardeningPolicy) : Json :=
  .obj [field "max_file_count" (.int p.maxFileCount.val),
    field "max_total_bytes" (.int p.maxTotalBytes.val),
    field "require_readme" (.bool p.requireReadme)]

inductive CheckStatus where
  | pass
  | warning
  | blocker
  deriving DecidableEq

def CheckStatus.value : CheckStatus → String
  | pass => "pass"
  | warning => "warning"
  | blocker => "blocker"

structure PackageHardeningCheck where
  id : BlockerCode
  status : CheckStatus
  message : NonEmptyText
  evidence : List NonEmptyText
  deriving DecidableEq

def PackageHardeningCheck.toJson (c : PackageHardeningCheck) : Json :=
  .obj [field "id" (jsonText c.id.val),
    field "status" (jsonLit c.status.value),
    field "message" (jsonText c.message.val),
    field "evidence" (jsonList (fun e : NonEmptyText => jsonText e.val) c.evidence)]

/-! ### Receipts -/

inductive HardeningStatus where
  | pass
  | blocked
  deriving DecidableEq

def HardeningStatus.value : HardeningStatus → String
  | pass => "pass"
  | blocked => "blocked"

def BuildStatus.value : BuildStatus → String
  | built => "built"
  | blocked => "blocked"

structure PackageHardeningReceiptData where
  candidate : Option PackageCandidateIdentity
  buildStatus : BuildStatus
  status : HardeningStatus
  packageDigest : Option Sha256
  effectivePolicy : PackageHardeningPolicy
  includedFiles : List PortablePath
  fileCount : Nat
  totalSizeBytes : Nat
  hardeningChecks : List PackageHardeningCheck
  blockers : List PackageHardeningCheck
  warnings : List PackageHardeningCheck
  acceptanceTrace : List NonEmptyText
  deriving DecidableEq

namespace PackageHardeningReceiptData

/-- The checks of one status. -/
def checksOf (r : PackageHardeningReceiptData) (s : CheckStatus) : List PackageHardeningCheck :=
  r.hardeningChecks.filter (·.status = s)

/-- `PackageHardeningReceipt.status_matches_checks`. -/
def statusMatchesChecks (r : PackageHardeningReceiptData) : List (Bool × String) :=
  [violation (¬ (r.hardeningChecks.map (·.id)).Nodup) "hardening check ids must be unique",
    violation (r.blockers ≠ r.checksOf .blocker ∨ r.warnings ≠ r.checksOf .warning)
      "hardening blocker and warning projections must match checks",
    violation (r.fileCount ≠ r.includedFiles.length)
      "hardening file_count must match included_files"] ++
  match r.status with
  | .pass =>
    [violation (r.checksOf .blocker ≠ []) "passing hardening receipt cannot contain blockers",
      violation (r.buildStatus ≠ .built ∨ r.candidate = none ∨ r.packageDigest = none)
        "passing hardening receipt requires a built candidate and package_digest"]
  | .blocked =>
    violation (r.checksOf .blocker = []) "blocked hardening receipt requires a blocker" ::
    match r.buildStatus with
    | .built =>
      [violation (r.candidate = none ∨ r.packageDigest = none)
        "hardening-blocked built package must preserve candidate and package_digest"]
    | .blocked =>
      [violation (r.packageDigest ≠ none)
        "build-blocked hardening receipt cannot claim a package digest"]

def validate (r : PackageHardeningReceiptData) : Except ValidationError Unit :=
  validateWith "PackageHardeningReceipt"
    (check r.includedFiles.Nodup "included_files" "hardening receipt paths must be unique" ++
      check (r.hardeningChecks ≠ []) "hardening_checks"
        "Tuple should have at least 1 item after validation, not 0" ++
      check (r.acceptanceTrace ≠ []) "acceptance_trace"
        "Tuple should have at least 1 item after validation, not 0")
    r.statusMatchesChecks

def toJson (r : PackageHardeningReceiptData) : Json :=
  .obj [field "schema_version" (jsonLit "package-hardening/v1"),
    field "candidate" (jsonOption PackageCandidateIdentity.toJson r.candidate),
    field "build_status" (jsonLit r.buildStatus.value),
    field "status" (jsonLit r.status.value),
    field "package_digest" (jsonOption (fun s : Sha256 => jsonText s.val) r.packageDigest),
    field "effective_policy" r.effectivePolicy.toJson,
    field "included_files" (jsonList (fun p : PortablePath => jsonText p.val) r.includedFiles),
    field "file_count" (.int r.fileCount),
    field "total_size_bytes" (.int r.totalSizeBytes),
    field "hardening_checks" (jsonList PackageHardeningCheck.toJson r.hardeningChecks),
    field "blockers" (jsonList PackageHardeningCheck.toJson r.blockers),
    field "warnings" (jsonList PackageHardeningCheck.toJson r.warnings),
    field "mutation_performed" (.bool false),
    field "acceptance_trace" (jsonList (fun t : NonEmptyText => jsonText t.val) r.acceptanceTrace)]

/-- The integers that the dump writes. -/
def integers (r : PackageHardeningReceiptData) : List Int :=
  [r.effectivePolicy.maxFileCount.val, r.effectivePolicy.maxTotalBytes.val, r.fileCount, r.totalSizeBytes]

end PackageHardeningReceiptData

abbrev PackageHardeningReceipt := Accepted PackageHardeningReceiptData.validate

namespace PackageHardeningReceipt

theorem statusMatchesChecks (r : PackageHardeningReceipt) :
    ∀ v ∈ r.val.statusMatchesChecks, v.1 = false :=
  (validateWith_eq_ok.mp r.2).2

theorem blockers_eq (r : PackageHardeningReceipt) : r.val.blockers = r.val.checksOf .blocker := by
  have hr := r.statusMatchesChecks
  rw [PackageHardeningReceiptData.statusMatchesChecks] at hr
  simp only [List.forall_mem_append, List.forall_mem_cons, violation_fst, not_or, not_not] at hr
  exact hr.1.2.1.1

/-- A passing receipt has no blockers. -/
theorem passing (r : PackageHardeningReceipt) (h : r.val.status = .pass) : r.val.blockers = [] := by
  have hr := r.statusMatchesChecks
  simp only [PackageHardeningReceiptData.statusMatchesChecks, h, List.forall_mem_append,
    List.forall_mem_cons, violation_fst, not_not] at hr
  exact r.blockers_eq.trans hr.2.1

/-- A blocked receipt has one. -/
theorem blocking (r : PackageHardeningReceipt) (h : r.val.status = .blocked) :
    r.val.blockers ≠ [] := by
  have hr := r.statusMatchesChecks
  simp only [PackageHardeningReceiptData.statusMatchesChecks, h, List.forall_mem_append,
    List.forall_mem_cons, violation_fst] at hr
  exact fun h0 => hr.2.1 (r.blockers_eq.symm.trans h0)

end PackageHardeningReceipt

/-! ### The integers of a dump -/

theorem PackageHardeningCheck.ints_toJson (c : PackageHardeningCheck) : c.toJson.ints = [] := by
  simp only [PackageHardeningCheck.toJson, Json.ints, Json.intsMembers, field, ints_jsonText, ints_jsonLit,
    ints_jsonList fun _ => ints_jsonText _, List.append_nil]

theorem PackageHardeningReceiptData.ints_toJson (r : PackageHardeningReceiptData) : r.toJson.ints = r.integers := by
  simp only [PackageHardeningReceiptData.toJson, PackageHardeningPolicy.toJson, Json.ints, Json.intsMembers, field,
    ints_jsonLit, ints_jsonOption PackageCandidateIdentity.ints_toJson, ints_jsonOption fun _ => ints_jsonText _,
    ints_jsonList fun _ => ints_jsonText _, ints_jsonList PackageHardeningCheck.ints_toJson, List.append_nil,
    List.nil_append, List.cons_append]
  rfl

/-- A receipt is hashed exactly when each of its integers can be written. -/
theorem PackageHardeningReceiptData.hasLongInt_toJson {r : PackageHardeningReceiptData} :
    hasLongInt r.toJson = false ↔ ∀ i ∈ r.integers, isLongInt i = false := by
  rw [hasLongInt, PackageHardeningReceiptData.ints_toJson, List.any_eq_false]
  simp only [Bool.not_eq_true]

end SkillsSdk

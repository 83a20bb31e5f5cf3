/-
SkillsSdk/Models/Maintenance.lean

The result of maintaining an entry point of a host.  A repair names its files by a
fresh identifier, so a result refers to them by what they are for.
-/
import SkillsSdk.Digests

namespace SkillsSdk

/-- The names that a repair uses: two in the directory of the target, two in the
directory of the backups. -/
inductive EntrypointName where
  | target
  | stage
  | backup
  | recovery
  deriving DecidableEq, Repr

/-- `EntrypointMaintenanceBlocker`. -/
structure EntrypointMaintenanceBlocker where
  code : BlockerCode
  message : NonEmptyText
  deriving DecidableEq

inductive MaintenanceStatus where
  | matching
  | repairable
  | repaired
  | blocked
  | indeterminate
  deriving DecidableEq, Repr

structure EntrypointMaintenanceResultData where
  status : MaintenanceStatus
  blocker : Option EntrypointMaintenanceBlocker := none
  backupName : Option EntrypointName := none
  recoveryName : Option EntrypointName := none
  deriving DecidableEq

namespace EntrypointMaintenanceResultData

/-- `EntrypointMaintenanceResult.evidence_matches_status`. -/
def evidenceMatchesStatus (r : EntrypointMaintenanceResultData) : List (Bool × String) :=
  [violation ((r.status = .matching ∨ r.status = .repairable) ∧
      (r.blocker ≠ none ∨ r.backupName ≠ none ∨ r.recoveryName ≠ none))
      "preview success must not carry failure or recovery evidence",
    violation (r.status = .repaired ∧ (r.blocker ≠ none ∨ r.backupName = none))
      "repaired maintenance requires a backup and no blocker",
    violation (r.status = .blocked ∧ (r.blocker = none ∨ r.recoveryName ≠ none))
      "blocked maintenance requires blocker evidence and no recovery name",
    violation (r.status = .indeterminate ∧ (r.blocker = none ∨ r.backupName = none ∨ r.recoveryName = none))
      "indeterminate maintenance requires blocker, backup, and recovery evidence"]

def validate (r : EntrypointMaintenanceResultData) : Except ValidationError Unit :=
  validateWith "EntrypointMaintenanceResult" [] r.evidenceMatchesStatus

end EntrypointMaintenanceResultData

abbrev EntrypointMaintenanceResult := Accepted EntrypointMaintenanceResultData.validate

namespace EntrypointMaintenanceResult

/-- The evidence of a result, by its status. -/
theorem evidence (r : EntrypointMaintenanceResult) :
    ((r.val.status = .matching ∨ r.val.status = .repairable) →
      r.val.blocker = none ∧ r.val.backupName = none ∧ r.val.recoveryName = none) ∧
      (r.val.status = .repaired → r.val.blocker = none ∧ r.val.backupName ≠ none) ∧
      (r.val.status = .blocked → r.val.blocker ≠ none ∧ r.val.recoveryName = none) ∧
      (r.val.status = .indeterminate →
        r.val.blocker ≠ none ∧ r.val.backupName ≠ none ∧ r.val.recoveryName ≠ none) := by
  have h := (validateWith_eq_ok.mp r.2).2
  simp only [EntrypointMaintenanceResultData.evidenceMatchesStatus, List.forall_mem_cons, violation_fst] at h
  tauto

def matching : EntrypointMaintenanceResult := ⟨{ status := .matching }, rfl⟩

def repairable : EntrypointMaintenanceResult := ⟨{ status := .repairable }, rfl⟩

def repaired (saved moved : EntrypointName) : EntrypointMaintenanceResult :=
  ⟨{ status := .repaired, backupName := some saved, recoveryName := some moved }, rfl⟩

def blocked (blocker : EntrypointMaintenanceBlocker) (saved : EntrypointName) : EntrypointMaintenanceResult :=
  ⟨{ status := .blocked, blocker := some blocker, backupName := some saved }, rfl⟩

def indeterminate (blocker : EntrypointMaintenanceBlocker) (saved moved : EntrypointName) :
    EntrypointMaintenanceResult :=
  ⟨{ status := .indeterminate, blocker := some blocker, backupName := some saved,
     recoveryName := some moved }, rfl⟩

end EntrypointMaintenanceResult

end SkillsSdk

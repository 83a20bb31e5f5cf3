/-
SkillsSdk/Models/ProviderCall.lean

The public evidence of one bounded call of an offline text provider.
-/
import SkillsSdk.Models.ProviderExecution

namespace SkillsSdk

inductive AdapterMode where
  | complete
  | stream
  deriving DecidableEq

structure TextProviderAdapterDescriptor where
  provider : ProviderIdentityV2
  mode : AdapterMode
  deriving DecidableEq

/-- `plain` says that the decimal amount is written without an exponent, as the model reads it. -/
structure ProviderCostObservation where
  amount : Text
  plain : Bool
  currency : Text
  observedAt : Timestamp
  deriving DecidableEq

structure ProviderCallPublicResultData where
  requestId : ExecutionId
  mode : AdapterMode
  status : ExecutionStatus
  eventCount : Nat
  outputBytes : Nat
  outputSha256 : Option Sha256
  eventSha256 : Sha256
  maxBufferedEvents : Nat
  cleanupAttempted : Bool
  cleanupSucceeded : Bool
  /-- `cleanup_error_code` is `"cleanup_failed"`. -/
  cleanupFailed : Bool
  usage : Option ProviderUsageMetadata
  cost : Option ProviderCostObservation
  execution : ProviderExecutionResult
  deriving DecidableEq

namespace ProviderCallPublicResultData

/-- `result_is_consistent`. -/
def resultIsConsistent (r : ProviderCallPublicResultData) : List (Bool × String) :=
  [violation (r.requestId ≠ r.execution.val.requestId ∨ r.status ≠ r.execution.val.status)
      "provider call result must match its execution evidence",
    violation (r.cleanupAttempted = false)
      "provider call cleanup result requires an attempted cleanup",
    violation (r.cleanupSucceeded = r.cleanupFailed)
      "provider call cleanup failure requires redacted diagnostic evidence",
    violation (r.status = .completed ∧
        (r.outputSha256 = none ∨ r.outputSha256 ≠ r.execution.val.outputSha256))
      "completed provider call must bind its output digest",
    violation (r.status ≠ .completed ∧ (r.outputSha256 ≠ none ∨ r.outputBytes ≠ 0))
      "non-completed provider call cannot expose output evidence",
    violation (r.usage ≠ r.execution.val.usage) "provider call usage must match execution evidence"]

def validate (r : ProviderCallPublicResultData) : Except ValidationError Unit :=
  validateWith "ProviderCallPublicResult"
    (check (r.eventCount ≤ 4096) "event_count" "Input should be less than or equal to 4096" ++
      check (r.outputBytes ≤ 1048576) "output_bytes" "Input should be less than or equal to 1048576" ++
      check (r.maxBufferedEvents ≤ 8) "max_buffered_events" "Input should be less than or equal to 8" ++
      check (r.cost.all (·.plain)) "cost" "provider cost amount must be a decimal string")
    r.resultIsConsistent

end ProviderCallPublicResultData

abbrev ProviderCallPublicResult := Accepted ProviderCallPublicResultData.validate

end SkillsSdk

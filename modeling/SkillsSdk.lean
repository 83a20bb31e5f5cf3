import SkillsSdk.Lib.Regex
import SkillsSdk.Lib.Json
import SkillsSdk.Lib.Segments
import SkillsSdk.Lib.KeyedList
import SkillsSdk.Lib.Sha256
import SkillsSdk.Lib.Records
import SkillsSdk.Text
import SkillsSdk.Paths
import SkillsSdk.Digests
import SkillsSdk.Models.Packaging
import SkillsSdk.Models.PublicText
import SkillsSdk.Models.Registry
import SkillsSdk.Models.Lifecycle
import SkillsSdk.Planning
import SkillsSdk.PlanEmission
import SkillsSdk.PlanLaws
import SkillsSdk.PlanTotality
import SkillsSdk.PlanIdentity
import SkillsSdk.ContentBinding
import SkillsSdk.FileNames
import SkillsSdk.Models.Validation
import SkillsSdk.ScanCompleteness
import SkillsSdk.RuntimeChains
import SkillsSdk.EvaluationLaws
import SkillsSdk.MatchedDecisions
import SkillsSdk.MatchedHandoffs
import SkillsSdk.LaneInvariants
import SkillsSdk.ProviderCallLaws
import SkillsSdk.ProviderCallTasks
import SkillsSdk.EntrypointReports
import SkillsSdk.CalibrationLaws
import SkillsSdk.ZipDirectory
import SkillsSdk.ArchiveVerification
import SkillsSdk.RegistryLaws
import SkillsSdk.PathSafety
import SkillsSdk.SkillHazards
import SkillsSdk.Models.Intake
import SkillsSdk.Intake
import SkillsSdk.SourceIndicators
import SkillsSdk.ScenarioQuality
import SkillsSdk.ReleaseSets
import SkillsSdk.PluginCapture
import SkillsSdk.PluginChildren
import SkillsSdk.ChildAgreement
import SkillsSdk.PorcelainStatus
import SkillsSdk.SecuritySignatures
import SkillsSdk.YamlCache
import SkillsSdk.JudgeLifecycle
import SkillsSdk.JsonLoads
import SkillsSdk.JudgeEvents
import SkillsSdk.Models.Advisory
import SkillsSdk.FmAdvisory
import SkillsSdk.FmAdvisoryLaws
import SkillsSdk.Models.ContentReview
import SkillsSdk.ContentReviewWorker
import SkillsSdk.ContentReviewFraming
import SkillsSdk.Models.Coverage
import SkillsSdk.Coverage
import SkillsSdk.CoverageLaws
import SkillsSdk.Lib.JsonReading
import SkillsSdk.Lib.JsonOrder
import SkillsSdk.InputPayload
import SkillsSdk.PluginNormalization
import SkillsSdk.JudgePrompt
import SkillsSdk.CalibrationInput
import SkillsSdk.PrSweep
import SkillsSdk.PluginRoundTrip
import SkillsSdk.RuntimeHistory
import SkillsSdk.PluginManifest

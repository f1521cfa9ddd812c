import Conformance.ForStd.Base64
import Conformance.ForStd.Components
import Conformance.ForStd.DepthFirst
import Conformance.ForStd.Dict
import Conformance.ForStd.Effect
import Conformance.ForStd.Except
import Conformance.ForStd.List
import Conformance.ForStd.Machine
import Conformance.ForStd.Newest
import Conformance.ForStd.Utf8
import Conformance.Native.Assertions
import Conformance.Native.AuthSessionStore
import Conformance.Native.BetaAlias
import Conformance.Native.BuilderDrafts
import Conformance.Native.Catalogue
import Conformance.Native.CatalogueRequest
import Conformance.Native.CertificationValidator
import Conformance.Native.CompilePlan
import Conformance.Native.CompiledManifest
import Conformance.Native.CompiledRun
import Conformance.Native.ConcurrentExecutor
import Conformance.Native.DcrConfiguration
import Conformance.Native.DcrExecution
import Conformance.Native.DcrProtocol
import Conformance.Native.Executor
import Conformance.Native.Headers
import Conformance.Native.HttpExchange
import Conformance.Native.JsonText
import Conformance.Native.Manifest
import Conformance.Native.ManifestAssertions
import Conformance.Native.ManifestRequest
import Conformance.Native.Masking
import Conformance.Native.Placeholders
import Conformance.Native.PlanConfig
import Conformance.Native.PlanDocument
import Conformance.Native.PlanDocumentJson
import Conformance.Native.PlanSnapshot
import Conformance.Native.PlannedSteps
import Conformance.Native.PsuAuthorization
import Conformance.Native.Python
import Conformance.Native.RedirectCapture
import Conformance.Native.ReleaseMetadata
import Conformance.Native.RequestSigning
import Conformance.Native.ResponseSignature
import Conformance.Native.ResultGate
import Conformance.Native.Results
import Conformance.Native.RunLifecycle
import Conformance.Native.RunStore
import Conformance.Native.RunStoreObjects
import Conformance.Native.SchemaValidation
import Conformance.Native.SigningService
import Conformance.Native.StepExecution
import Conformance.Native.TestPlan
import Conformance.Native.Trace
import Conformance.Native.UrlQuery
import Conformance.Native.UrlValidation
import Conformance.Native.VulnerabilityGate
import Conformance.Native.VulnerabilityIssues
import Conformance.Native.VulnerabilityReports
import Conformance.Spec.AcceptedPlaceholders
import Conformance.Spec.AuthSessionInvariant
import Conformance.Spec.AuthSessionLifetime
import Conformance.Spec.BetaAliasHistory
import Conformance.Spec.BodyPathAgreement
import Conformance.Spec.BodylessResponses
import Conformance.Spec.CertificationAgreement
import Conformance.Spec.CompilePlanCorrect
import Conformance.Spec.CompiledManifestCorrect
import Conformance.Spec.ConfiguredEnvironment
import Conformance.Spec.DcrConfigurationRoundTrip
import Conformance.Spec.DcrEcho
import Conformance.Spec.DcrRuns
import Conformance.Spec.DcrSafety
import Conformance.Spec.DcrScenario
import Conformance.Spec.DcrVerdicts
import Conformance.Spec.DevelopmentEvidence
import Conformance.Spec.DnsTargets
import Conformance.Spec.ExactSubstitution
import Conformance.Spec.ExceptionOrder
import Conformance.Spec.FindingComponents
import Conformance.Spec.FrozenHeaderMap
import Conformance.Spec.InertInputs
import Conformance.Spec.InertSteps
import Conformance.Spec.InputProvenance
import Conformance.Spec.Interleaving
import Conformance.Spec.IssueSynchronisation
import Conformance.Spec.JsonAgreement
import Conformance.Spec.JsonEquality
import Conformance.Spec.JsonObjects
import Conformance.Spec.JsonPointers
import Conformance.Spec.JsonTextRoundTrip
import Conformance.Spec.JsonValueEquality
import Conformance.Spec.LegacyPaths
import Conformance.Spec.LegacyRows
import Conformance.Spec.ManifestCorrect
import Conformance.Spec.ManifestRun
import Conformance.Spec.MaskingLaws
import Conformance.Spec.MissingResponses
import Conformance.Spec.ParticipantActions
import Conformance.Spec.PartitionCorrect
import Conformance.Spec.PlaceholderReferences
import Conformance.Spec.PlaceholderText
import Conformance.Spec.PlanDocumentOrder
import Conformance.Spec.PlanDocumentRoundTrip
import Conformance.Spec.PlanReaders
import Conformance.Spec.PlanRoundTrip
import Conformance.Spec.PlannedStepsAgree
import Conformance.Spec.PosixPaths
import Conformance.Spec.PromotedReleases
import Conformance.Spec.PsuSessions
import Conformance.Spec.Redaction
import Conformance.Spec.RedirectAgreement
import Conformance.Spec.ReportErrors
import Conformance.Spec.ReportSubmission
import Conformance.Spec.ResultGateCorrect
import Conformance.Spec.RunLifecycleInvariant
import Conformance.Spec.RunSlot
import Conformance.Spec.RunStoreInvariant
import Conformance.Spec.RunStoreObjectsRefine
import Conformance.Spec.RuntimeInputsCorrect
import Conformance.Spec.SavedDrafts
import Conformance.Spec.SchemaKeywords
import Conformance.Spec.SchemaPreparation
import Conformance.Spec.SchemaProblems
import Conformance.Spec.ScopeEquivalence
import Conformance.Spec.ScopeMonotone
import Conformance.Spec.SecurityEnvironmentExport
import Conformance.Spec.SelectionCorrect
import Conformance.Spec.SensitiveInputs
import Conformance.Spec.SentHeaders
import Conformance.Spec.SessionCap
import Conformance.Spec.ShownSections
import Conformance.Spec.SignatureErrors
import Conformance.Spec.SignedRequests
import Conformance.Spec.SigningAgreement
import Conformance.Spec.SkipReasons
import Conformance.Spec.SnapshotSecrecy
import Conformance.Spec.StepContexts
import Conformance.Spec.SuppliedInputs
import Conformance.Spec.TemplateText
import Conformance.Spec.TraceGroups
import Conformance.Spec.UrlCredentials
import Conformance.Spec.UrlQueries
import Conformance.Spec.VulnerabilityGateSound

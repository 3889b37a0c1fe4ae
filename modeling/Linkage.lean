import Linkage.Main
import Linkage.Proofs.VersionOrder
import Linkage.Proofs.KeyOrder
import Linkage.Proofs.ClasspathSearch
import Linkage.Progress
import Linkage.Proofs.ClasspathClosure
import Linkage.Proofs.ClasspathMediation
import Linkage.Proofs.RuleNumbering
import Linkage.Proofs.RangeMembership
import Linkage.Proofs.RuleEvaluation
import Linkage.Proofs.MatrixSamples
import Linkage.Proofs.VersionIdentity
import Linkage.Proofs.RuleSharing
import Linkage.Proofs.Acceptance
import Linkage.Proofs.ConfigValidation
import Linkage.Proofs.SessionRuns
import Linkage.Proofs.ValidLoading
import Linkage.Proofs.ExcludedLibraries
import Linkage.Proofs.RangeRoundTrip
import Linkage.Proofs.DocumentData
import Linkage.Proofs.NullDeletion
import Linkage.Proofs.RangeReading
import Linkage.Proofs.ClasspathSpelling
import Linkage.Proofs.EvaluationSpelling
import Linkage.Proofs.MatrixGrowth
import Linkage.Proofs.SpellingNeutrality
import Linkage.Proofs.ListedNumbers
import Linkage.Proofs.DataReading
import Linkage.Proofs.BlankLayer
import Linkage.Proofs.VerdictShape
import Linkage.Proofs.ReportCounts
import Linkage.Proofs.ExitCodes
import Linkage.Proofs.TextSplitting
import Linkage.Proofs.SymbolReading
import Linkage.Proofs.ViolationTexts
import Linkage.Proofs.ReportLines
import Linkage.Proofs.ConfiguredVerifiers
import Linkage.Proofs.ReadVerifiers
import Linkage.Proofs.EvaluatedVerdicts
import Linkage.Proofs.Fingerprints
import Linkage.Proofs.UnknownReferences
import Linkage.Proofs.CheckedVersions
import Linkage.Proofs.ConfigRoundTrip
import Linkage.Proofs.RegistrationHistory
import Linkage.Proofs.SymbolRoundTrip
import Linkage.Proofs.SamplePartition
import Linkage.Proofs.UndeclaredClasses
import Linkage.Proofs.ExclusionBlame
import Linkage.Proofs.NumberedVersions
import Linkage.Proofs.DottedNumbers
import Linkage.Proofs.ReleaseSpellings
import Linkage.Proofs.LayeredPaths
import Linkage.Proofs.FindingPlaces
import Linkage.Proofs.SeparatedTexts
import Linkage.Proofs.CheckedProblems
import Linkage.Proofs.KeyTexts
import Linkage.Proofs.Assignments
import Linkage.Proofs.FileChanges
import Linkage.Proofs.Installation
import Linkage.Proofs.TextLines
import Linkage.Proofs.IgnoredFiles
import Linkage.Proofs.VersionBindings
import Linkage.Proofs.ResolvedEntries
import Linkage.Proofs.VersionLayers
import Linkage.Proofs.KeptTexts
import Linkage.Proofs.ListedVersions
import Linkage.Proofs.ListingAge
import Linkage.Proofs.RuleTables
import Linkage.Proofs.CandidateHistory
import Linkage.Proofs.UnansweredRequests
import Linkage.Proofs.KnownFields
import Linkage.Proofs.ReleaseHistory

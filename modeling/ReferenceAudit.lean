import ReferenceAudit.Main
import ReferenceAudit.Text.Numeral
import ReferenceAudit.Text.Shortest
import ReferenceAudit.Text.Similar
import ReferenceAudit.Text.Base64
import ReferenceAudit.Proofs.Lists
import ReferenceAudit.Proofs.Walk
import ReferenceAudit.Proofs.Contributions
import ReferenceAudit.Proofs.PackageVerdicts
import ReferenceAudit.Proofs.DiskTimes
import ReferenceAudit.Proofs.Folding
import ReferenceAudit.Proofs.KeptManifests
import ReferenceAudit.Proofs.CacheRuns
import ReferenceAudit.Proofs.CacheStates
import ReferenceAudit.Proofs.ExpectedFaults
import ReferenceAudit.Proofs.Trimming
import ReferenceAudit.Proofs.SavedReferences
import ReferenceAudit.Proofs.PackageAgreement
import ReferenceAudit.Proofs.MoreUsed
import ReferenceAudit.Proofs.AnalysesApart
import ReferenceAudit.Proofs.Listings
import ReferenceAudit.Proofs.InputFaults
import ReferenceAudit.Proofs.SettledAnalyses
import ReferenceAudit.Proofs.RepeatedLookups
import ReferenceAudit.Proofs.ReportLines
import ReferenceAudit.Proofs.ReportedReferences
import ReferenceAudit.Proofs.EquivalentGraphs
import ReferenceAudit.Proofs.ManifestOrder
import ReferenceAudit.Proofs.RecasedReferences
import ReferenceAudit.Proofs.RecasedManifests
import ReferenceAudit.Proofs.TypedItems
import ReferenceAudit.Proofs.SilencedItems
import ReferenceAudit.Proofs.AnalysisWrites
import ReferenceAudit.Proofs.ReferenceFormat
import ReferenceAudit.Proofs.Directories
import ReferenceAudit.Proofs.SafeSaves
import ReferenceAudit.Proofs.CanonicalReferences
import ReferenceAudit.Proofs.LocalVerdicts
import ReferenceAudit.Proofs.IndexFaults
import ReferenceAudit.Proofs.BuildOutcomes
import ReferenceAudit.Proofs.IgnoredBuildFiles
import ReferenceAudit.Proofs.FlaggedReferences
import ReferenceAudit.Proofs.PrintedDiagnostics
import ReferenceAudit.Proofs.ConfiguredSuppressions
import ReferenceAudit.Proofs.CacheCounts
import ReferenceAudit.Proofs.CountedRuns
import ReferenceAudit.Proofs.WrittenReports
import ReferenceAudit.Proofs.DeclaredMembers
import ReferenceAudit.Proofs.DumpedListings
import ReferenceAudit.Proofs.RecasedListings
import ReferenceAudit.Proofs.CategoryIds
import ReferenceAudit.Proofs.AbsolutePaths

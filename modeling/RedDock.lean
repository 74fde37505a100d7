import RedDock.Blocks
import RedDock.Text
import RedDock.IpAddress
import RedDock.IpText
import RedDock.Idna
import RedDock.Urls
import RedDock.Targets
import RedDock.Canonical
import RedDock.DockGuard
import RedDock.IpSpace
import RedDock.Scope
import RedDock.Verdict
import RedDock.Soundness
import RedDock.StoredRules
import RedDock.RuleOrder
import RedDock.NetworkDecisions
import RedDock.Nmap
import RedDock.Runs
import RedDock.Discovery
import RedDock.ScopeRevocation
import RedDock.Detection
import RedDock.Findings
import RedDock.FindingLifecycle
import RedDock.FindingRace
import RedDock.Checks
import RedDock.Noninterference
import RedDock.OutputChecks
import RedDock.DetectorIsolation
import RedDock.Sessions
import RedDock.Transactions
import RedDock.Inventory
import RedDock.Executions
import RedDock.ExecutionClaims
import RedDock.Publishing
import RedDock.NmapReport
import RedDock.Publications
import RedDock.ServiceRules
import RedDock.Snapshots
import RedDock.Reconciliation
import RedDock.ServiceEvidence
import RedDock.HttpHeaders
import RedDock.TlsCertificates
import RedDock.Registry
import RedDock.FindingEvidence
import RedDock.EvidenceBacking
import RedDock.PlainFindings
import RedDock.StoredRows
import RedDock.BuiltInDetectors
import RedDock.FailureAtomicity
import RedDock.SessionFamilies
import RedDock.Bytes
import RedDock.ZipDirectory
import RedDock.Durable
import RedDock.Restore
import RedDock.RestoreRecovery
import RedDock.FailedRestore
import RedDock.Trees
import RedDock.Members
import RedDock.EvidenceFiles
import RedDock.HeaderVerdicts
import RedDock.HttpProbe
import RedDock.Validation
import RedDock.ExaminedHeaders
import RedDock.Windows
import RedDock.RateLimits
import RedDock.RateLimitBound
import RedDock.Claims
import RedDock.Approvals
import RedDock.ApprovalClaims
import RedDock.Intelligence
import RedDock.Disclosures
import RedDock.Plugins
import RedDock.PluginFindings
import RedDock.PluginRows
import RedDock.Coverage
import RedDock.CoverageRuns
import RedDock.ZipFiles
import RedDock.JsonText
import RedDock.RetainedRows
import RedDock.Artifacts
import RedDock.FullExclusion
import RedDock.Admissions
import RedDock.CorrelationAdmission
import RedDock.ValidationAdmission
import RedDock.Lab
import RedDock.DiscoveryRequests
import RedDock.DiscoveryAdmission
import RedDock.LabGate
import RedDock.MappedAddresses
import RedDock.MalformedText
import RedDock.PublicOrigins
import RedDock.KeyedRows
import RedDock.Issuers
import RedDock.Team
import RedDock.TeamInvariants
import RedDock.IdTokens
import RedDock.LoginAttempts
import RedDock.OneTimeLogins
import RedDock.ServiceIdentity
import RedDock.PortSummaries
import RedDock.ColumnWidths
import RedDock.Fingerprints
import RedDock.Catalogue
import RedDock.Correlation
import RedDock.FindingCorrelations
import RedDock.RedPath
import RedDock.CommonMark
import RedDock.MarkdownSpans
import RedDock.SqlScanner
import RedDock.SqlTokens
import RedDock.CheckClauses
import RedDock.SessionTables
import RedDock.SessionPurge
import RedDock.ClientBuckets
import RedDock.ProviderKeys
import RedDock.SlidingWindows
import RedDock.Histories
import RedDock.LocalOperator
import RedDock.SessionGenerations
import RedDock.SessionClient
import RedDock.SessionTurns
import RedDock.SessionPages
import RedDock.SessionEpochs
import RedDock.ManifestChecks
import RedDock.DatabaseEvidence
import RedDock.HostileArchives
import RedDock.EvidenceReferences
import RedDock.LiveData
import RedDock.ZipEnds
import RedDock.DeflatedArchives
import RedDock.JsonSizes
import RedDock.BackupManifests
import RedDock.CreatedBackups
import RedDock.BackupCreation
import RedDock.AcceptedManifests
import RedDock.ExtractedBackups
import RedDock.RestoredBackups
import RedDock.BackupRoundTrip
import RedDock.ReportSnapshots
import RedDock.ReportTexts
import RedDock.Reports
import RedDock.CitedArtifacts
import RedDock.DockPacks
import RedDock.PublishedReports
import RedDock.ReportReproducibility
import RedDock.Ledgers
import RedDock.TeamAudit
import RedDock.Cursors
import RedDock.AuditPages
import RedDock.AuditedTeam
import RedDock.ExecutionAuthority
import RedDock.ScopeAudit
import RedDock.RecordedScope

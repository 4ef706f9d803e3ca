import HybridX509.Model
import HybridX509.Lib.Fallible
import HybridX509.Lib.Registry
import HybridX509.Lib.Worst
import HybridX509.Lib.Ascii
import HybridX509.Oracle.AggregateState
import HybridX509.Oracle.Validation
import HybridX509.Oracle.Evaluate
import HybridX509.Oracle.WellFormed
import HybridX509.Oracle.Grades
import HybridX509.Oracle.Accepted
import HybridX509.Oracle.Decision
import HybridX509.Oracle.Outcome
import HybridX509.Oracle.Acceptance
import HybridX509.Oracle.RequiredHybrid
import HybridX509.Oracle.EvidenceLists
import HybridX509.Oracle.Panics
import HybridX509.Oracle.Improvement
import HybridX509.Oracle.Policies
import HybridX509.Oracle.Reporting
import HybridX509.Oracle.Flags
import HybridX509.Oracle.Related
import HybridX509.Oracle.Scope
import HybridX509.Lib.BigEndian
import HybridX509.X509.Parsed
import HybridX509.X509.Pem
import HybridX509.Revocation.Crl
import HybridX509.Revocation.JavaCrl
import HybridX509.Lib.Machine
import HybridX509.Revocation.Ocsp
import HybridX509.Revocation.OcspAcceptance
import HybridX509.Revocation.OcspModes
import HybridX509.Revocation.IssuerCheck
import HybridX509.Adapters.Container
import HybridX509.X509.Profile
import HybridX509.Adapters.BouncyCastle
import HybridX509.Analysis.Scopes
import HybridX509.Analysis.IssuerEdges
import HybridX509.Analysis.PathRuns
import HybridX509.Analysis.AtomicPathScope
import HybridX509.Analysis.CrossSignedPath
import HybridX509.Analysis.SelectedRoute
import HybridX509.Lib.Base64
import HybridX509.X509.PemText
import HybridX509.Lib.Der
import HybridX509.X509.Mutation
import HybridX509.X509.Related
import HybridX509.Revocation.Remainder
import HybridX509.Adapters.JavaOutput
import HybridX509.Adapters.ValidationTime
import HybridX509.Analysis.PurePathScope
import HybridX509.Analysis.ChameleonPathScope
import HybridX509.Analysis.CatalystPathScope
import HybridX509.Analysis.RelatedPathScope
import HybridX509.Analysis.PathScopes
import HybridX509.Analysis.Transcripts
import HybridX509.Analysis.AtomicTls
import HybridX509.Analysis.ChameleonTls
import HybridX509.Analysis.RelatedTls
import HybridX509.Analysis.InconclusiveRuns
import HybridX509.Adapters.Process
import HybridX509.Lib.Traces
import HybridX509.Adapters.VersionCache
import HybridX509.Lib.LexicalPath
import HybridX509.Adapters.MountDestinations
import HybridX509.Adapters.Stacks
import HybridX509.Adapters.StackReports
import HybridX509.Analysis.Matrix
import HybridX509.Analysis.MatrixRows
import HybridX509.Analysis.MatrixEntries
import HybridX509.Analysis.MatrixEvidence
import HybridX509.Oracle.Fallback
import HybridX509.Analysis.Fallbacks
import HybridX509.Analysis.CatalystTls
import HybridX509.Analysis.RelatedOpenSsl
import HybridX509.Analysis.CatalystBouncyCastle
import HybridX509.Corpus
import HybridX509.Commands

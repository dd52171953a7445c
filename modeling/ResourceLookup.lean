import ResourceLookup.Repository.Fetch
import ResourceLookup.Summary.Answer
import ResourceLookup.Proofs.Trace
import ResourceLookup.Proofs.Exchange
import ResourceLookup.Proofs.Loading
import ResourceLookup.Proofs.Verdict
import ResourceLookup.Proofs.NetworkCall
import ResourceLookup.Proofs.RetryLoop
import ResourceLookup.Proofs.StatusFidelity
import ResourceLookup.Proofs.SuccessSoundness
import ResourceLookup.Proofs.Operations
import ResourceLookup.Proofs.CallReports
import ResourceLookup.Proofs.LazyCredentials
import ResourceLookup.Proofs.TextEnds
import ResourceLookup.Proofs.HostEnding
import ResourceLookup.Proofs.AddressStart
import ResourceLookup.Proofs.Origin
import ResourceLookup.Proofs.FailureCalls
import ResourceLookup.Proofs.GuardedLookup
import ResourceLookup.Proofs.LookupIds
import ResourceLookup.Proofs.ResultKeys
import ResourceLookup.Proofs.BatchLookup
import ResourceLookup.Proofs.Lifetimes
import ResourceLookup.Proofs.FailureHistory
import ResourceLookup.Proofs.LookupKeys
import ResourceLookup.Proofs.LifetimeWindow
import ResourceLookup.Proofs.SharedStore
import ResourceLookup.Proofs.FailFast
import ResourceLookup.Proofs.Escapes
import ResourceLookup.Proofs.SafePaths
import ResourceLookup.Proofs.ParentSegments
import ResourceLookup.Proofs.QueryStrings
import ResourceLookup.Proofs.QueryCalls
import ResourceLookup.Proofs.OutboundHeaders
import ResourceLookup.Proofs.InboundHeaders
import ResourceLookup.Proofs.TraceCorrelation
import ResourceLookup.Proofs.FailureWords
import ResourceLookup.Proofs.UpstreamStatus
import ResourceLookup.Proofs.CachedLookup
import ResourceLookup.Proofs.RecoverableErrors
import ResourceLookup.Proofs.StoredEntries
import ResourceLookup.Proofs.BaseAddress
import ResourceLookup.Proofs.ServiceIsolation
import ResourceLookup.Proofs.CacheQueries
import ResourceLookup.Proofs.PolicyText
import ResourceLookup.Proofs.DocumentText

import ActorServices.Proc
import ActorServices.Trace
import ActorServices.Interleave
import ActorServices.Mailbox
import ActorServices.ActorProgress
import ActorServices.ServiceActors
import ActorServices.ServiceCommon
import ActorServices.ServiceEnvironment
import ActorServices.ServiceInvariant
import ActorServices.ServiceOwnership
import ActorServices.ServiceRows
import ActorServices.ServiceCache
import ActorServices.PasteBurn
import ActorServices.PasteDeleted
import ActorServices.PasteLossy
import ActorServices.LinkPurge
import ActorServices.LinkStale
import ActorServices.LinkRedis
import ActorServices.BatcherFlush
import ActorServices.ServerLiveSet
import ActorServices.ConnectionFraming
import ActorServices.HttpSmuggling
import ActorServices.ConnectionShutdown
import ActorServices.HeadRequests
import ActorServices.HttpExchange
import ActorServices.HttpOrder
import ActorServices.LinkHits
import ActorServices.LinkRouting
import ActorServices.LinkRedirect
import ActorServices.HighlightSafe
import ActorServices.ConnectionBounds
import ActorServices.RateLimitStale
import ActorServices.RateLimitSweep
import ActorServices.ClientIp
import ActorServices.CreateCalls
import ActorServices.LinkExpiry
import ActorServices.PasteTtl
import ActorServices.PasteAdapters
import ActorServices.PasteTasks
import ActorServices.ConnectionTimed
import ActorServices.ServerWholeFigures
import ActorServices.ServerWholeDrain
import ActorServices.ServerShutdown
import ActorServices.RateLimitIsolation
import ActorServices.ServiceApi
import ActorServices.PasteApi
import ActorServices.LinkHandlers
import ActorServices.ProcAlike
import ActorServices.BackendCauses
import ActorServices.Tally
import ActorServices.ServiceMetrics
import ActorServices.JsUri
import ActorServices.ProcLayer
import ActorServices.ServiceMade
import ActorServices.PasteCreators
import ActorServices.RequestCalls
import ActorServices.PasteRequests
import ActorServices.LinkRequests
import ActorServices.PasteRouting
import ActorServices.PastePage
import ActorServices.PasteShare
import ActorServices.ServiceFound
import ActorServices.RequestFound
import ActorServices.PasteFound
import ActorServices.LinkFound

import RmwGurumdds.Cdr.Decoders
import RmwGurumdds.Cdr.Languages
import RmwGurumdds.Cdr.Locality
import RmwGurumdds.Cdr.Metastring
import RmwGurumdds.Cdr.MetastringLayout
import RmwGurumdds.Cdr.Padding
import RmwGurumdds.Cdr.RmwSerialize
import RmwGurumdds.Cdr.RoundTrip
import RmwGurumdds.Cdr.SequenceSizes
import RmwGurumdds.Cdr.TypeSupport
import RmwGurumdds.Cdr.TypeSupportService
import RmwGurumdds.Endpoints.Retries
import RmwGurumdds.Endpoints.Cleanup
import RmwGurumdds.Events.CallbackCounts
import RmwGurumdds.Events.Conservation
import RmwGurumdds.Events.Notifications
import RmwGurumdds.Events.StatusChanged
import RmwGurumdds.Events.TopicEventListener
import RmwGurumdds.Graph.ActualQos
import RmwGurumdds.Graph.Convergence
import RmwGurumdds.Graph.Counts
import RmwGurumdds.Graph.EndpointInfo
import RmwGurumdds.Graph.Hooks
import RmwGurumdds.Graph.Listing
import RmwGurumdds.Graph.NodeListing
import RmwGurumdds.Graph.NodeNetwork
import RmwGurumdds.Graph.NodeQueries
import RmwGurumdds.Graph.Participants
import RmwGurumdds.Graph.TypeHashes
import RmwGurumdds.Lifecycle.InitOptions
import RmwGurumdds.Lifecycle.ListenerLoop
import RmwGurumdds.Lifecycle.ListenerThread
import RmwGurumdds.Lifecycle.NodeCount
import RmwGurumdds.Names.Safety
import RmwGurumdds.Names.ServiceTypes
import RmwGurumdds.Service.BasicMapping
import RmwGurumdds.Service.Correlation
import RmwGurumdds.Service.Inbox
import RmwGurumdds.Service.TakenRequests
import RmwGurumdds.Subscription.PublisherGids
import RmwGurumdds.Subscription.SerializedMessages
import RmwGurumdds.Subscription.TakeSequence
import RmwGurumdds.Subscription.Unread
import RmwGurumdds.Topics.Delivery
import RmwGurumdds.Topics.Publishing
import RmwGurumdds.Wait.Readiness
import RmwGurumdds.Wait.Polling
import RmwGurumdds.Wait.Staleness
import RmwGurumdds.Wait.Timeout

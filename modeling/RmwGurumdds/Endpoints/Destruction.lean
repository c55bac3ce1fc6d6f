import RmwGurumdds.Exec.Attempts
import RmwGurumdds.Lifecycle.ContextImpl

/-!
# Destroying what a handle stands for

`rmw_destroy_publisher` and its siblings delete several objects of DDS one after the other. Where a
deletion fails they return an error, and the handle stays with its caller, who may try again.

The functions for publishers and subscriptions call their hook of the graph first. It takes the gid
out of the graph cache, and fails in every later call, which then deletes nothing. Those for
services and clients call their hook last, and it never fails. A retry there goes by the pointers of
the info object, of which none is set to null, and starts over with a writer that may be gone.
-/

namespace Endpoints

open Rmw Exec
open Lifecycle (Handle)

/-- What is deleted behind a handle. -/
inductive Object where
  | writer (handle : Handle)
  | reader (handle : Handle)
  | readCondition (handle : Handle)
  | dataSeq (handle : Handle)
  | infoSeq (handle : Handle)
  | rawDataSizes (handle : Handle)
deriving DecidableEq, Repr

/-- How `dds_DomainParticipant_delete_topic` ends. -/
inductive TopicDeletion where
  | ok
  | preconditionNotMet
  | error
deriving DecidableEq, Repr

/-- What others answer in one attempt to destroy. `removeGraph` is what the common context answers
when it is told that a publisher or a subscription is gone. -/
structure Attempt where
  removeGraph : Bool
  deleteDatawriter : Bool
  deleteReadcondition : Bool
  deleteDatareader : Bool
  deleteTopic : TopicDeletion
deriving DecidableEq, Repr

/-- A handle of the interface, of which `data` points to the info object. Beside it stand whether
the graph cache has the gids of the handle, the objects that were deleted, the last one first, and
the error message the thread set last. -/
structure Holder (Info : Type) where
  data : Option Info
  inGraphCache : Bool
  deleted : List Object
  errorMsg : Option String

/-- A handle that was just created. The hook of its creation has entered its gids. -/
def Holder.created {Info : Type} (info : Info) : Holder Info where
  data := some info
  inGraphCache := true
  deleted := []
  errorMsg := none

/-- Code that destroys a handle and may return a code other than `RMW_RET_OK`. -/
abbrev Destroy (Info : Type) := EStateM RmwRet (Holder Info)

section Deletions

variable {Info : Type}

/-- A message and an error. -/
def fail (msg : String) : Destroy Info Unit := do
  modify fun h => { h with errorMsg := some msg }
  throw .error

/-- A deletion that nobody is told the outcome of. -/
def drop (object : Object) : Destroy Info Unit :=
  modify fun h => { h with deleted := object :: h.deleted }

/-- A deletion. -/
def delete (succeeds : Bool) (object : Object) (msg : String) : Destroy Info Unit :=
  if succeeds then drop object else fail msg

/-- The topic of an endpoint may still be in use. -/
def deleteTopic : TopicDeletion → Destroy Info Unit
  | .ok | .preconditionNotMet => pure ()
  | .error => fail "failed to delete topic"

/-- The hook of the graph for what has one gid. The gid must be in the graph cache, and is then in
it no longer, whatever the common context answers. -/
def onDeleted (removeGraph : Bool) (entityMsg graphMsg : String) : Destroy Info Unit := do
  if (← get).inGraphCache then
    modify fun h => { h with inGraphCache := false }
    if removeGraph then pure () else fail graphMsg
  else fail entityMsg

end Deletions

/-! ## Publishers -/

/-- `PublisherInfo`. -/
structure PublisherInfo where
  topicWriter : Option Handle
deriving DecidableEq, Repr

/-- `destroy_publisher`. -/
def destroyPublisher (a : Attempt) : Destroy PublisherInfo Unit := do
  match (← get).data with
  | none => fail "invalid publisher data"
  | some info => do
    match info.topicWriter with
    | none => pure ()
    | some topicWriter => do
      delete a.deleteDatawriter (.writer topicWriter) "failed to delete datawriter"
      modify fun h => { h with data := some { info with topicWriter := none } }
      deleteTopic a.deleteTopic
    modify fun h => { h with data := none }

/-- `on_publisher_deleted`. -/
def onPublisherDeleted (a : Attempt) : Destroy PublisherInfo Unit :=
  onDeleted a.removeGraph "failed to remove entity of publisher"
    "failed to remove remove publisher graph"

/-- `rmw_destroy_publisher`. -/
def rmwDestroyPublisher (a : Attempt) : Destroy PublisherInfo Unit := do
  onPublisherDeleted a
  destroyPublisher a

/-! ## Subscriptions -/

/-- `SubscriberInfo`. -/
structure SubscriberInfo where
  topicReader : Option Handle
  readCondition : Handle
  dataSeq : Handle
  infoSeq : Handle
  rawDataSizes : Handle
deriving DecidableEq, Repr

/-- `destroy_subscription`. -/
def destroySubscription (a : Attempt) : Destroy SubscriberInfo Unit := do
  match (← get).data with
  | none => fail "invalid subscriber data"
  | some info => do
    -- Whether the reader can be deleted is not known yet.
    drop (.dataSeq info.dataSeq)
    drop (.infoSeq info.infoSeq)
    drop (.rawDataSizes info.rawDataSizes)
    match info.topicReader with
    | none => pure ()
    | some topicReader => do
      delete a.deleteReadcondition (.readCondition info.readCondition)
        "failed to delete read condition"
      delete a.deleteDatareader (.reader topicReader) "failed to delete datareader"
      modify fun h => { h with data := some { info with topicReader := none } }
      deleteTopic a.deleteTopic
    modify fun h => { h with data := none }

/-- `on_subscriber_deleted`. -/
def onSubscriberDeleted (a : Attempt) : Destroy SubscriberInfo Unit :=
  onDeleted a.removeGraph "failed to remove entity of subscriber"
    "failed to remove remove publisher graph"

/-- `rmw_destroy_subscription`. -/
def rmwDestroySubscription (a : Attempt) : Destroy SubscriberInfo Unit := do
  onSubscriberDeleted a
  destroySubscription a

/-! ## Services and clients -/

/-- What the info objects of a service and of a client point to. -/
structure CallEndpoints where
  writer : Option Handle
  reader : Option Handle
  readCondition : Option Handle
  dataSeq : Handle
  infoSeq : Handle
  rawDataSizes : Handle
deriving DecidableEq, Repr

/-- `on_service_deleted` and `on_client_deleted`. They return `RMW_RET_OK` whatever fails. -/
def pairDeleted {Info : Type} : Destroy Info Unit :=
  modify fun h => { h with inGraphCache := false }

/-- What an info object points to is deleted, and then the info object. -/
def deleteCallEndpoints {Info : Type} (endpoints : CallEndpoints) (a : Attempt) :
    Destroy Info Unit := do
  match endpoints.writer with
  | none => pure ()
  | some writer => delete a.deleteDatawriter (.writer writer) "failed to delete datawriter"
  drop (.dataSeq endpoints.dataSeq)
  drop (.infoSeq endpoints.infoSeq)
  drop (.rawDataSizes endpoints.rawDataSizes)
  match endpoints.reader with
  | none => pure ()
  | some reader => do
    match endpoints.readCondition with
    | none => pure ()
    | some readCondition =>
      delete a.deleteReadcondition (.readCondition readCondition) "failed to delete readcondition"
    delete a.deleteDatareader (.reader reader) "failed to delete datareader"
  pairDeleted
  modify fun h => { h with data := none }

/-- The functions that destroy a service and a client differ in the names of fields only. -/
def destroyCallEndpoints {Info : Type} (endpoints : Info → CallEndpoints) (a : Attempt) :
    Destroy Info Unit := do
  match (← get).data with
  | none => pure ()
  | some info => deleteCallEndpoints (endpoints info) a

/-- `ServiceInfo`. -/
structure ServiceInfo where
  responseWriter : Option Handle
  requestReader : Option Handle
  readCondition : Option Handle
  dataSeq : Handle
  infoSeq : Handle
  rawDataSizes : Handle
deriving DecidableEq, Repr

/-- The response is written, and the request read. -/
def ServiceInfo.endpoints (info : ServiceInfo) : CallEndpoints where
  writer := info.responseWriter
  reader := info.requestReader
  readCondition := info.readCondition
  dataSeq := info.dataSeq
  infoSeq := info.infoSeq
  rawDataSizes := info.rawDataSizes

/-- `rmw_destroy_service`. -/
def rmwDestroyService : Attempt → Destroy ServiceInfo Unit :=
  destroyCallEndpoints ServiceInfo.endpoints

/-- `ClientInfo`. -/
structure ClientInfo where
  requestWriter : Option Handle
  responseReader : Option Handle
  readCondition : Option Handle
  dataSeq : Handle
  infoSeq : Handle
  rawDataSizes : Handle
deriving DecidableEq, Repr

/-- The request is written, and the response read. -/
def ClientInfo.endpoints (info : ClientInfo) : CallEndpoints where
  writer := info.requestWriter
  reader := info.responseReader
  readCondition := info.readCondition
  dataSeq := info.dataSeq
  infoSeq := info.infoSeq
  rawDataSizes := info.rawDataSizes

/-- `rmw_destroy_client`. -/
def rmwDestroyClient : Attempt → Destroy ClientInfo Unit :=
  destroyCallEndpoints ClientInfo.endpoints

end Endpoints

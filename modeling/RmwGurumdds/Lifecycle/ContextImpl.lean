import RmwGurumdds.Exec.ScopeExit
import RmwGurumdds.Rmw.Types

/-!
# Nodes and their participant

`rmw_context_impl_t` counts the nodes of a context. The first node makes the domain participant with
everything the graph needs, and the last one takes it down; what was made before a failure is taken
down by the scope that made it.

Which of the calls to other packages succeed is told by `Outcomes`, separately for each call of
`rmw_create_node` and `rmw_destroy_node`; no such call makes one of them twice.
-/

namespace Lifecycle

open Rmw Exec

/-- What may fail while a node is created. -/
inductive Setup where
  | getInstance
  | supportsOnRemote
  | getDefaultParticipantQos
  | createParticipant (userData : String)
  | getDefaultPublisherQos
  | createPublisher
  | finalizePublisherQos
  | getDefaultSubscriberQos
  | createSubscriber
  | finalizeSubscriberQos
  | createDiscoveryPublisher
  | createDiscoverySubscription
  | createGraphGuardCondition
  | createListenerGuardCondition
  | startListenerThread
  | allocateNode
  | allocateName
  | allocateNamespace
  | addNodeGraph (name ns : String)
deriving DecidableEq, Repr

/-- What may fail while something is taken down. -/
inductive Teardown where
  | triggerListenerGuardCondition
  | joinListenerThread
  | destroyListenerGuardCondition
  | destroyGraphGuardCondition
  | destroyDiscoverySubscription
  | destroyDiscoveryPublisher
  | deletePublisherEntities
  | deletePublisher
  | deleteSubscriberEntities
  | deleteSubscriber
  | getInstance
  | deleteParticipant
  | removeNodeGraph (name ns : String)
deriving DecidableEq, Repr

/-- Which calls succeed. -/
structure Outcomes where
  setup : Setup → Bool
  teardown : Teardown → Bool

/-- What the code uses of other packages besides: the size of `user_data.value`, and the validation
of names, which gives the reason why a name is invalid. -/
structure Library where
  userDataCapacity : Nat
  validateNodeName : String → Option String
  validateNamespace : String → Option String

/-- A pointer to an object of another package. -/
abbrev Handle := Nat

/-- `rmw_context_impl_t`. Beside it stand the participants of DDS that were created through it and
not deleted, the next pointer to be given out, and the error message the thread set last. The nodes
of a context are objects in memory, so their count does not wrap. -/
structure ContextImpl where
  enclave : String
  isShutdown : Bool
  nodeCount : Nat
  participant : Option Handle
  publisher : Option Handle
  subscriber : Option Handle
  pub : Option Handle
  sub : Option Handle
  graphGuardCondition : Option Handle
  listenerThreadGc : Option Handle
  threadIsRunning : Bool
  participants : List Handle
  supply : Handle
  errorMsg : Option String

/-- Code that works on a context and may return a code other than `RMW_RET_OK`. -/
abbrev Impl := EStateM RmwRet ContextImpl

/-- `RMW_SET_ERROR_MSG`. -/
def setErrorMsg (msg : String) : Impl Unit := modify fun ctx => { ctx with errorMsg := some msg }

/-- A message, if it is not only logged, and a code. -/
def fail {α : Type} (ret : RmwRet) : Option String → Impl α
  | none => throw ret
  | some msg => do
    setErrorMsg msg
    throw ret

/-- What is returned when a call does not succeed. -/
def check (succeeds : Bool) (ret : RmwRet) (msg : Option String) : Impl Unit :=
  if succeeds then pure () else fail ret msg

/-- A call that makes an object. Its pointer, or a null pointer, is stored before it is checked. -/
def make (succeeds : Bool) (ret : RmwRet) (msg : Option String)
    (store : Option Handle → ContextImpl → ContextImpl) : Impl Unit := do
  modify fun ctx =>
    if succeeds then store (some ctx.supply) { ctx with supply := ctx.supply + 1 }
    else store none ctx
  check succeeds ret msg

/-- What is done with an object that is there. -/
def whenHeld (held : ContextImpl → Option Handle) (m : Handle → Impl Unit) : Impl Unit := do
  match held (← get) with
  | none => pure ()
  | some handle => m handle

/-! ## The listener thread -/

/-- `run_listener_thread`. A guard condition without a thread is destroyed, and the pointer to it
stays. -/
def runListenerThread (o : Outcomes) : Impl Unit := do
  make (o.setup .createListenerGuardCondition) .error
    "Failed to create listener thread guard condition"
    fun handle ctx => { ctx with listenerThreadGc := handle }
  modify fun ctx => { ctx with threadIsRunning := true }
  rescue (check (o.setup .startListenerThread) .error "Failed to create std::thread") fun ret => do
    modify fun ctx => { ctx with threadIsRunning := false }
    throw ret

/-- `stop_listener_thread`. -/
def stopListenerThread (o : Outcomes) : Impl Unit := do
  let wasRunning := (← get).threadIsRunning
  modify fun ctx => { ctx with threadIsRunning := false }
  if wasRunning = true then do
    check (o.teardown .triggerListenerGuardCondition) .error none
    check (o.teardown .joinListenerThread) .error "Failed to join std::thread"
    check (o.teardown .destroyListenerGuardCondition) .error none
  else pure ()

/-! ## The graph cache -/

/-- `graph_cache::initialize`. -/
def graphCacheInitialize (o : Outcomes) : Impl Unit := do
  make (o.setup .createDiscoveryPublisher) .error none fun handle ctx => { ctx with pub := handle }
  make (o.setup .createDiscoverySubscription) .error none
    fun handle ctx => { ctx with sub := handle }
  make (o.setup .createGraphGuardCondition) .badAlloc "failed to create graph guard condition"
    fun handle ctx => { ctx with graphGuardCondition := handle }

/-- `graph_cache::finalize`. -/
def graphCacheFinalize (o : Outcomes) : Impl Unit := do
  rescue (stopListenerThread o) fun _ => fail .error "failed to stop listener thread"
  whenHeld (·.graphGuardCondition) fun _ => do
    check (o.teardown .destroyGraphGuardCondition) .error
      "failed to destroy graph guard condition"
    modify fun ctx => { ctx with graphGuardCondition := none }
  whenHeld (·.sub) fun _ => do
    check (o.teardown .destroyDiscoverySubscription) .error
      "failed to destroy discovery subscriber"
    modify fun ctx => { ctx with sub := none }
  whenHeld (·.pub) fun _ => do
    check (o.teardown .destroyDiscoveryPublisher) .error "failed to destroy discovery publisher"
    modify fun ctx => { ctx with pub := none }

/-- `graph_cache::enable`. -/
def graphCacheEnable (o : Outcomes) : Impl Unit :=
  rescue (runListenerThread o) fun _ => fail .error "failed to start discovery listener thread"

/-- `graph_cache::on_node_created`. -/
def onNodeCreated (o : Outcomes) (name ns : String) : Impl Unit :=
  check (o.setup (.addNodeGraph name ns)) .error "failed to add node graph"

/-- `graph_cache::on_node_deleted`. -/
def onNodeDeleted (o : Outcomes) (name ns : String) : Impl Unit :=
  check (o.teardown (.removeNodeGraph name ns)) .error "failed to remove node graph"

/-! ## The participant -/

/-- `finalize_participant`. -/
def finalizeParticipant (o : Outcomes) : Impl Unit := do
  rescue (graphCacheFinalize o) fun _ => fail .error "failed to finalize graph cache"
  whenHeld (·.publisher) fun _ => do
    check (o.teardown .deletePublisherEntities) .error "failed to delete publisher's entities"
    check (o.teardown .deletePublisher) .error "failed to delete publisher"
    modify fun ctx => { ctx with publisher := none }
  whenHeld (·.subscriber) fun _ => do
    check (o.teardown .deleteSubscriberEntities) .error "failed to delete subscriber's entities"
    check (o.teardown .deleteSubscriber) .error "failed to delete subscriber"
    modify fun ctx => { ctx with subscriber := none }
  whenHeld (·.participant) fun participant => do
    check (o.teardown .getInstance) .error "failed to get domain participant factory"
    check (o.teardown .deleteParticipant) .error "failed to delete DomainParticipant"
    modify fun ctx =>
      { ctx with participant := none, participants := ctx.participants.erase participant }

/-- The user data of a participant: its first node and its enclave. -/
def nodeUserData (nodeName nodeNamespace enclave : String) : String :=
  "name=" ++ nodeName ++ ";namespace=" ++ nodeNamespace ++ ";securitycontext=" ++ enclave ++ ";"

/-- `initialize_participant`. -/
def initializeParticipant (lib : Library) (o : Outcomes) (nodeName nodeNamespace : String) :
    Impl Unit :=
  scopeExit (rescue (finalizeParticipant o) fun _ => modify fun ctx =>
      { ctx with errorMsg := some "failed to finalize participant on error" }) do
    check (o.setup .getInstance) .error "failed to get domain participant factory"
    check (o.setup .supportsOnRemote) .error none
    check (o.setup .getDefaultParticipantQos) .error
      "failed to get default domain participant qos"
    let userData := nodeUserData nodeName nodeNamespace (← get).enclave
    check (decide (userData.utf8ByteSize ≤ lib.userDataCapacity)) .error none
    make (o.setup (.createParticipant userData)) .error "failed to create DomainParticipant"
      fun handle ctx =>
        { ctx with participant := handle, participants := ctx.participants ++ handle.toList }
    check (o.setup .getDefaultPublisherQos) .error "failed to get default publisher qos"
    make (o.setup .createPublisher) .error "failed to create publisher"
      fun handle ctx => { ctx with publisher := handle }
    check (o.setup .finalizePublisherQos) .error "failed to finalize publisher qos"
    check (o.setup .getDefaultSubscriberQos) .error "failed to get default subscriber qos"
    make (o.setup .createSubscriber) .error "failed to create subscriber"
      fun handle ctx => { ctx with subscriber := handle }
    check (o.setup .finalizeSubscriberQos) .error "failedto finalize subscriber qos"
    rescue (graphCacheInitialize o) fun _ => fail .error "failed to initialize graph cache"

/-! ## Nodes -/

/-- `initialize_node`. -/
def initializeNode (lib : Library) (o : Outcomes) (nodeName nodeNamespace : String) :
    Impl Unit := do
  if (← get).nodeCount ≠ 0 then
    modify fun ctx => { ctx with nodeCount := ctx.nodeCount + 1 }
  else
    rescue (initializeParticipant lib o nodeName nodeNamespace) fun ret =>
      fail ret "failed to initialize DomainParticipant"
    -- The participant that was made for the node stays where it is.
    rescue (graphCacheEnable o) fun _ => throw .error
    modify fun ctx => { ctx with nodeCount := 1 }

/-- `finalize_node`. -/
def finalizeNode (o : Outcomes) : Impl Unit := do
  modify fun ctx => { ctx with nodeCount := ctx.nodeCount - 1 }
  if (← get).nodeCount ≠ 0 then pure () else finalizeParticipant o

/-- `rmw_node_t`. -/
structure Node where
  handle : Handle
  name : String
  ns : String
deriving DecidableEq, Repr

/-- A name that is not valid ends `rmw_create_node`. -/
def checkName (what : String) : Option String → Impl Unit
  | none => pure ()
  | some reason => fail .error (what ++ reason)

/-- `rmw_create_node`. An error stands for a null pointer. -/
def rmwCreateNode (lib : Library) (o : Outcomes) (name ns : String) : Impl Node := do
  checkName "invalid node name: " (lib.validateNodeName name)
  checkName "invalid node namespace: " (lib.validateNamespace ns)
  check (!(← get).isShutdown) .error "context is already shutdown"
  initializeNode lib o name ns
  scopeExit (rescue (finalizeNode o) fun _ => pure ()) do
    check (o.setup .allocateNode) .error "failed to allocate memory for node handle"
    let handle ← modifyGet fun ctx => (ctx.supply, { ctx with supply := ctx.supply + 1 })
    check (o.setup .allocateName) .error "failed to allocate memory for node name"
    check (o.setup .allocateNamespace) .error "failed to allocate memory for node namespace"
    rescue (onNodeCreated o name ns) fun _ => fail .error "failed to create node"
    return { handle, name, ns }

/-- `rmw_destroy_node`. -/
def rmwDestroyNode (o : Outcomes) (node : Node) : Impl Unit := do
  rescue (onNodeDeleted o node.name node.ns) fun _ =>
    fail .error "failed to update for node delete"
  rescue (finalizeNode o) fun _ => fail .error "failed to finalize node"

end Lifecycle

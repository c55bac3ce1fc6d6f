import Mathlib.Data.Finset.Basic
import Mathlib.Data.Finset.Filter
import RmwGurumdds.Exec.ScopeExit
import RmwGurumdds.Lifecycle.ContextImpl
import RmwGurumdds.Names.TopicNames

/-!
# Creating endpoints

`create_publisher`, `create_subscription`, `rmw_create_service`, and `rmw_create_client` make up to
three objects of DDS: a writer, a reader, and a read condition. Any of some fifteen calls may fail,
after which they return a null pointer. They leave in two ways: by a plain `return nullptr`, or by a
jump to the label `fail`, where what was made is deleted. The first two functions have no such
label.

Which calls succeed is told for each step, freely. Deletions succeed.
-/

namespace Endpoints

open Rmw Exec
open Lifecycle (Handle)

/-! ## State -/

/-- What is made of a participant here. -/
inductive Entity where
  | writer
  | reader
  | readCondition
deriving DecidableEq, Repr

/-- A participant: the names of its topics and its entities of each kind, whose handles are given
out in order. -/
structure Participant where
  topics : Finset String
  entities : Entity → Finset Handle
  supply : Handle
  fresh : ∀ entity, ∀ handle ∈ entities entity, handle < supply

/-- A participant with one more entity. -/
def Participant.add (p : Participant) (entity : Entity) : Participant where
  topics := p.topics
  entities := Function.update p.entities entity (insert p.supply (p.entities entity))
  supply := p.supply + 1
  fresh other handle mem := by
    by_cases same : other = entity
    · subst same
      rw [Function.update_self, Finset.mem_insert] at mem
      rcases mem with rfl | mem
      · exact Nat.lt_succ_self _
      · exact Nat.lt_succ_of_lt (p.fresh other handle mem)
    · rw [Function.update_of_ne same] at mem
      exact Nat.lt_succ_of_lt (p.fresh other handle mem)

/-- A participant without an entity. -/
def Participant.erase (p : Participant) (entity : Entity) (handle : Handle) : Participant where
  topics := p.topics
  entities := Function.update p.entities entity ((p.entities entity).erase handle)
  supply := p.supply
  fresh other handle' mem := by
    by_cases same : other = entity
    · subst same
      rw [Function.update_self] at mem
      exact p.fresh other handle' (Finset.mem_of_mem_erase mem)
    · rw [Function.update_of_ne same] at mem
      exact p.fresh other handle' mem

/-- How a function that creates something is left early. -/
inductive Exit where
  | returned
  | jumped
deriving DecidableEq, Repr

/-- The participant of a call, its local variables (the pointers to what it made, and the topics it
has a pointer to), and the error message the thread set last. -/
structure Creating where
  participant : Participant
  made : Entity → Option Handle
  topics : List String
  errorMsg : Option String

/-- The local variables start as null pointers. -/
def Creating.begin (p : Participant) : Creating where
  participant := p
  made _ := none
  topics := []
  errorMsg := none

/-- Code that creates endpoints and may leave early. -/
abbrev Create := EStateM Exit Creating

/-- An entity is made, and the pointer to it kept. -/
def Creating.create (entity : Entity) (s : Creating) : Creating :=
  { s with
    participant := s.participant.add entity
    made := Function.update s.made entity (some s.participant.supply) }

/-- An entity is deleted, if the pointer to it is not null. -/
def Creating.delete (entity : Entity) (s : Creating) : Creating :=
  match s.made entity with
  | none => s
  | some handle => { s with participant := s.participant.erase entity handle }

/-- A topic is created, and the pointer to it kept. -/
def Creating.createTopic (name : String) (s : Creating) : Creating :=
  { s with
    participant := { s.participant with topics := insert name s.participant.topics }
    topics := s.topics ++ [name] }

/-- A topic that is there is found, and the pointer to it kept. -/
def Creating.findTopic (name : String) (s : Creating) : Creating :=
  { s with topics := s.topics ++ [name] }

/-- The topics with a pointer are deleted. -/
def Creating.deleteTopics (s : Creating) : Creating :=
  { s with
    participant :=
      { s.participant with topics := s.participant.topics.filter (· ∉ s.topics) } }

/-! ## Steps -/

/-- What a topic carries. -/
inductive Payload where
  | message
  | request
  | response
deriving DecidableEq, Repr

/-- A call that may fail. -/
inductive Step where
  | typesupportC
  | typesupportCpp
  | typeName
  | metastring
  | createTypesupport (payload : Payload)
  | registerType (payload : Payload)
  | getDefaultTopicQos (payload : Payload)
  | createTopic (payload : Payload)
  | finalizeTopicQos (payload : Payload)
  | findTopic (payload : Payload)
  | datareaderQosFromProfile
  | getDefaultDatareaderQos
  | getDatareaderQos
  | createDatareader
  | finalizeDatareaderQos
  | createReadcondition
  | getDefaultDatawriterQosFirst
  | datawriterQosFromProfile
  | getDefaultDatawriterQos
  | getDatawriterQos
  | createDatawriter
  | finalizeDatawriterQos
  | allocateInfo
  | createDataSeq
  | createInfoSeq
  | createRawDataSizes
  | allocateHandle
  | allocateName
  | updateGraph
deriving DecidableEq, Repr

/-- A function is left, with a message if one is set. -/
def leave (exit : Exit) (msg : Option String) : Create Unit := do
  modify fun s => { s with errorMsg := msg.or s.errorMsg }
  throw exit

section Parts

variable (o : Step → Bool)

/-- A function is left when a step fails. -/
def check (step : Step) (exit : Exit) (msg : Option String) : Create Unit :=
  if o step then pure () else leave exit msg

/-- An entity is made. -/
def create (entity : Entity) : Create Unit := modify (·.create entity)

/-- A step that is only taken where another one fails, and nobody minds that. -/
def fallback (first : Step) (step : Step) (msg : String) : Create Unit :=
  if o first then pure () else check o step .returned msg

/-- The typesupport for C is asked for first, and the one for C++ if there is none. -/
def getTypesupportHandle : Create Unit :=
  fallback o .typesupportC .typesupportCpp "type support not from this implementation"

/-- `create_type_support_and_register`. -/
def createTypeSupportAndRegister : Create Unit := do
  check o (.createTypesupport .message) .returned "failed to create typesupport"
  check o (.registerType .message) .returned "failed to register type to domain participant"

/-- A typesupport of a service. -/
def registerTypesupport (payload : Payload) : Create Unit := do
  check o (.createTypesupport payload) .jumped "failed to create typesupport"
  check o (.registerType payload) .jumped "failed to register type"

/-- A topic is created, or found if there is one of the name. -/
def makeTopic (exit : Exit) (payload : Payload) (name : String) : Create Unit := do
  let s ← get
  if name ∈ s.participant.topics then do
    check o (.findTopic payload) exit "failed to find topic"
    modify (·.findTopic name)
  else do
    check o (.getDefaultTopicQos payload) exit "failed to get default topic qos"
    check o (.createTopic payload) exit "failed to create topic"
    modify (·.createTopic name)
    check o (.finalizeTopicQos payload) exit "failed to finalize topic qos"

/-- The QoS of a writer, from a profile or by default. -/
def datawriterQos (exit : Exit) : Create Unit := do
  fallback o .datawriterQosFromProfile .getDefaultDatawriterQos
    "failed to get default datawriter qos"
  check o .getDatawriterQos exit none

/-- The QoS of a reader, from a profile or by default. -/
def datareaderQos (exit : Exit) : Create Unit := do
  fallback o .datareaderQosFromProfile .getDefaultDatareaderQos
    "failed to get default datareader qos"
  check o .getDatareaderQos exit none

/-- A writer with its QoS. -/
def createDatawriter (exit : Exit) : Create Unit := do
  datawriterQos o exit
  check o .createDatawriter exit "failed to create datawriter"
  create .writer
  check o .finalizeDatawriterQos exit "failed to finalize datawriter qos"

/-- A reader with its QoS, and a read condition of it. -/
def createDatareader (exit : Exit) : Create Unit := do
  datareaderQos o exit
  check o .createDatareader exit "failed to create datareader"
  create .reader
  check o .finalizeDatareaderQos exit "failed to finalize datareader qos"
  check o .createReadcondition exit "failed to create read condition"
  create .readCondition

/-- The sequences that samples are taken into. -/
def createSequences : Create Unit := do
  check o .createDataSeq .returned "failed to allocate data_seq"
  check o .createInfoSeq .returned "failed to allocate info_seq"
  check o .createRawDataSizes .returned "failed to allocate raw_data_sizes"

/-! ## Publishers and subscriptions -/

/-- What `create_publisher` and `create_subscription` start with. -/
def beginTopic (topicName : String) (avoidRosNamespaceConventions : Bool) : Create Unit := do
  getTypesupportHandle o
  check o .typeName .returned none
  check o .metastring .returned none
  createTypeSupportAndRegister o
  makeTopic o .returned .message
    (Names.createTopicName Names.rosTopicPrefix topicName "" avoidRosNamespaceConventions)

/-- `create_publisher`. -/
def createPublisher (topicName : String) (avoidRosNamespaceConventions internal : Bool) :
    Create Unit := do
  beginTopic o topicName avoidRosNamespaceConventions
  createDatawriter o .returned
  check o .allocateInfo .returned "failed to allocate PublisherInfo"
  check o .allocateHandle .returned "failed to allocate publisher"
  check o .allocateName .returned none
  if internal then pure () else check o .updateGraph .returned none

/-- `create_subscription`. -/
def createSubscription (topicName : String) (avoidRosNamespaceConventions internal : Bool) :
    Create Unit := do
  beginTopic o topicName avoidRosNamespaceConventions
  createDatareader o .returned
  check o .allocateInfo .returned "failed to allocate SubscriberInfo"
  createSequences o
  check o .allocateHandle .returned "failed to allocate subscription"
  check o .allocateName .returned "failed to allocate memory for topic name"
  if internal then pure ()
  else check o .updateGraph .returned "failed to update graph for subscriber"

/-! ## Services and clients -/

/-- What `rmw_create_service` and `rmw_create_client` start with. -/
def beginCall (serviceName : String) (avoidRosNamespaceConventions : Bool) : Create Unit := do
  getTypesupportHandle o
  check o .typeName .returned "failed to create type name"
  check o .metastring .returned "failed to create metastring"
  registerTypesupport o .request
  registerTypesupport o .response
  makeTopic o .jumped .request (Names.createTopicName Names.rosServiceRequesterPrefix serviceName
    "Request" avoidRosNamespaceConventions)
  makeTopic o .jumped .response (Names.createTopicName Names.rosServiceResponsePrefix serviceName
    "Reply" avoidRosNamespaceConventions)

/-- The body of `rmw_create_service`. -/
def createService (serviceName : String) (avoidRosNamespaceConventions : Bool) : Create Unit := do
  beginCall o serviceName avoidRosNamespaceConventions
  createDatareader o .jumped
  -- The default is asked for before the profile, too.
  check o .getDefaultDatawriterQosFirst .returned "failed to get default datawriter qos"
  createDatawriter o .jumped
  check o .allocateInfo .jumped "failed to allocate ServiceInfo"
  createSequences o
  check o .allocateHandle .jumped "failed to allocate memory for service"
  check o .allocateName .jumped "failed to allocate memory for service name"
  check o .updateGraph .jumped none

/-- The body of `rmw_create_client`. -/
def createClient (serviceName : String) (avoidRosNamespaceConventions : Bool) : Create Unit := do
  beginCall o serviceName avoidRosNamespaceConventions
  createDatawriter o .jumped
  createDatareader o .jumped
  check o .allocateInfo .jumped "failed to allocate ClientInfo"
  createSequences o
  check o .allocateHandle .jumped "failed to allocate memory for client"
  check o .allocateName .jumped "failed to allocate memory for client name"
  check o .updateGraph .jumped none

end Parts

/-- A reader is deleted after its read condition. -/
def Creating.deleteReader (s : Creating) : Creating :=
  match s.made .reader with
  | none => s
  | some _ => (s.delete .readCondition).delete .reader

/-- The label `fail` is where a jump leads. -/
def withFail (cleanup : Creating → Creating) (body : Create Unit) : Create Unit :=
  rescue body fun
    | .returned => throw .returned
    | .jumped => do
      modify cleanup
      throw .jumped

/-- `rmw_create_service`. -/
def rmwCreateService (o : Step → Bool) (serviceName : String)
    (avoidRosNamespaceConventions : Bool) : Create Unit :=
  withFail (fun s => (s.deleteReader.delete .writer).deleteTopics)
    (createService o serviceName avoidRosNamespaceConventions)

/-- `rmw_create_client`. -/
def rmwCreateClient (o : Step → Bool) (serviceName : String)
    (avoidRosNamespaceConventions : Bool) : Create Unit :=
  withFail (fun s => (s.delete .writer).deleteReader.deleteTopics)
    (createClient o serviceName avoidRosNamespaceConventions)

/-- Whether a handle is returned rather than a null pointer, and the participant afterwards. -/
def outcome (m : Create Unit) (p : Participant) : Bool × Participant :=
  match m (.begin p) with
  | .ok _ s => (true, s.participant)
  | .error _ s => (false, s.participant)

end Endpoints

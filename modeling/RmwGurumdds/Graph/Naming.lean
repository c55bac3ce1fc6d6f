import RmwGurumdds.Graph.Disclosure
import RmwGurumdds.Names.TopicNames
import RmwGurumdds.Names.TypeNames

/-!
# Endpoints by name

A user asks for an endpoint of a kind on a ROS name, with an interface type. The functions that
create it make DDS topics and DDS types of the two, each its own way for messages, requests and
replies. Whoever asks the graph later for names and types passes two functions that take them apart
again: one for topics, that answers with nothing where a topic is not of the kind asked for, and one
for types.

Such a pair finds the topics of some kinds, under their names and with their types, and no others
(`Demangling.Finds`).
-/

namespace Graph

open Rmw Names

/-! ## Interface types -/

/-- An interface type: its package and its folder, and its name in them. -/
structure Interface where
  package : String
  folder : String
  name : String
  packageName : PackageName package
  folderName : FolderName folder

/-- The members of the type, or of a part of it, in a language. -/
def Interface.members (type : Interface) (part : String) (identifier : TypesupportIdentifier) :
    MessageNames where
  messageNamespace := messageNamespace type.package type.folder identifier
  messageName := type.name ++ part

/-- The members of a service type. -/
def Interface.serviceMembers (type : Interface) (identifier : TypesupportIdentifier) :
    ServiceNames where
  requestMembers := some (type.members "_Request" identifier)
  responseMembers := some (type.members "_Response" identifier)

/-- The DDS type of what goes over a topic of a kind. -/
def Interface.typeOn (type : Interface) (identifier : TypesupportIdentifier) : TopicKind → String
  | .topic => createTypeName (some (type.members "" identifier)) identifier
  | .request => (createServiceTypeName (some (type.serviceMembers identifier)) identifier).1
  | .reply => (createServiceTypeName (some (type.serviceMembers identifier)) identifier).2

section Types

variable {type : Interface} {identifier : TypesupportIdentifier}

end Types

/-! ## Endpoints -/

/-- The kinds of endpoints. -/
inductive EndpointKind where
  | publisher
  | subscription
  | service
  | client
deriving DecidableEq, Repr

/-- What an endpoint of a kind reads, or writes. -/
def EndpointKind.side : EndpointKind → (isReader : Bool) → Option TopicKind
  | .publisher, false => some .topic
  | .publisher, true => none
  | .subscription, false => none
  | .subscription, true => some .topic
  | .service, false => some .reply
  | .service, true => some .request
  | .client, false => some .request
  | .client, true => some .reply

/-- The topic and the type of an entry. -/
def EntityInfo.label (info : EntityInfo) : String × String := (info.topicName, info.typeName)

/-- The topic and the type of an endpoint's reader, or of its writer. -/
def Endpoint.label (e : Endpoint) (isReader : Bool) : Option (String × String) :=
  (e.entity isReader).map fun entity => (entity.1.topicName, entity.1.typeName)

/-- An endpoint of a kind on a ROS name, with an interface type: its reader and its writer are set
up as the function that creates such an endpoint does. -/
structure Endpoint.On (e : Endpoint) (kind : EndpointKind) (name : String) (type : Interface) :
    Prop where
  absolute : Absolute name
  label : ∃ identifier : TypesupportIdentifier, identifier ≠ .other ∧
    ∀ isReader, e.label isReader =
      (kind.side isReader).map fun what => (what.mangle name, type.typeOn identifier what)

section Labels

variable {e : Endpoint} {own : Gid} {isReader : Bool} {info : EntityInfo} {gid : Gid}

@[simp] theorem EntityInfo.label_disclosed : info.disclosed.label = info.label := rfl

/-- What is entered has the topic and the type. -/
theorem Endpoint.label_of_info (told : e.info own isReader = some info) :
    e.label isReader = some info.label := by
  obtain ⟨entity, typeHash, qos, side, -, rfl⟩ := Endpoint.info_eq_some.mp told
  rw [Endpoint.label, side]
  rfl

end Labels

/-! ## Demangling -/

/-- The two functions that a query passes. -/
structure Demangling where
  topic : String → String
  type : String → String

/-- `identity_demangle`, for both. -/
def Demangling.identity : Demangling := ⟨id, id⟩

/-- Those that `rmw_get_topic_names_and_types` passes. -/
def Demangling.topics : Demangling := ⟨demangleRosTopicFromTopic, demangleIfRosType⟩

/-- Those that `rmw_get_service_names_and_types` passes. -/
def Demangling.services : Demangling := ⟨demangleServiceFromTopic, demangleServiceTypeOnly⟩

/-- Those that `rmw_get_service_names_and_types_by_node` passes. -/
def Demangling.requests : Demangling := ⟨demangleServiceRequestFromTopic, demangleServiceTypeOnly⟩

/-- An entry is found by a query as this name with this type. -/
def Demangling.Found (d : Demangling) (label : String × String) (name type : String) : Prop :=
  d.topic label.1 = name ∧ d.type label.2 = type

section Queries

variable {d : Demangling} {kinds : TopicKind → Prop} {e : Endpoint} {kind : EndpointKind}
  {name : String} {type : Interface}

end Queries

end Graph

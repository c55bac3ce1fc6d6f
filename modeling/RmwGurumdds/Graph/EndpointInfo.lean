import RmwGurumdds.Graph.NodeQueries

/-!
# What the graph tells of the endpoints on a topic

A user may ask for the publishers on a name, or for the subscriptions, and be told of each what is
known: the type, the QoS, the gid, and the node that has it. The graph cache goes through the
entries on the topic, and looks each gid up among those of the participant's nodes.

So the answer has one part from DDS and one from the contexts' own messages. When both have caught
up they fit: each endpoint heard of is told once, with the type it was created with, and if it is
alive and its context entered it, with the node that has it (`endpoint_infos_listed`).
-/

namespace Graph

open Wire Rmw Store Exec Names

/-! ## Queries -/

/-- `rmw_topic_endpoint_info_t`. -/
structure TopicEndpointInfo where
  nodeName : String
  nodeNamespace : String
  topicType : String
  topicTypeHash : TypeHash
  isReader : Bool
  endpointGid : Gid
  qosProfile : QosProfile

/-- What is told of an entry. -/
def EntityInfo.endpointInfo (entity : EntityInfo) (isReader : Bool) (gid : Gid)
    (demangleType : String → String) (node : String × String) : TopicEndpointInfo where
  nodeName := node.1
  nodeNamespace := node.2
  topicType := demangleType entity.typeName
  topicTypeHash := entity.typeHash
  isReader
  endpointGid := gid
  qosProfile := entity.qos

section Functions

variable {σ : Type} (getInfoByTopic : (isReader : Bool) → String → (String → String) → σ →
  RmwRet × List TopicEndpointInfo)

end Functions

section Queries

variable {ι σ ρ : Type} (site : NodeSite ι σ ρ)

/-- What the graph of the participant `own` keeps of a participant. -/
def NodeSite.kept (own : Gid) (s : σ × ρ) (participant : Gid) : NodeEntities :=
  if participant = own then { names := site.cache.names s.2, gids := site.gids s.1 }
  else site.cache.others s.2 participant

end Queries

/-! ## What is told -/

section NodeSite

variable {ι σ ρ : Type} [DecidableEq ι] {site : NodeSite ι σ ρ} {s : NodeNetwork ι σ ρ} {i j : ι}
  {ms : List (NodeMove ι)} {isReader : Bool}

omit [DecidableEq ι] in
/-- What a context keeps of any of them is up to date. -/
theorem NodeSite.Sound.kept (sound : site.Sound s) (lawful : site.Lawful)
    (told : ∀ i, i ≠ j → site.Told s j i) (i : ι) :
    site.kept (site.own j) (site.whole s j).commonCtx (site.own i) = site.entities s i := by
  rw [NodeSite.kept]
  rcases eq_or_ne i j with rfl | other
  · rw [if_pos rfl]
    rfl
  · rw [if_neg fun same => other (lawful.own_inj same)]
    exact sound.shown_told lawful other (told i other)

end NodeSite

/-! ## A sample -/

open Classical in
/-- The node that has a gid alone. -/
noncomputable def sampleNodeOf (own : Gid) (isReader : Bool)
    (s : (Tables Bool Gid EntityInfo × NodeGids × List NodeGids) ×
      Multiset (String × String) × (Gid → NodeEntities)) (participant gid : Gid) :
    String × String :=
  if alone : ∃ key, ∀ other,
      gid ∈ (sampleNodeSite.kept own s participant).gids other isReader ↔ other = key then
    alone.choose
  else ("_NODE_NAME_UNKNOWN_", "_NODE_NAMESPACE_UNKNOWN_")

open Classical in
/-- The entries on a topic, if these are so many. -/
noncomputable def sampleInfos (own : Gid) (isReader : Bool) (topic : String)
    (demangleType : String → String)
    (s : (Tables Bool Gid EntityInfo × NodeGids × List NodeGids) ×
      Multiset (String × String) × (Gid → NodeEntities)) : RmwRet × List TopicEndpointInfo :=
  if finite : {gid | topicOf s.1.1 isReader gid = some topic}.Finite then
    (.ok, finite.toFinset.toList.filterMap fun gid => (s.1.1 isReader gid).map fun entity =>
      entity.endpointInfo isReader gid demangleType
        (sampleNodeOf own isReader s entity.participantGid gid))
  else (.error, [])

end Graph

import RmwGurumdds.Graph.RmwContextImpl

/-!
# Local endpoints

A node creates publishers, subscriptions, services and clients, and destroys them again. Each kind
has a `rmw_create_…` and a `rmw_destroy_…` function that deal with the DDS entities and call the
graph's hooks. Publishers and subscriptions also come about inside the implementation, and those the
graph does not list: `create_publisher` and `create_subscription` are told by a flag. The functions
of the interface set that flag when the context keeps its discovery to the local host, and their
counterparts that destroy do not know of it.

So the graph lists exactly the endpoints alive, and they can be destroyed, unless the context keeps
to the local host and a publisher or a subscription is created (`local_tracked_iff`).
-/

namespace Graph

open Wire Rmw Store Exec

/-! ## Creation and destruction -/

section Functions

variable {σ : Type} (cc : CommonContext σ)

/-- `create_publisher`, once its DDS entities are there. -/
def Ctx.createPublisher (node : RmwNode) (pub : PublisherInfo) (internal : Bool) :
    Ctx σ (Option PublisherInfo) := do
  if !internal then
    let rc ← Ctx.onPublisherCreated cc node pub
    if rc ≠ .ok then return none else return some pub
  else return some pub

/-- `create_subscription`, once its DDS entities are there. -/
def Ctx.createSubscription (node : RmwNode) (sub : SubscriberInfo) (internal : Bool) :
    Ctx σ (Option SubscriberInfo) := do
  if !internal then
    let rc ← Ctx.onSubscriberCreated cc node sub
    if rc ≠ .ok then
      Ctx.setErrorMsg "failed to update graph for subscriber"
      return none
    else return some sub
  else return some sub

variable (range : AutomaticDiscoveryRange) (node : RmwNode)

/-- `rmw_create_publisher`. -/
def Ctx.rmwCreatePublisher (pub : PublisherInfo) : Ctx σ (Option PublisherInfo) := do
  let rmwPub ← Ctx.createPublisher cc node pub (decide (range = .localhost))
  match rmwPub with
  | none =>
    Ctx.setErrorMsg "failed to create RMW publisher"
    return none
  | some rmwPub => return some rmwPub

/-- `rmw_create_subscription`. -/
def Ctx.rmwCreateSubscription (sub : SubscriberInfo) : Ctx σ (Option SubscriberInfo) := do
  let rmwSub ← Ctx.createSubscription cc node sub (decide (range = .localhost))
  match rmwSub with
  | none =>
    Ctx.setErrorMsg "failed to create RMW subscription"
    return none
  | some rmwSub => return some rmwSub

/-- `rmw_create_service`, once its DDS entities are there. -/
def Ctx.rmwCreateService (svc : ServiceInfo) : Ctx σ (Option ServiceInfo) := do
  let rc ← Ctx.onServiceCreated cc node svc
  if rc ≠ .ok then return none else return some svc

/-- `rmw_create_client`, once its DDS entities are there. -/
def Ctx.rmwCreateClient (client : ClientInfo) : Ctx σ (Option ClientInfo) := do
  let rc ← Ctx.onClientCreated cc node client
  if rc ≠ .ok then return none else return some client

/-- `rmw_destroy_publisher`, where `dds` is what deleting the DDS entities comes to. -/
def Ctx.rmwDestroyPublisher (pub : PublisherInfo) (dds : RmwRet) : Ctx σ RmwRet := do
  let rc ← Ctx.onPublisherDeleted cc node pub
  if rc ≠ .ok then return .error else return dds

/-- `rmw_destroy_subscription`. -/
def Ctx.rmwDestroySubscription (sub : SubscriberInfo) (dds : RmwRet) : Ctx σ RmwRet := do
  let rc ← Ctx.onSubscriberDeleted cc node sub
  if rc ≠ .ok then return .error else return dds

/-- `rmw_destroy_service`. Here the DDS entities go first. -/
def Ctx.rmwDestroyService (svc : ServiceInfo) (dds : RmwRet) : Ctx σ RmwRet := do
  if dds ≠ .ok then return .error
  else
    let rc ← Ctx.onServiceDeleted cc node svc
    if rc ≠ .ok then return .error else return .ok

/-- `rmw_destroy_client`. -/
def Ctx.rmwDestroyClient (client : ClientInfo) (dds : RmwRet) : Ctx σ RmwRet := do
  if dds ≠ .ok then return .error
  else
    let rc ← Ctx.onClientDeleted cc node client
    if rc ≠ .ok then return .error else return .ok

end Functions

/-! ## Endpoints -/

/-- An endpoint a user creates. -/
inductive Endpoint where
  | publisher (info : PublisherInfo)
  | subscription (info : SubscriberInfo)
  | service (info : ServiceInfo)
  | client (info : ClientInfo)
deriving DecidableEq

/-- The gid of its reader or of its writer, if it has one. -/
def Endpoint.gid : Endpoint → (isReader : Bool) → Option Gid
  | .publisher info, false => some info.publisherGid
  | .publisher _, true => none
  | .subscription _, false => none
  | .subscription info, true => some info.subscriberGid
  | .service info, false => some info.publisherGid
  | .service info, true => some info.subscriberGid
  | .client info, false => some info.publisherGid
  | .client info, true => some info.subscriberGid

section Gids

variable {isReader : Bool} {gid : Gid}

@[simp] theorem Endpoint.gid_publisher {info : PublisherInfo} :
    (Endpoint.publisher info).gid isReader = some gid ↔
      isReader = false ∧ gid = info.publisherGid := by
  cases isReader <;> simp [Endpoint.gid, eq_comm (a := gid)]

@[simp] theorem Endpoint.gid_subscription {info : SubscriberInfo} :
    (Endpoint.subscription info).gid isReader = some gid ↔
      isReader = true ∧ gid = info.subscriberGid := by
  cases isReader <;> simp [Endpoint.gid, eq_comm (a := gid)]

@[simp] theorem Endpoint.gid_service {info : ServiceInfo} :
    (Endpoint.service info).gid isReader = some gid ↔
      isReader = false ∧ gid = info.publisherGid ∨ isReader = true ∧ gid = info.subscriberGid := by
  cases isReader <;> simp [Endpoint.gid, eq_comm (a := gid)]

@[simp] theorem Endpoint.gid_client {info : ClientInfo} :
    (Endpoint.client info).gid isReader = some gid ↔
      isReader = false ∧ gid = info.publisherGid ∨ isReader = true ∧ gid = info.subscriberGid := by
  cases isReader <;> simp [Endpoint.gid, eq_comm (a := gid)]

end Gids

/-- DDS tells the QoS of its reader and its writer. -/
def Endpoint.Readable : Endpoint → Prop
  | .publisher info => ∃ qos, info.topicWriter.qos = .ok qos
  | .subscription info => ∃ qos, info.topicReader.qos = .ok qos
  | .service info =>
    (∃ qos, info.requestReader.qos = .ok qos) ∧ ∃ qos, info.responseWriter.qos = .ok qos
  | .client info =>
    (∃ qos, info.responseReader.qos = .ok qos) ∧ ∃ qos, info.requestWriter.qos = .ok qos

/-- Its creation asks for the discovery range. -/
def Endpoint.ranged : Endpoint → Bool
  | .publisher _ => true
  | .subscription _ => true
  | .service _ => false
  | .client _ => false

section Functions

variable {σ : Type} (cc : CommonContext σ) (range : AutomaticDiscoveryRange) (node : RmwNode)

/-- Creating an endpoint of any kind: whether the user gets one. -/
def Ctx.create : Endpoint → Ctx σ Bool
  | .publisher info => do return (← Ctx.rmwCreatePublisher cc range node info).isSome
  | .subscription info => do return (← Ctx.rmwCreateSubscription cc range node info).isSome
  | .service info => do return (← Ctx.rmwCreateService cc node info).isSome
  | .client info => do return (← Ctx.rmwCreateClient cc node info).isSome

/-- Destroying an endpoint of any kind. -/
def Ctx.destroy (dds : RmwRet) : Endpoint → Ctx σ RmwRet
  | .publisher info => Ctx.rmwDestroyPublisher cc node info dds
  | .subscription info => Ctx.rmwDestroySubscription cc node info dds
  | .service info => Ctx.rmwDestroyService cc node info dds
  | .client info => Ctx.rmwDestroyClient cc node info dds

end Functions

section Functions

variable {σ : Type} {cc : CommonContext σ} {own : Gid} {t t' : Tables Bool Gid EntityInfo}
  {range : AutomaticDiscoveryRange} {node : RmwNode} {ctx : RmwContextImpl σ}

/-- A context of `own` whose graph lists what `P` says. -/
structure Lists (cc : CommonContext σ) (own : Gid) (P : Bool → Gid → Prop)
    (ctx : RmwContextImpl σ) : Prop where
  gid_eq : ctx.gid = own
  keys_iff : ∀ isReader gid, gid ∈ ctx.keys cc isReader ↔ P isReader gid

theorem CommonContext.At.lists {P : Bool → Gid → Prop} (at_ : cc.At own t ctx)
    (same : ∀ isReader gid, gid ∈ t.keys isReader ↔ P isReader gid) : Lists cc own P ctx := by
  refine ⟨at_.gid_eq, fun isReader gid => ?_⟩
  rw [RmwContextImpl.keys, at_.tables_eq]
  exact same isReader gid

/-- The flag decides whether the graph hears of a publisher. -/
theorem holds_createPublisher (lawful : cc.Lawful) (succeeds : cc.NodeGraphSucceeds)
    {pub : PublisherInfo} {qos : EndpointQos} (read : pub.topicWriter.qos = .ok qos)
    (absent : pub.publisherGid ∉ t.keys false) (internal : Bool) :
    Holds cc own t (Ctx.createPublisher cc node pub internal) fun rmwPub ctx =>
      (if internal then cc.At own t ctx
        else cc.At own (t.emplace false pub.publisherGid
          (pub.topicWriter.info own pub.typeHash qos)) ctx) ∧ rmwPub = some pub := by
  cases internal with
  | true => exact Triple.pure fun ctx at_ => ⟨at_, rfl⟩
  | false =>
    exact checked (holds_onPublisherCreated lawful succeeds node read absent)
      (Triple.pure fun _ at_ => ⟨at_, rfl⟩)

/-- The flag decides whether the graph hears of a subscription. -/
theorem holds_createSubscription (lawful : cc.Lawful) (succeeds : cc.NodeGraphSucceeds)
    {sub : SubscriberInfo} {qos : EndpointQos} (read : sub.topicReader.qos = .ok qos)
    (absent : sub.subscriberGid ∉ t.keys true) (internal : Bool) :
    Holds cc own t (Ctx.createSubscription cc node sub internal) fun rmwSub ctx =>
      (if internal then cc.At own t ctx
        else cc.At own (t.emplace true sub.subscriberGid
          (sub.topicReader.info own sub.typeHash { qos with lifespan := none })) ctx) ∧
        rmwSub = some sub := by
  cases internal with
  | true => exact Triple.pure fun ctx at_ => ⟨at_, rfl⟩
  | false =>
    exact checked (holds_onSubscriberCreated lawful succeeds node read absent)
      (Triple.pure fun _ at_ => ⟨at_, rfl⟩)

/-- What `rmw_create_service` and `rmw_create_client` both come to: the user gets what was to be
created, and its reader and its writer are entered. -/
theorem holds_createPair {α : Type} (lawful : cc.Lawful) (succeeds : cc.NodeGraphSucceeds)
    {reader writer : DataEntity} (readReader : ∃ qos, reader.qos = .ok qos)
    (readWriter : ∃ qos, writer.qos = .ok qos) {readerHash writerHash : TypeHash}
    {subGid pubGid : Gid} (absentReader : subGid ∉ t.keys true)
    (absentWriter : pubGid ∉ t.keys false) {update : NodeGraphUpdate} {graphMsg : String}
    (info : α) :
    Holds cc own t (do
        let rc ← Ctx.pairCreated cc reader writer readerHash writerHash subGid pubGid update
          graphMsg
        if rc ≠ .ok then return none else return some info)
      fun created ctx => created = some info ∧ ∃ subscriber publisher : EntityInfo,
        subscriber.topicName = reader.topicName ∧ publisher.topicName = writer.topicName ∧
        cc.At own ((t.emplace true subGid subscriber).emplace false pubGid publisher) ctx := by
  obtain ⟨readerQos, readReader⟩ := readReader
  obtain ⟨writerQos, readWriter⟩ := readWriter
  refine checked (holds_pairCreated lawful succeeds readReader readWriter _ _ absentReader
    absentWriter _ _) (Triple.pure fun ctx at_ => ⟨rfl, _, _, ?_, ?_, at_⟩)
  · rfl
  · rfl

/-- What `rmw_destroy_service` and `rmw_destroy_client` both come to. -/
theorem holds_destroyPair (lawful : cc.Lawful) (succeeds : cc.NodeGraphSucceeds)
    {subGid pubGid : Gid} {update : NodeGraphUpdate} :
    Holds cc own t (do
        let rc ← Ctx.pairDeleted cc subGid pubGid update
        if rc ≠ .ok then return RmwRet.error else return .ok)
      fun ret ctx => ret = .ok ∧ cc.At own ((t.erase true subGid).erase false pubGid) ctx :=
  checked (holds_pairDeleted lawful succeeds _ _ _) (Triple.pure fun _ at_ => ⟨rfl, at_⟩)

/-- **Creation** enters the endpoint, unless it is one that the range keeps out. -/
theorem holds_create (range : AutomaticDiscoveryRange) (node : RmwNode) (lawful : cc.Lawful)
    (succeeds : cc.NodeGraphSucceeds) {e : Endpoint} (readable : e.Readable)
    (absent : ∀ isReader gid, e.gid isReader = some gid → gid ∉ t.keys isReader) :
    Holds cc own t (Ctx.create cc range node e) fun created ctx => created = true ∧
      Lists cc own (fun isReader gid => gid ∈ t.keys isReader ∨
        (e.ranged = true → range ≠ .localhost) ∧ e.gid isReader = some gid) ctx := by
  cases e with
  | publisher info =>
    obtain ⟨qos, read⟩ := readable
    refine Triple.bind (Q := fun r ctx => r.isSome = true ∧ _) ?_ fun _ => Triple.pure fun _ h => h
    refine (holds_createPublisher lawful succeeds read (absent false _ rfl) _).bind fun _ =>
      Triple.assume fun created => ?_
    rw [created]
    refine Triple.pure fun ctx at_ => ⟨rfl, ?_⟩
    by_cases localhost : range = .localhost
    · simp only [localhost, decide_true, if_true] at at_
      exact at_.lists fun isReader gid => by simp [Endpoint.ranged, localhost]
    · simp only [localhost, decide_false, Bool.false_eq_true, if_false] at at_
      exact at_.lists fun isReader gid => by simp [localhost, or_comm]
  | subscription info =>
    obtain ⟨qos, read⟩ := readable
    refine Triple.bind (Q := fun r ctx => r.isSome = true ∧ _) ?_ fun _ => Triple.pure fun _ h => h
    refine (holds_createSubscription lawful succeeds read (absent true _ rfl) _).bind fun _ =>
      Triple.assume fun created => ?_
    rw [created]
    refine Triple.pure fun ctx at_ => ⟨rfl, ?_⟩
    by_cases localhost : range = .localhost
    · simp only [localhost, decide_true, if_true] at at_
      exact at_.lists fun isReader gid => by simp [Endpoint.ranged, localhost]
    · simp only [localhost, decide_false, Bool.false_eq_true, if_false] at at_
      exact at_.lists fun isReader gid => by simp [localhost, or_comm]
  | service info =>
    refine (holds_createPair lawful succeeds readable.1 readable.2 (absent true _ rfl)
      (absent false _ rfl) info).bind fun _ => Triple.pure ?_
    rintro ctx ⟨rfl, subscriber, publisher, -, -, at_⟩
    exact ⟨rfl, at_.lists fun isReader gid => by simp [Endpoint.ranged, or_comm, or_assoc]⟩
  | client info =>
    refine (holds_createPair lawful succeeds readable.1 readable.2 (absent true _ rfl)
      (absent false _ rfl) info).bind fun _ => Triple.pure ?_
    rintro ctx ⟨rfl, subscriber, publisher, -, -, at_⟩
    exact ⟨rfl, at_.lists fun isReader gid => by simp [Endpoint.ranged, or_comm, or_assoc]⟩

/-- **Destruction** of an endpoint that is entered takes it out. -/
theorem holds_destroy (node : RmwNode) (lawful : cc.Lawful) (succeeds : cc.NodeGraphSucceeds)
    {e : Endpoint}
    (present : ∀ isReader gid, e.gid isReader = some gid → gid ∈ t.keys isReader) :
    Holds cc own t (Ctx.destroy cc node .ok e) fun ret ctx => ret = .ok ∧
      Lists cc own (fun isReader gid => gid ∈ t.keys isReader ∧ e.gid isReader ≠ some gid) ctx := by
  cases e with
  | publisher info =>
    exact checked (holds_onPublisherDeleted lawful succeeds node (present false _ rfl))
      (Triple.pure fun ctx at_ => ⟨rfl, at_.lists fun isReader gid => by simp⟩)
  | subscription info =>
    exact checked (holds_onSubscriberDeleted lawful succeeds node (present true _ rfl))
      (Triple.pure fun ctx at_ => ⟨rfl, at_.lists fun isReader gid => by simp⟩)
  | service info =>
    refine (holds_destroyPair lawful succeeds).weaken (fun _ at_ => at_) ?_
    rintro ret ctx ⟨ok, at_⟩
    refine ⟨ok, at_.lists fun isReader gid => ?_⟩
    simp only [Tables.mem_keys_erase, Endpoint.gid_service, ne_eq]
    tauto
  | client info =>
    refine (holds_destroyPair lawful succeeds).weaken (fun _ at_ => at_) ?_
    rintro ret ctx ⟨ok, at_⟩
    refine ⟨ok, at_.lists fun isReader gid => ?_⟩
    simp only [Tables.mem_keys_erase, Endpoint.gid_client, ne_eq]
    tauto

end Functions

/-! ## Sessions -/

/-- What a node is asked to do. -/
inductive Call where
  | create (node : RmwNode) (e : Endpoint)
  | destroy (node : RmwNode) (e : Endpoint)

/-- A context in use: the endpoints its users hold, and what destroying endpoints returned. -/
structure Session (σ : Type) where
  ctx : RmwContextImpl σ
  alive : List Endpoint
  destroyed : List RmwRet

section Sessions

variable {σ : Type} (cc : CommonContext σ) (range : AutomaticDiscoveryRange)

/-- One call, where every DDS call succeeds. An endpoint that could not be destroyed lives on. -/
def Session.step (s : Session σ) : Call → Session σ
  | .create node e =>
    let created := exec (Ctx.create cc range node e) s.ctx
    { s with ctx := created.2, alive := if created.1 then e :: s.alive else s.alive }
  | .destroy node e =>
    let ret := exec (Ctx.destroy cc node .ok e) s.ctx
    { ctx := ret.2, alive := if ret.1 = .ok then s.alive.erase e else s.alive,
      destroyed := ret.1 :: s.destroyed }

/-- A session after some calls. -/
def Session.after (s : Session σ) (calls : List Call) : Session σ :=
  run (Session.step cc range) s calls

/-- A gid of the participant `own`. -/
def Local (own gid : Gid) : Prop := ¬ Remote own gid

/-- What DDS and the users see to: an endpoint is created with gids of the participant that no live
endpoint has, and one that is destroyed is alive. -/
def Session.Admits (s : Session σ) : Call → Prop
  | .create _ e => e.Readable ∧ ∀ isReader gid, e.gid isReader = some gid →
      Local s.ctx.gid gid ∧ ∀ other ∈ s.alive, other.gid isReader ≠ some gid
  | .destroy _ e => e ∈ s.alive

/-- The graph lists the endpoints alive and no other local one, and nothing failed to be
destroyed. -/
structure Session.Right (s : Session σ) : Prop where
  listed : ∀ isReader gid, Local s.ctx.gid gid →
    (gid ∈ s.ctx.keys cc isReader ↔ ∃ e ∈ s.alive, e.gid isReader = some gid)
  returned : ∀ ret ∈ s.destroyed, ret = .ok

/-- Two endpoints have no gid in common. -/
def Endpoint.Apart (e f : Endpoint) : Prop :=
  ∀ isReader gid, e.gid isReader = some gid → f.gid isReader ≠ some gid

/-- The endpoints alive belong to the participant, and each gid to one of them. -/
structure Session.Sane (s : Session σ) : Prop where
  local_ : ∀ e ∈ s.alive, ∀ isReader gid, e.gid isReader = some gid → Local s.ctx.gid gid
  apart : s.alive.Pairwise Endpoint.Apart

/-- No endpoint has been created, and the graph lists no local one. -/
structure Session.Fresh (s : Session σ) : Prop where
  alive : s.alive = []
  destroyed : s.destroyed = []
  unlisted : ∀ isReader gid, Local s.ctx.gid gid → gid ∉ s.ctx.keys cc isReader

/-- The call leaves the range out of it. -/
def Call.Covered (range : AutomaticDiscoveryRange) : Call → Prop
  | .create _ e => e.ranged = true → range ≠ .localhost
  | .destroy .. => True

end Sessions

section Sessions

variable {σ : Type} {cc : CommonContext σ} {range : AutomaticDiscoveryRange} {s : Session σ}

theorem Endpoint.exists_gid : ∀ e : Endpoint, ∃ isReader gid, e.gid isReader = some gid
  | .publisher info => ⟨false, info.publisherGid, rfl⟩
  | .subscription info => ⟨true, info.subscriberGid, rfl⟩
  | .service info => ⟨true, info.subscriberGid, rfl⟩
  | .client info => ⟨true, info.subscriberGid, rfl⟩

theorem Endpoint.Apart.symm {e f : Endpoint} (h : e.Apart f) : f.Apart e :=
  fun isReader gid mine yours => h isReader gid yours mine

/-- The gids of the endpoints that stay are those that the one that goes does not have. -/
theorem exists_gid_erase {alive : List Endpoint} {e : Endpoint} (mem : e ∈ alive)
    (apart : alive.Pairwise Endpoint.Apart) (isReader : Bool) (gid : Gid) :
    (∃ f ∈ alive.erase e, f.gid isReader = some gid) ↔
      (∃ f ∈ alive, f.gid isReader = some gid) ∧ e.gid isReader ≠ some gid := by
  have perm := List.perm_cons_erase mem
  have others := (List.pairwise_cons.mp
    ((perm.pairwise_iff Endpoint.Apart.symm).mp apart)).1
  constructor
  · rintro ⟨f, stays, has⟩
    exact ⟨⟨f, List.mem_of_mem_erase stays, has⟩, (others f stays).symm isReader gid has⟩
  · rintro ⟨⟨f, there, has⟩, other⟩
    rcases List.mem_cons.mp (perm.subset there) with rfl | stays
    · exact absurd has other
    · exact ⟨f, stays, has⟩

/-- A creation keeps a right session right exactly if the range has no say in it. -/
theorem Session.create_spec (lawful : cc.Lawful) (succeeds : cc.NodeGraphSucceeds)
    (right : s.Right cc) (sane : s.Sane) {node : RmwNode} {e : Endpoint}
    (admits : s.Admits (.create node e)) :
    (s.step cc range (.create node e)).ctx.gid = s.ctx.gid ∧
      (s.step cc range (.create node e)).Sane ∧
      ((s.step cc range (.create node e)).Right cc ↔ (Call.create node e).Covered range) := by
  obtain ⟨readable, free⟩ := admits
  have absent : ∀ isReader gid, e.gid isReader = some gid →
      gid ∉ (cc.graphCache.tables s.ctx.commonCtx).keys isReader := by
    intro isReader gid has listed
    obtain ⟨f, there, same⟩ := (right.listed isReader gid (free isReader gid has).1).mp listed
    exact (free isReader gid has).2 f there same
  obtain ⟨created, own_eq, keys_iff⟩ :=
    (holds_create range node lawful succeeds readable absent).exec
      (s := s.ctx) ⟨rfl, rfl⟩
  have own_eq : (s.step cc range (.create node e)).ctx.gid = s.ctx.gid := own_eq
  have alive : (s.step cc range (.create node e)).alive = e :: s.alive := if_pos created
  refine ⟨own_eq, ⟨?_, ?_⟩, ?_, ?_⟩
  · rw [alive]
    intro f mem isReader gid has
    rw [own_eq]
    rcases List.mem_cons.mp mem with rfl | mem
    · exact (free isReader gid has).1
    · exact sane.local_ f mem isReader gid has
  · rw [alive]
    exact List.pairwise_cons.mpr
      ⟨fun f mem isReader gid has => (free isReader gid has).2 f mem, sane.apart⟩
  · -- The endpoint has a gid, and the graph lists it only if it was told of it.
    intro right' ranged localhost
    obtain ⟨isReader, gid, has⟩ := e.exists_gid
    have listed := (right'.listed isReader gid (own_eq ▸ (free isReader gid has).1)).mpr
      ⟨e, alive ▸ List.mem_cons_self, has⟩
    rcases (keys_iff isReader gid).mp listed with before | ⟨told, -⟩
    · exact absent isReader gid has before
    · exact told ranged localhost
  · intro covered
    refine ⟨fun isReader gid mine => ?_, right.returned⟩
    simp only [alive, List.mem_cons, exists_eq_or_imp,
      ← right.listed isReader gid (own_eq ▸ mine)]
    refine (keys_iff isReader gid).trans ?_
    rw [and_iff_right (show e.ranged = true → range ≠ .localhost from covered), or_comm]
    rfl

/-- A destruction keeps a right session right. -/
theorem Session.destroy_spec (range : AutomaticDiscoveryRange) (lawful : cc.Lawful)
    (succeeds : cc.NodeGraphSucceeds) (right : s.Right cc) (sane : s.Sane) {node : RmwNode}
    {e : Endpoint}
    (admits : s.Admits (.destroy node e)) :
    (s.step cc range (.destroy node e)).ctx.gid = s.ctx.gid ∧
      (s.step cc range (.destroy node e)).Sane ∧ (s.step cc range (.destroy node e)).Right cc := by
  have present : ∀ isReader gid, e.gid isReader = some gid →
      gid ∈ (cc.graphCache.tables s.ctx.commonCtx).keys isReader := fun isReader gid has =>
    (right.listed isReader gid (sane.local_ e admits isReader gid has)).mpr ⟨e, admits, has⟩
  obtain ⟨ok, own_eq, keys_iff⟩ :=
    (holds_destroy node lawful succeeds present).exec (s := s.ctx) ⟨rfl, rfl⟩
  have own_eq : (s.step cc range (.destroy node e)).ctx.gid = s.ctx.gid := own_eq
  have alive : (s.step cc range (.destroy node e)).alive = s.alive.erase e := if_pos ok
  refine ⟨own_eq, ⟨?_, ?_⟩, ?_, ?_⟩
  · rw [alive]
    intro f mem isReader gid has
    rw [own_eq]
    exact sane.local_ f (List.mem_of_mem_erase mem) isReader gid has
  · rw [alive]
    exact sane.apart.sublist List.erase_sublist
  · intro isReader gid mine
    rw [alive, exists_gid_erase admits sane.apart, ← right.listed isReader gid (own_eq ▸ mine)]
    exact keys_iff isReader gid
  · exact List.forall_mem_cons.mpr ⟨ok, right.returned⟩

variable {calls : List Call}

theorem Session.after_concat {call : Call} :
    s.after cc range (calls ++ [call]) = (s.after cc range calls).step cc range call := run_concat

/-- Any call. -/
theorem Session.step_spec (lawful : cc.Lawful) (succeeds : cc.NodeGraphSucceeds)
    (right : s.Right cc) (sane : s.Sane) {call : Call} (admits : s.Admits call) :
    (s.step cc range call).Sane ∧ ((s.step cc range call).Right cc ↔ call.Covered range) := by
  cases call with
  | create node e => exact (create_spec lawful succeeds right sane admits).2
  | destroy node e =>
    obtain ⟨-, sane', right'⟩ := destroy_spec range lawful succeeds right sane admits
    exact ⟨sane', iff_of_true right' trivial⟩

theorem Session.Fresh.right (fresh : s.Fresh cc) : s.Right cc where
  listed isReader gid mine := by
    rw [fresh.alive]
    exact iff_of_false (fresh.unlisted isReader gid mine) (by simp)
  returned := by simp [fresh.destroyed]

theorem Session.Fresh.sane (fresh : s.Fresh cc) : s.Sane where
  local_ := by simp [fresh.alive]
  apart := by simp [fresh.alive]

theorem forall_covered_iff :
    (∀ call ∈ calls, call.Covered range) ↔
      range ≠ .localhost ∨ ∀ node e, Call.create node e ∈ calls → e.ranged = false := by
  constructor
  · intro covered
    by_cases localhost : range = .localhost
    · refine .inr fun node e mem => Bool.eq_false_iff.mpr fun ranged => ?_
      exact covered _ mem ranged localhost
    · exact .inl localhost
  · rintro (wide | unranged) call mem
    · cases call with
      | create node e => exact fun _ => wide
      | destroy node e => trivial
    · cases call with
      | create node e => exact fun ranged => absurd (unranged node e mem) (by simp [ranged])
      | destroy node e => trivial

/-- **The graph lists exactly the endpoints alive, and they can be destroyed, exactly as long as no
publisher and no subscription is created on a context that keeps to the local host.** -/
theorem local_tracked_iff (lawful : cc.Lawful) (succeeds : cc.NodeGraphSucceeds)
    (fresh : s.Fresh cc)
    (admits : Each (fun before call => (s.after cc range before).Admits call) calls) :
    Always (fun before => (s.after cc range before).Right cc) calls ↔
      range ≠ .localhost ∨ ∀ node e, Call.create node e ∈ calls → e.ranged = false := by
  rw [← forall_covered_iff, ← each_const]
  refine always_iff_each (I := fun before => (s.after cc range before).Sane) fresh.sane fresh.right
    fun before call started sane right => ?_
  rw [Session.after_concat]
  refine And.imp_left (fun kept _ => kept) ?_
  exact Session.step_spec lawful succeeds right sane (admits before call started)

end Sessions

/-! ## Samples -/

/-- A gid of the sample context. -/
def sampleGid : Gid := #v[0, 0, 0, 0, 0, 0, 0, 0, 0, 0, 0, 0, 0, 0, 1, 3]

theorem sampleGid_local : Local emptyContext.gid sampleGid := fun remote =>
  absurd remote (by decide)

/-- A publisher of the sample context. -/
def samplePublisher : Endpoint := .publisher {
  publisherGid := sampleGid
  topicWriter := {
    topicName := "rt/chatter"
    typeName := "std_msgs::msg::dds_::String_"
    qos := .ok {
      history := some { kind := .keepLast, depth := 10 }
      reliability := .reliable
      durability := .volatile
      deadline := .infinite
      liveliness := { kind := .automatic, leaseDuration := .infinite }
      lifespan := some .infinite } }
  typeHash := .zero }

def sampleNode : RmwNode := { name := "talker", ns := "/" }

/-- A context nobody has used. -/
def freshSession : Session (Tables Bool Gid EntityInfo) :=
  { ctx := emptyContext, alive := [], destroyed := [] }

theorem freshSession_fresh : freshSession.Fresh tablesContext := ⟨rfl, rfl, fun _ _ _ => nofun⟩

/-- A publisher comes and goes. -/
def sampleCalls : List Call :=
  [.create sampleNode samplePublisher, .destroy sampleNode samplePublisher]

theorem sampleCalls_admitted (range : AutomaticDiscoveryRange) :
    Each (fun before call => (freshSession.after tablesContext range before).Admits call)
      sampleCalls := by
  have created : (freshSession.after tablesContext range
      [.create sampleNode samplePublisher]).alive = [samplePublisher] := by
    cases range <;> rfl
  show Each _ (([] ++ [Call.create sampleNode samplePublisher]) ++ [_])
  rw [each_concat, each_concat]
  refine ⟨⟨each_nil, ⟨_, rfl⟩, ?_⟩, ?_⟩
  · rintro isReader gid has
    obtain ⟨-, rfl⟩ := Endpoint.gid_publisher.mp has
    exact ⟨sampleGid_local, fun other mem => absurd mem List.not_mem_nil⟩
  · have mem : samplePublisher ∈ [samplePublisher] := List.mem_singleton_self _
    rw [← created] at mem
    exact mem

theorem local_tracked_iff_sample :
    Always (fun before => (freshSession.after tablesContext .subnet before).Right tablesContext)
        sampleCalls ↔
      AutomaticDiscoveryRange.subnet ≠ .localhost ∨
        ∀ node e, Call.create node e ∈ sampleCalls → e.ranged = false :=
  local_tracked_iff tablesContext_lawful (fun _ _ => rfl) freshSession_fresh
    (sampleCalls_admitted .subnet)

/-- On the local host the graph does not list the publisher, and it cannot be destroyed. -/
theorem localhost_untracked :
    ¬ Always
        (fun before => (freshSession.after tablesContext .localhost before).Right tablesContext)
        sampleCalls ∧
      (freshSession.after tablesContext .localhost sampleCalls).destroyed = [.error] ∧
      (freshSession.after tablesContext .localhost sampleCalls).alive = [samplePublisher] := by
  have failed : (freshSession.after tablesContext .localhost sampleCalls).destroyed = [.error] :=
    rfl
  refine ⟨fun right => ?_, failed, rfl⟩
  have returned := right.last.returned .error (by rw [failed]; exact List.mem_singleton_self _)
  exact nomatch returned

end Graph

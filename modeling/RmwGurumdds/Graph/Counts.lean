import Mathlib.Data.Set.Card
import RmwGurumdds.Graph.Endpoints
import RmwGurumdds.Names.TopicNames

/-!
# Counting services and clients

A service reads requests from one topic and writes replies to another, a client the other way round,
and both topics end in what they are for. The functions that count services and clients ask the
graph cache for the writers and the readers of one topic; they name it without that ending.

So what they count are the services and the clients of another name, the one that is asked for less
a trailing `Reply` of its own (`serviceCounts_right_iff`).
-/

namespace Graph

open Wire Rmw Store Exec Names

/-! ## Counting -/

section Functions

variable {σ : Type} (getCount : Bool → String → σ → Nat) (validate : String → Option String)

/-- The plan of the counting functions. `validate` is `rmw_validate_full_topic_name` with the reason
it finds, and `getCount` is `get_reader_count` or `get_writer_count` of the graph cache. -/
def Ctx.rmwCount (what pre : String) (isReader : Bool) (name : String) :
    Ctx σ (RmwRet × Option Nat) := do
  match validate name with
  | some reason =>
    Ctx.setErrorMsg (what ++ " argument is invalid: " ++ reason)
    return (.invalidArgument, none)
  | none =>
    let ctx ← get
    return (.ok, some (getCount isReader (createTopicName pre name "" false) ctx.commonCtx))

/-- `rmw_count_clients`. -/
def Ctx.rmwCountClients : String → Ctx σ (RmwRet × Option Nat) :=
  Ctx.rmwCount getCount validate "service_name" rosServiceResponsePrefix true

/-- `rmw_count_services`. -/
def Ctx.rmwCountServices : String → Ctx σ (RmwRet × Option Nat) :=
  Ctx.rmwCount getCount validate "service_name" rosServiceResponsePrefix false

end Functions

/-- The topic of an entity in a table of the graph cache. -/
def topicOf (t : Tables Bool Gid EntityInfo) (isReader : Bool) (gid : Gid) : Option String :=
  (t isReader gid).map EntityInfo.topicName

/-- The graph cache counts the entries of a table that have the topic. -/
def CommonContext.CountsBy {σ : Type} (cc : CommonContext σ)
    (getCount : Bool → String → σ → Nat) : Prop :=
  ∀ isReader name s, getCount isReader name s =
    {gid | topicOf (cc.graphCache.tables s) isReader gid = some name}.ncard

/-! ## Services and clients by name -/

/-- A service as `rmw_create_service` sets it up for a name. -/
def ServiceInfo.on (svc : ServiceInfo) (name : String) : ServiceInfo :=
  { svc with
    requestReader := { svc.requestReader with
      topicName := createTopicName rosServiceRequesterPrefix name "Request" false }
    responseWriter := { svc.responseWriter with
      topicName := createTopicName rosServiceResponsePrefix name "Reply" false } }

/-- A client as `rmw_create_client` sets it up for a name. -/
def ClientInfo.on (client : ClientInfo) (name : String) : ClientInfo :=
  { client with
    requestWriter := { client.requestWriter with
      topicName := createTopicName rosServiceRequesterPrefix name "Request" false }
    responseReader := { client.responseReader with
      topicName := createTopicName rosServiceResponsePrefix name "Reply" false } }

/-- The endpoint is a service on a name. -/
def Endpoint.isServiceOn (name : String) : Endpoint → Bool
  | .service info => decide (info.on name = info)
  | _ => false

/-- The endpoint is a client on a name. -/
def Endpoint.isClientOn (name : String) : Endpoint → Bool
  | .client info => decide (info.on name = info)
  | _ => false

/-- How many services on a name are alive. -/
def servicesOn (alive : List Endpoint) (name : String) : Nat :=
  alive.countP (Endpoint.isServiceOn name)

/-- How many clients on a name are alive. -/
def clientsOn (alive : List Endpoint) (name : String) : Nat :=
  alive.countP (Endpoint.isClientOn name)

/-- The endpoint is a service or a client on a name that is valid. -/
def Endpoint.OnService (validate : String → Option String) (e : Endpoint) : Prop :=
  ∃ name, validate name = none ∧
    ((∃ svc : ServiceInfo, e = .service (svc.on name)) ∨
      ∃ client : ClientInfo, e = .client (client.on name))

/-- Only services and clients are created, on valid names. -/
def Call.OnService (validate : String → Option String) : Call → Prop
  | .create _ e => e.OnService validate
  | .destroy .. => True

/-- The topic of its reader or of its writer, if it has one. -/
def Endpoint.topic : Endpoint → (isReader : Bool) → Option String
  | .publisher info, false => some info.topicWriter.topicName
  | .publisher _, true => none
  | .subscription _, false => none
  | .subscription info, true => some info.topicReader.topicName
  | .service info, false => some info.responseWriter.topicName
  | .service info, true => some info.requestReader.topicName
  | .client info, false => some info.requestWriter.topicName
  | .client info, true => some info.responseReader.topicName

section Topics

variable {validate : String → Option String} {e : Endpoint} {name stem : String}

theorem ServiceInfo.on_eq_iff {svc : ServiceInfo} {name' : String} :
    (svc.on name).on name' = svc.on name ↔ name' = name := by
  constructor
  · intro same
    have topics := congrArg (fun svc : ServiceInfo => svc.responseWriter.topicName) same
    have topics : rosServiceResponsePrefix ++ name' ++ "Reply" =
      rosServiceResponsePrefix ++ name ++ "Reply" := topics
    simpa using topics
  · rintro rfl
    rfl

theorem ClientInfo.on_eq_iff {client : ClientInfo} {name' : String} :
    (client.on name).on name' = client.on name ↔ name' = name := by
  constructor
  · intro same
    have topics := congrArg (fun client : ClientInfo => client.responseReader.topicName) same
    have topics : rosServiceResponsePrefix ++ name' ++ "Reply" =
      rosServiceResponsePrefix ++ name ++ "Reply" := topics
    simpa using topics
  · rintro rfl
    rfl

/-- What a name is called in the queries. -/
theorem createTopicName_bare :
    createTopicName rosServiceResponsePrefix name "" false = rosServiceResponsePrefix ++ name :=
  String.append_empty

theorem request_ne_bare {name' : String} :
    createTopicName rosServiceRequesterPrefix name' "Request" false ≠
      rosServiceResponsePrefix ++ name := by
  intro same
  have chars := congrArg (fun s : String => s.toList.take 2) same
  simp [createTopicName, rosServiceRequesterPrefix, rosServiceResponsePrefix] at chars

theorem reply_eq_bare_iff {name' : String} :
    createTopicName rosServiceResponsePrefix name' "Reply" false =
      rosServiceResponsePrefix ++ name ↔ name' ++ "Reply" = name := by
  simp [createTopicName, String.append_assoc]

/-- **The writers that the query for services finds** are those of the services whose name, with
`Reply` behind it, is the one asked for. -/
theorem writer_bare_iff (on : e.OnService validate) :
    e.topic false = some (rosServiceResponsePrefix ++ name) ↔
      ∃ stem, stem ++ "Reply" = name ∧ e.isServiceOn stem = true := by
  rcases on with ⟨name', -, ⟨svc, rfl⟩ | ⟨client, rfl⟩⟩
  · rw [Endpoint.topic, Option.some.injEq]
    refine reply_eq_bare_iff.trans ⟨fun same => ⟨name', same, ?_⟩, ?_⟩
    · exact decide_eq_true (ServiceInfo.on_eq_iff.mpr rfl)
    · rintro ⟨stem, same, on⟩
      rwa [← ServiceInfo.on_eq_iff.mp (of_decide_eq_true on)]
  · rw [Endpoint.topic, Option.some.injEq]
    exact iff_of_false request_ne_bare fun ⟨_, _, on⟩ => nomatch on

/-- The same of the readers and of clients. -/
theorem reader_bare_iff (on : e.OnService validate) :
    e.topic true = some (rosServiceResponsePrefix ++ name) ↔
      ∃ stem, stem ++ "Reply" = name ∧ e.isClientOn stem = true := by
  rcases on with ⟨name', -, ⟨svc, rfl⟩ | ⟨client, rfl⟩⟩
  · rw [Endpoint.topic, Option.some.injEq]
    exact iff_of_false request_ne_bare fun ⟨_, _, on⟩ => nomatch on
  · rw [Endpoint.topic, Option.some.injEq]
    refine reply_eq_bare_iff.trans ⟨fun same => ⟨name', same, ?_⟩, ?_⟩
    · exact decide_eq_true (ClientInfo.on_eq_iff.mpr rfl)
    · rintro ⟨stem, same, on⟩
      rwa [← ClientInfo.on_eq_iff.mp (of_decide_eq_true on)]

end Topics

/-! ## The tables through a session -/

section Tables

variable {t : Tables Bool Gid EntityInfo} {i j : Bool} {k l : Gid} {a : EntityInfo}

theorem mem_keys_iff_topicOf : l ∈ t.keys j ↔ (topicOf t j l).isSome = true := by
  rw [Tables.mem_keys, topicOf, Option.isSome_map]

theorem topicOf_emplace (absent : k ∉ t.keys i) :
    topicOf (t.emplace i k a) j l =
      if j = i ∧ l = k then some a.topicName else topicOf t j l := by
  unfold topicOf Tables.emplace
  split
  · rename_i here
    obtain ⟨rfl, rfl⟩ := here
    have nothing : t j l = none := by simpa [Tables.mem_keys] using absent
    rw [nothing]
    rfl
  · rfl

theorem topicOf_erase :
    topicOf (t.erase i k) j l = if j = i ∧ l = k then none else topicOf t j l := by
  unfold topicOf Tables.erase
  split <;> rfl

end Tables

/-- A context of `own` whose graph has what `topics` says. -/
structure Tells {σ : Type} (cc : CommonContext σ) (own : Gid) (topics : Bool → Gid → Option String)
    (ctx : RmwContextImpl σ) : Prop where
  gid_eq : ctx.gid = own
  topic_eq : ∀ isReader gid,
    topicOf (cc.graphCache.tables ctx.commonCtx) isReader gid = topics isReader gid

section Functions

variable {σ : Type} {cc : CommonContext σ} {own : Gid} {t t' : Tables Bool Gid EntityInfo}
  {range : AutomaticDiscoveryRange} {node : RmwNode} {ctx : RmwContextImpl σ}
  {validate : String → Option String} {e : Endpoint}

theorem CommonContext.At.tells {topics : Bool → Gid → Option String} (at_ : cc.At own t ctx)
    (same : ∀ isReader gid, topicOf t isReader gid = topics isReader gid) :
    Tells cc own topics ctx := by
  refine ⟨at_.gid_eq, fun isReader gid => ?_⟩
  rw [at_.tables_eq]
  exact same isReader gid

/-- The entries of a pair. -/
theorem topicOf_pair {subGid pubGid : Gid} {reader writer : EntityInfo}
    (absentReader : subGid ∉ t.keys true) (absentWriter : pubGid ∉ t.keys false)
    (isReader : Bool) (gid : Gid) :
    topicOf ((t.emplace true subGid reader).emplace false pubGid writer) isReader gid =
      if isReader = false ∧ gid = pubGid then some writer.topicName
      else if isReader = true ∧ gid = subGid then some reader.topicName
      else topicOf t isReader gid := by
  have absentWriter' : pubGid ∉ (t.emplace true subGid reader).keys false := by
    rw [Tables.mem_keys_emplace]
    rintro (⟨other, -⟩ | there)
    · exact nomatch other
    · exact absentWriter there
  rw [topicOf_emplace absentWriter', topicOf_emplace absentReader]

/-- Where a pair was entered, the graph has the topics of the endpoint it is for. -/
theorem CommonContext.At.tells_pair {subGid pubGid : Gid} {reader writer : EntityInfo}
    (at_ : cc.At own ((t.emplace true subGid reader).emplace false pubGid writer) ctx)
    (absent : ∀ isReader gid, e.gid isReader = some gid → gid ∉ t.keys isReader)
    (readerGid : e.gid true = some subGid) (writerGid : e.gid false = some pubGid)
    (readerTopic : e.topic true = some reader.topicName)
    (writerTopic : e.topic false = some writer.topicName) :
    Tells cc own (fun isReader gid =>
      if e.gid isReader = some gid then e.topic isReader else topicOf t isReader gid) ctx := by
  refine at_.tells fun isReader gid => ?_
  rw [topicOf_pair (absent true _ readerGid) (absent false _ writerGid)]
  cases isReader with
  | false => simp [writerGid, writerTopic, eq_comm]
  | true => simp [readerGid, readerTopic, eq_comm]

/-- Where a pair was taken out, so were the topics of its endpoint. -/
theorem CommonContext.At.tells_unpaired {subGid pubGid : Gid}
    (at_ : cc.At own ((t.erase true subGid).erase false pubGid) ctx)
    (readerGid : e.gid true = some subGid) (writerGid : e.gid false = some pubGid) :
    Tells cc own (fun isReader gid =>
      if e.gid isReader = some gid then none else topicOf t isReader gid) ctx := by
  refine at_.tells fun isReader gid => ?_
  rw [topicOf_erase, topicOf_erase]
  cases isReader with
  | false => simp [writerGid, eq_comm]
  | true => simp [readerGid, eq_comm]

/-- **Creation** of a service or a client enters its two topics. -/
theorem tells_create (range : AutomaticDiscoveryRange) (node : RmwNode) (lawful : cc.Lawful)
    (succeeds : cc.NodeGraphSucceeds) (on : e.OnService validate) (readable : e.Readable)
    (absent : ∀ isReader gid, e.gid isReader = some gid → gid ∉ t.keys isReader) :
    Holds cc own t (Ctx.create cc range node e) fun created ctx => created = true ∧
      Tells cc own (fun isReader gid =>
        if e.gid isReader = some gid then e.topic isReader else topicOf t isReader gid) ctx := by
  rcases on with ⟨name, -, ⟨svc, rfl⟩ | ⟨client, rfl⟩⟩
  · refine (holds_createPair lawful succeeds readable.1 readable.2 (absent true _ rfl)
      (absent false _ rfl) _).bind fun _ => Triple.pure ?_
    rintro ctx ⟨rfl, reader, writer, readerTopic, writerTopic, at_⟩
    exact ⟨rfl, at_.tells_pair absent rfl rfl (congrArg some readerTopic.symm)
      (congrArg some writerTopic.symm)⟩
  · refine (holds_createPair lawful succeeds readable.1 readable.2 (absent true _ rfl)
      (absent false _ rfl) _).bind fun _ => Triple.pure ?_
    rintro ctx ⟨rfl, reader, writer, readerTopic, writerTopic, at_⟩
    exact ⟨rfl, at_.tells_pair absent rfl rfl (congrArg some readerTopic.symm)
      (congrArg some writerTopic.symm)⟩

/-- **Destruction** of a service or a client takes its two topics out. -/
theorem tells_destroy (node : RmwNode) (lawful : cc.Lawful) (succeeds : cc.NodeGraphSucceeds)
    (on : e.OnService validate) :
    Holds cc own t (Ctx.destroy cc node .ok e) fun ret ctx => ret = .ok ∧
      Tells cc own (fun isReader gid =>
        if e.gid isReader = some gid then none else topicOf t isReader gid) ctx := by
  rcases on with ⟨name, -, ⟨svc, rfl⟩ | ⟨client, rfl⟩⟩
  · exact (holds_destroyPair lawful succeeds).weaken (fun _ at_ => at_)
      fun _ _ h => ⟨h.1, h.2.tells_unpaired rfl rfl⟩
  · exact (holds_destroyPair lawful succeeds).weaken (fun _ at_ => at_)
      fun _ _ h => ⟨h.1, h.2.tells_unpaired rfl rfl⟩

end Functions

/-- The endpoints alive are services and clients, and the graph has their topics and no other. -/
structure Session.Tallied {σ : Type} (cc : CommonContext σ) (validate : String → Option String)
    (s : Session σ) : Prop where
  right : s.Right cc
  sane : s.Sane
  on : ∀ e ∈ s.alive, e.OnService validate
  topics : ∀ isReader gid name,
    topicOf (cc.graphCache.tables s.ctx.commonCtx) isReader gid = some name ↔
      ∃ e ∈ s.alive, e.gid isReader = some gid ∧ e.topic isReader = some name

/-- Nothing has been created, and the graph is empty. -/
structure Session.Empty {σ : Type} (cc : CommonContext σ) (s : Session σ) : Prop where
  alive : s.alive = []
  destroyed : s.destroyed = []
  unlisted : ∀ isReader gid, cc.graphCache.tables s.ctx.commonCtx isReader gid = none

section Sessions

variable {σ : Type} {cc : CommonContext σ} {range : AutomaticDiscoveryRange} {s : Session σ}
  {validate : String → Option String} {e : Endpoint} {node : RmwNode}

theorem Session.Empty.tallied (empty : s.Empty cc) : s.Tallied cc validate where
  right := Session.Fresh.right ⟨empty.alive, empty.destroyed, fun isReader gid _ listed => by
    rw [RmwContextImpl.keys, Tables.mem_keys, empty.unlisted] at listed
    cases listed⟩
  sane := by
    refine ⟨?_, ?_⟩
    · simp [empty.alive]
    · simp [empty.alive]
  on := by simp [empty.alive]
  topics isReader gid name := by
    rw [topicOf, empty.unlisted, empty.alive]
    exact iff_of_false (by simp) (by simp)

/-- The range has no say in services and clients. -/
theorem Endpoint.OnService.ranged (on : e.OnService validate) : e.ranged = false := by
  rcases on with ⟨_, -, ⟨_, rfl⟩ | ⟨_, rfl⟩⟩
  · rfl
  · rfl

theorem Session.Tallied.create (lawful : cc.Lawful) (succeeds : cc.NodeGraphSucceeds)
    (tallied : s.Tallied cc validate) (on : e.OnService validate)
    (admits : s.Admits (.create node e)) :
    (s.step cc range (.create node e)).Tallied cc validate := by
  obtain ⟨right, sane, others, topics⟩ := tallied
  obtain ⟨sane', right'⟩ : (s.step cc range (.create node e)).Sane ∧ _ :=
    step_spec lawful succeeds right sane admits
  have covered : (Call.create node e).Covered range := fun ranged =>
    absurd on.ranged (by simp [ranged])
  have free : ∀ isReader gid, e.gid isReader = some gid →
      topicOf (cc.graphCache.tables s.ctx.commonCtx) isReader gid = none := by
    intro isReader gid has
    rw [Option.eq_none_iff_forall_ne_some]
    intro name listed
    obtain ⟨f, there, same, -⟩ := (topics isReader gid name).mp listed
    exact (admits.2 isReader gid has).2 f there same
  obtain ⟨created, -, told⟩ := (tells_create range node lawful succeeds on admits.1
    (t := cc.graphCache.tables s.ctx.commonCtx) fun isReader gid has => by
      rw [mem_keys_iff_topicOf, free isReader gid has]
      exact Bool.false_ne_true).exec (s := s.ctx) ⟨rfl, rfl⟩
  have alive : (s.step cc range (.create node e)).alive = e :: s.alive := if_pos created
  refine ⟨right'.mpr covered, sane', ?_, fun isReader gid name => ?_⟩
  · rw [alive]
    exact List.forall_mem_cons.mpr ⟨on, others⟩
  · simp only [alive, List.mem_cons, exists_eq_or_imp]
    refine (Iff.of_eq (congrArg (· = some name) (told isReader gid))).trans ?_
    by_cases has : e.gid isReader = some gid
    · rw [if_pos has, and_iff_right has]
      refine (or_iff_left ?_).symm
      rintro ⟨f, there, same, -⟩
      exact (admits.2 isReader gid has).2 f there same
    · rw [if_neg has, topics]
      exact (or_iff_right fun h => has h.1).symm

theorem Session.Tallied.destroy (lawful : cc.Lawful) (succeeds : cc.NodeGraphSucceeds)
    (tallied : s.Tallied cc validate) (admits : s.Admits (.destroy node e)) :
    (s.step cc range (.destroy node e)).Tallied cc validate := by
  obtain ⟨right, sane, others, topics⟩ := tallied
  obtain ⟨-, sane', right'⟩ := destroy_spec range lawful succeeds right sane admits
  obtain ⟨ok, -, told⟩ := (tells_destroy (t := cc.graphCache.tables s.ctx.commonCtx) node lawful
    succeeds (others e admits)).exec (s := s.ctx) ⟨rfl, rfl⟩
  have alive : (s.step cc range (.destroy node e)).alive = s.alive.erase e := if_pos ok
  have perm := List.perm_cons_erase (show e ∈ s.alive from admits)
  have apart := (List.pairwise_cons.mp
    ((perm.pairwise_iff Endpoint.Apart.symm).mp sane.apart)).1
  refine ⟨right', sane', ?_, fun isReader gid name => ?_⟩
  · rw [alive]
    exact fun f mem => others f (List.mem_of_mem_erase mem)
  · rw [alive]
    refine (Iff.of_eq (congrArg (· = some name) (told isReader gid))).trans ?_
    by_cases has : e.gid isReader = some gid
    · rw [if_pos has]
      refine iff_of_false nofun ?_
      rintro ⟨f, stays, same, -⟩
      exact apart f stays isReader gid has same
    · rw [if_neg has, topics]
      constructor
      · rintro ⟨f, there, same⟩
        rcases List.mem_cons.mp (perm.subset there) with rfl | stays
        · exact absurd same.1 has
        · exact ⟨f, stays, same⟩
      · rintro ⟨f, stays, same⟩
        exact ⟨f, List.mem_of_mem_erase stays, same⟩

/-- The topics are right after every run. -/
theorem Session.Empty.after_tallied (lawful : cc.Lawful) (succeeds : cc.NodeGraphSucceeds)
    (empty : s.Empty cc) {calls : List Call} (on : ∀ call ∈ calls, call.OnService validate)
    (admits : Each (fun before call => (s.after cc range before).Admits call) calls) :
    (s.after cc range calls).Tallied cc validate := by
  refine Always.last (P := fun calls => (s.after cc range calls).Tallied cc validate)
    (always_of_each (Q := fun before call =>
      (s.after cc range before).Admits call ∧ call.OnService validate) empty.tallied ?_ ?_)
  · exact fun before call started =>
      ⟨admits before call started, on call (started.subset (by simp))⟩
  · rintro before call tallied ⟨admitted, on⟩
    rw [Session.after_concat]
    cases call with
    | create node e => exact tallied.create lawful succeeds on admitted
    | destroy node e => exact tallied.destroy lawful succeeds admitted

end Sessions

/-! ## What is counted -/

/-- As many gids stand for the endpoints with a property as there are endpoints with it. -/
theorem ncard_gids {isReader : Bool} {p : Endpoint → Bool} {alive : List Endpoint}
    (apart : alive.Pairwise Endpoint.Apart)
    (has : ∀ e ∈ alive, p e = true → ∃ gid, e.gid isReader = some gid) :
    {gid | ∃ e ∈ alive, e.gid isReader = some gid ∧ p e = true}.Finite ∧
      {gid | ∃ e ∈ alive, e.gid isReader = some gid ∧ p e = true}.ncard = alive.countP p := by
  induction alive with
  | nil => simp
  | cons e alive ih =>
    obtain ⟨first, rest⟩ := List.pairwise_cons.mp apart
    obtain ⟨finite, count⟩ := ih rest fun f mem => has f (.tail _ mem)
    by_cases picked : p e = true
    · obtain ⟨gid, mine⟩ := has e List.mem_cons_self picked
      have split : {g | ∃ f ∈ e :: alive, f.gid isReader = some g ∧ p f = true} =
          insert gid {g | ∃ f ∈ alive, f.gid isReader = some g ∧ p f = true} := by
        ext g
        constructor
        · rintro ⟨f, mem, same, holds⟩
          rcases List.mem_cons.mp mem with rfl | mem
          · exact .inl (Option.some.inj (same.symm.trans mine))
          · exact .inr ⟨f, mem, same, holds⟩
        · rintro (rfl | ⟨f, mem, same, holds⟩)
          · exact ⟨e, List.mem_cons_self, mine, picked⟩
          · exact ⟨f, .tail _ mem, same, holds⟩
      have other : gid ∉ {g | ∃ f ∈ alive, f.gid isReader = some g ∧ p f = true} := by
        rintro ⟨f, mem, same, -⟩
        exact first f mem isReader gid mine same
      rw [split, List.countP_cons_of_pos picked, Set.ncard_insert_of_notMem other finite, count]
      exact ⟨finite.insert gid, rfl⟩
    · have split : {g | ∃ f ∈ e :: alive, f.gid isReader = some g ∧ p f = true} =
          {g | ∃ f ∈ alive, f.gid isReader = some g ∧ p f = true} := by
        ext g
        simp [picked]
      rw [split, List.countP_cons_of_neg picked]
      exact ⟨finite, count⟩

section Counted

variable {σ : Type} {cc : CommonContext σ} {s : Session σ} {validate : String → Option String}
  {getCount : Bool → String → σ → Nat} {name : String}

theorem Endpoint.OnService.gid {e : Endpoint} (on : e.OnService validate) (isReader : Bool) :
    ∃ gid, e.gid isReader = some gid := by
  rcases on with ⟨_, -, ⟨_, rfl⟩ | ⟨_, rfl⟩⟩
  · cases isReader <;> exact ⟨_, rfl⟩
  · cases isReader <;> exact ⟨_, rfl⟩

/-- The graph cache counts the live endpoints on a topic. -/
theorem Session.Tallied.count (counts : cc.CountsBy getCount) (tallied : s.Tallied cc validate)
    (isReader : Bool) (topic : String) :
    getCount isReader topic s.ctx.commonCtx =
      s.alive.countP fun e => decide (e.topic isReader = some topic) := by
  have gids := ncard_gids tallied.sane.apart
    fun e mem (_ : decide (e.topic isReader = some topic) = true) => (tallied.on e mem).gid isReader
  rw [counts, ← gids.2]
  congr 1
  ext gid
  simp only [Set.mem_ofPred_eq, tallied.topics, decide_eq_true_eq]

/-- What a query answers for a name that is valid. -/
theorem exec_rmwCount {what pre : String} {isReader : Bool} (valid : validate name = none)
    (ctx : RmwContextImpl σ) :
    exec (Ctx.rmwCount getCount validate what pre isReader name) ctx =
      ((.ok, some (getCount isReader (createTopicName pre name "" false) ctx.commonCtx)),
        ctx) := by
  unfold Ctx.rmwCount
  rw [valid]
  rfl

/-- **What the queries count** on a name: the services and the clients on another one. -/
structure Shifted (n : String → Nat) (counted : Nat) (name : String) : Prop where
  stem : ∀ stem, stem ++ "Reply" = name → counted = n stem
  bare : (∀ stem, stem ++ "Reply" ≠ name) → counted = 0

theorem countP_shifted {alive : List Endpoint} {topics : Endpoint → Bool}
    {on : String → Endpoint → Bool}
    (same : ∀ e ∈ alive, topics e = true ↔ ∃ stem, stem ++ "Reply" = name ∧ on stem e = true) :
    Shifted (fun stem => alive.countP (on stem)) (alive.countP topics) name := by
  constructor
  · intro stem whole
    refine List.countP_congr fun e mem => (same e mem).trans ⟨?_, fun h => ⟨stem, whole, h⟩⟩
    rintro ⟨stem', whole', h⟩
    obtain rfl : stem' = stem := String.append_left_inj _ |>.mp (whole'.trans whole.symm)
    exact h
  · intro none_
    rw [List.countP_eq_zero]
    intro e mem h
    obtain ⟨stem, whole, -⟩ := (same e mem).mp h
    exact none_ stem whole

theorem Session.Tallied.services (counts : cc.CountsBy getCount)
    (tallied : s.Tallied cc validate) (name : String) :
    Shifted (servicesOn s.alive)
      (getCount false (createTopicName rosServiceResponsePrefix name "" false) s.ctx.commonCtx)
      name := by
  rw [tallied.count counts, createTopicName_bare]
  exact countP_shifted fun e mem => decide_eq_true_iff.trans (writer_bare_iff (tallied.on e mem))

theorem Session.Tallied.clients (counts : cc.CountsBy getCount)
    (tallied : s.Tallied cc validate) (name : String) :
    Shifted (clientsOn s.alive)
      (getCount true (createTopicName rosServiceResponsePrefix name "" false) s.ctx.commonCtx)
      name := by
  rw [tallied.count counts, createTopicName_bare]
  exact countP_shifted fun e mem => decide_eq_true_iff.trans (reader_bare_iff (tallied.on e mem))

end Counted

/-- The queries for services and for clients answer how many are alive. -/
structure Session.CountsRight {σ : Type} (getCount : Bool → String → σ → Nat)
    (validate : String → Option String) (s : Session σ) (name : String) : Prop where
  services : (exec (Ctx.rmwCountServices getCount validate name) s.ctx).1 =
    (.ok, some (servicesOn s.alive name))
  clients : (exec (Ctx.rmwCountClients getCount validate name) s.ctx).1 =
    (.ok, some (clientsOn s.alive name))

/-- As many are alive on a name as on the name less a trailing `Reply`, and none where there is no
such ending. -/
def Balanced (n : String → Nat) (name : String) : Prop := Shifted n (n name) name

section Right

variable {n : String → Nat} {counted : Nat} {name : String}

theorem Shifted.eq_iff (shifted : Shifted n counted name) : counted = n name ↔ Balanced n name := by
  constructor
  · rintro rfl
    exact shifted
  · rintro ⟨stem, bare⟩
    by_cases ends : ∃ stem, stem ++ "Reply" = name
    · obtain ⟨t, whole⟩ := ends
      exact (shifted.stem t whole).trans (stem t whole).symm
    · have none_ : ∀ stem, stem ++ "Reply" ≠ name := fun t whole => ends ⟨t, whole⟩
      exact (shifted.bare none_).trans (bare none_).symm

/-- What is balanced on every name that occurs does not occur. -/
theorem eq_zero_of_balanced {valid : String → Prop} (occurs : ∀ name, ¬ valid name → n name = 0)
    (balanced : ∀ name, valid name → Balanced n name) : ∀ name, n name = 0 := by
  suffices bounded : ∀ k name, name.toList.length < k → n name = 0 from
    fun name => bounded _ name (Nat.lt_succ_self _)
  intro k
  induction k with
  | zero => exact fun name h => absurd h (Nat.not_lt_zero _)
  | succ k ih =>
    intro name short
    by_cases valid : valid name
    · by_cases ends : ∃ stem, stem ++ "Reply" = name
      · obtain ⟨stem, rfl⟩ := ends
        rw [(balanced _ valid).stem stem rfl]
        refine ih stem ?_
        rw [String.toList_append, List.length_append] at short
        have suffix : "Reply".toList.length = 5 := rfl
        omega
      · exact (balanced name valid).bare fun stem whole => ends ⟨stem, whole⟩
    · exact occurs name valid

end Right

section Sessions

variable {σ : Type} {cc : CommonContext σ} {range : AutomaticDiscoveryRange} {s : Session σ}
  {validate : String → Option String} {getCount : Bool → String → σ → Nat} {name : String}

theorem Session.Tallied.countsRight_iff (counts : cc.CountsBy getCount)
    (tallied : s.Tallied cc validate) (valid : validate name = none) :
    s.CountsRight getCount validate name ↔
      Balanced (servicesOn s.alive) name ∧ Balanced (clientsOn s.alive) name := by
  rw [← (tallied.services counts name).eq_iff, ← (tallied.clients counts name).eq_iff]
  constructor
  · rintro ⟨services, clients⟩
    rw [Ctx.rmwCountServices, exec_rmwCount valid] at services
    rw [Ctx.rmwCountClients, exec_rmwCount valid] at clients
    exact ⟨Option.some.inj (congrArg Prod.snd services),
      Option.some.inj (congrArg Prod.snd clients)⟩
  · rintro ⟨services, clients⟩
    refine ⟨?_, ?_⟩
    · rw [Ctx.rmwCountServices, exec_rmwCount valid, services]
    · rw [Ctx.rmwCountClients, exec_rmwCount valid, clients]

/-- On a name that is not valid nothing is alive. -/
theorem Session.Tallied.none_on (tallied : s.Tallied cc validate) (invalid : validate name ≠ none) :
    servicesOn s.alive name = 0 ∧ clientsOn s.alive name = 0 := by
  constructor
  · refine List.countP_eq_zero.mpr fun e mem on => ?_
    rcases tallied.on e mem with ⟨name', valid, ⟨svc, rfl⟩ | ⟨client, rfl⟩⟩
    · rw [ServiceInfo.on_eq_iff.mp (of_decide_eq_true on)] at invalid
      exact invalid valid
    · exact nomatch on
  · refine List.countP_eq_zero.mpr fun e mem on => ?_
    rcases tallied.on e mem with ⟨name', valid, ⟨svc, rfl⟩ | ⟨client, rfl⟩⟩
    · exact nomatch on
    · rw [ClientInfo.on_eq_iff.mp (of_decide_eq_true on)] at invalid
      exact invalid valid

theorem Session.Tallied.alive_eq_nil_iff (tallied : s.Tallied cc validate) :
    s.alive = [] ↔ ∀ name, servicesOn s.alive name = 0 ∧ clientsOn s.alive name = 0 := by
  constructor
  · intro nil
    rw [nil]
    exact fun _ => ⟨rfl, rfl⟩
  · intro none_
    refine List.eq_nil_iff_forall_not_mem.mpr fun e mem => ?_
    rcases tallied.on e mem with ⟨name, -, ⟨svc, rfl⟩ | ⟨client, rfl⟩⟩
    · exact List.countP_eq_zero.mp (none_ name).1 _ mem
        (decide_eq_true (ServiceInfo.on_eq_iff.mpr rfl))
    · exact List.countP_eq_zero.mp (none_ name).2 _ mem
        (decide_eq_true (ClientInfo.on_eq_iff.mpr rfl))

/-- **When the counts of services and clients are right.** After every run of creations and
destructions they are right for a name exactly when as many services and as many clients are alive
on it as on it less a trailing `Reply`; and they are right for every name exactly when none is
alive. -/
theorem serviceCounts_right_iff (lawful : cc.Lawful) (succeeds : cc.NodeGraphSucceeds)
    (counts : cc.CountsBy getCount) (empty : s.Empty cc) {calls : List Call}
    (on : ∀ call ∈ calls, call.OnService validate)
    (admits : Each (fun before call => (s.after cc range before).Admits call) calls) :
    (∀ name, validate name = none →
      ((s.after cc range calls).CountsRight getCount validate name ↔
        Balanced (servicesOn (s.after cc range calls).alive) name ∧
          Balanced (clientsOn (s.after cc range calls).alive) name)) ∧
      ((∀ name, validate name = none →
          (s.after cc range calls).CountsRight getCount validate name) ↔
        (s.after cc range calls).alive = []) := by
  have tallied : (s.after cc range calls).Tallied cc validate :=
    empty.after_tallied lawful succeeds on admits
  refine ⟨fun name valid => tallied.countsRight_iff counts valid, ?_⟩
  rw [tallied.alive_eq_nil_iff]
  constructor
  · intro right name
    have balanced (name : String) (valid : validate name = none) :=
      (tallied.countsRight_iff counts valid).mp (right name valid)
    constructor
    · exact eq_zero_of_balanced (fun name invalid => (tallied.none_on invalid).1)
        (fun name valid => (balanced name valid).1) name
    · exact eq_zero_of_balanced (fun name invalid => (tallied.none_on invalid).2)
        (fun name valid => (balanced name valid).2) name
  · intro none_ name valid
    refine (tallied.countsRight_iff counts valid).mpr ⟨⟨?_, ?_⟩, ?_, ?_⟩
    · exact fun stem _ => (none_ name).1.trans (none_ stem).1.symm
    · exact fun _ => (none_ name).1
    · exact fun stem _ => (none_ name).2.trans (none_ stem).2.symm
    · exact fun _ => (none_ name).2

end Sessions

/-! ## A sample -/

/-- The count over tables that are nothing else. -/
noncomputable def tablesCount (isReader : Bool) (name : String)
    (t : Tables Bool Gid EntityInfo) : Nat :=
  {gid | topicOf t isReader gid = some name}.ncard

/-- A data writer or a data reader, before it has a topic. -/
def sampleEntity : DataEntity where
  topicName := ""
  typeName := "example_interfaces::srv::dds_::AddTwoInts_Request_"
  qos := .ok {
    history := some { kind := .keepLast, depth := 10 }
    reliability := .reliable
    durability := .volatile
    deadline := .infinite
    liveliness := { kind := .automatic, leaseDuration := .infinite }
    lifespan := some .infinite }

/-- A service of the sample context. -/
def sampleService : ServiceInfo where
  publisherGid := sampleGid
  subscriberGid := sampleGid
  responseWriter := sampleEntity
  requestReader := sampleEntity
  requestTypeHash := .zero
  responseTypeHash := .zero

/-- A service comes into being. -/
def serviceCalls : List Call := [.create sampleNode (.service (sampleService.on "/add_two_ints"))]

theorem serviceCalls_on :
    ∀ call ∈ serviceCalls, call.OnService fun _ => none := by
  intro call mem
  rw [List.mem_singleton.mp mem]
  exact ⟨"/add_two_ints", rfl, .inl ⟨sampleService, rfl⟩⟩

theorem serviceCalls_admitted :
    Each (fun before call => (freshSession.after tablesContext .subnet before).Admits call)
      serviceCalls := by
  show Each _ ([] ++ [_])
  rw [each_concat]
  refine ⟨each_nil, ⟨⟨_, rfl⟩, _, rfl⟩, ?_⟩
  intro isReader gid has
  have same : gid = sampleGid := by
    rcases Endpoint.gid_service.mp has with ⟨-, rfl⟩ | ⟨-, rfl⟩
    · rfl
    · rfl
  rw [same]
  exact ⟨sampleGid_local, fun other mem => absurd mem List.not_mem_nil⟩

theorem freshSession_empty : freshSession.Empty tablesContext := ⟨rfl, rfl, fun _ _ => rfl⟩

theorem tablesCount_counts : tablesContext.CountsBy tablesCount := fun _ _ _ => rfl

theorem serviceCounts_right_iff_sample :
    (∀ name, (freshSession.after tablesContext .subnet serviceCalls).CountsRight tablesCount
        (fun _ => none) name) ↔
      (freshSession.after tablesContext .subnet serviceCalls).alive = [] := by
  have exact_ := (serviceCounts_right_iff tablesContext_lawful (fun _ _ => rfl) tablesCount_counts
    freshSession_empty serviceCalls_on serviceCalls_admitted).2
  simpa using exact_

/-- One service is alive on `/add_two_ints`, and none is counted. -/
theorem addTwoInts_notCounted :
    servicesOn (freshSession.after tablesContext .subnet serviceCalls).alive "/add_two_ints" = 1 ∧
      (exec (Ctx.rmwCountServices tablesCount (fun _ => none) "/add_two_ints")
        (freshSession.after tablesContext .subnet serviceCalls).ctx).1 = (.ok, some 0) := by
  have tallied := freshSession_empty.after_tallied tablesContext_lawful (fun _ _ => rfl)
    serviceCalls_on serviceCalls_admitted
  refine ⟨rfl, ?_⟩
  rw [Ctx.rmwCountServices, exec_rmwCount rfl, tallied.count tablesCount_counts]
  rfl

end Graph

import RmwGurumdds.Graph.Endpoints

/-!
# Failing hooks

A hook of the graph can fail at each of its steps: DDS does not tell the QoS, the graph cache has
the gid already or does not have it, the node graph refuses the update. What the node graph answers
may depend on everything in the common context, so a hook is followed here through the states of the
common context (`InState`), and what it does is said for every answer.

A hook that fails to enter an endpoint should leave the tables as they were. The one for publishers
always does. The one for subscriptions takes out the wrong entries, and the ones for services and
clients take out none (`registration_undone_iff`). A hook that takes an endpoint out should say so
when something of it was not there. Those of services and clients never do
(`unregistration_reported_iff`).
-/

namespace Graph

open Wire Rmw Store Exec

section Functions

variable {σ : Type} (cc : CommonContext σ) (node : RmwNode)

/-- The hook of an endpoint's creation. -/
def Ctx.onCreated : Endpoint → Ctx σ RmwRet
  | .publisher info => Ctx.onPublisherCreated cc node info
  | .subscription info => Ctx.onSubscriberCreated cc node info
  | .service info => Ctx.onServiceCreated cc node info
  | .client info => Ctx.onClientCreated cc node info

/-- The hook of an endpoint's deletion. -/
def Ctx.onDeleted : Endpoint → Ctx σ RmwRet
  | .publisher info => Ctx.onPublisherDeleted cc node info
  | .subscription info => Ctx.onSubscriberDeleted cc node info
  | .service info => Ctx.onServiceDeleted cc node info
  | .client info => Ctx.onClientDeleted cc node info

/-! ## States of the common context -/

/-- The node graph accepts an update. -/
def CommonContext.Accepts (u : NodeGraphUpdate) (s : σ) : Prop := (cc.updateNodeGraph u s).1 = .ok

/-- The graph cache holds a gid. -/
def CommonContext.Has (isReader : Bool) (gid : Gid) (s : σ) : Prop :=
  gid ∈ (cc.graphCache.tables s).keys isReader

/-- An entity can be entered: DDS tells its QoS, and its gid is new. -/
structure CommonContext.Enters (isReader : Bool) (entity : DataEntity) (gid : Gid) (s : σ) :
    Prop where
  readable : ∃ qos, entity.qos = .ok qos
  absent : ¬ cc.Has isReader gid s

/-- The common context once it was tried to enter an entity. -/
def CommonContext.enter (own : Gid) (isReader : Bool) (entity : DataEntity) (typeHash : TypeHash)
    (gid : Gid) (s : σ) : σ :=
  match entity.qos with
  | .ok qos => (cc.graphCache.add isReader gid (entity.info own typeHash
      (if isReader then { qos with lifespan := none } else qos)) s).2
  | _ => s

end Functions

section Entering

variable {σ : Type} {cc : CommonContext σ} {own : Gid} {isReader : Bool} {entity : DataEntity}
  {typeHash : TypeHash} {gid : Gid} {s : σ}

theorem enter_of_unreadable (unreadable : ∀ qos, entity.qos ≠ .ok qos) :
    cc.enter own isReader entity typeHash gid s = s := by
  unfold CommonContext.enter
  split
  · rename_i qos read
    exact absurd read (unreadable qos)
  · rfl

theorem enter_of_readable {qos : EndpointQos} (read : entity.qos = .ok qos) :
    cc.enter own isReader entity typeHash gid s =
      (cc.graphCache.add isReader gid (entity.info own typeHash
        (if isReader then { qos with lifespan := none } else qos)) s).2 := by
  rw [CommonContext.enter, read]

/-- What cannot be entered changes nothing. -/
theorem tables_enter_of_not (lawful : cc.Lawful) (not : ¬ cc.Enters isReader entity gid s) :
    cc.graphCache.tables (cc.enter own isReader entity typeHash gid s) =
      cc.graphCache.tables s := by
  by_cases readable : ∃ qos, entity.qos = .ok qos
  · obtain ⟨qos, read⟩ := readable
    have present : cc.Has isReader gid s := by
      by_contra absent
      exact not ⟨⟨qos, read⟩, absent⟩
    rw [enter_of_readable read, lawful.graphCache.add_snd, Tables.emplace_of_mem present]
  · rw [enter_of_unreadable (not_exists.mp readable)]

theorem tables_enter (own : Gid) (typeHash : TypeHash) (lawful : cc.Lawful)
    (enters : cc.Enters isReader entity gid s) :
    ∃ info, cc.graphCache.tables (cc.enter own isReader entity typeHash gid s) =
      (cc.graphCache.tables s).emplace isReader gid info := by
  obtain ⟨qos, read⟩ := enters.readable
  rw [enter_of_readable read]
  exact ⟨_, lawful.graphCache.add_snd ..⟩

theorem has_enter (lawful : cc.Lawful) (enters : cc.Enters isReader entity gid s) :
    cc.Has isReader gid (cc.enter own isReader entity typeHash gid s) := by
  obtain ⟨info, tables_eq⟩ := tables_enter own typeHash lawful enters
  rw [CommonContext.Has, tables_eq, Tables.mem_keys_emplace]
  exact .inl ⟨rfl, rfl⟩

/-- What is entered can be taken out again. -/
theorem tables_remove_enter (lawful : cc.Lawful) (enters : cc.Enters isReader entity gid s) :
    cc.graphCache.tables
        (cc.graphCache.remove isReader gid (cc.enter own isReader entity typeHash gid s)).2 =
      cc.graphCache.tables s := by
  obtain ⟨info, tables_eq⟩ := tables_enter own typeHash lawful enters
  rw [lawful.graphCache.remove_snd, tables_eq, Tables.erase_emplace enters.absent]

/-- An entry of one table is no entry of the other. -/
theorem has_enter_other (lawful : cc.Lawful) {other : Bool} (ne : other ≠ isReader) (gid' : Gid) :
    cc.Has other gid' (cc.enter own isReader entity typeHash gid s) ↔ cc.Has other gid' s := by
  by_cases enters : cc.Enters isReader entity gid s
  · obtain ⟨info, tables_eq⟩ := tables_enter own typeHash lawful enters
    rw [CommonContext.Has, tables_eq, Tables.mem_keys_emplace]
    simp [ne, CommonContext.Has]
  · rw [CommonContext.Has, tables_enter_of_not lawful enters, CommonContext.Has]

theorem enters_enter_other (lawful : cc.Lawful) {other : Bool} (ne : other ≠ isReader)
    {entity' : DataEntity} {gid' : Gid} :
    cc.Enters other entity' gid' (cc.enter own isReader entity typeHash gid s) ↔
      cc.Enters other entity' gid' s := by
  constructor
  · intro enters
    exact ⟨enters.readable, (has_enter_other lawful ne gid').not.mp enters.absent⟩
  · intro enters
    exact ⟨enters.readable, (has_enter_other lawful ne gid').not.mpr enters.absent⟩

end Entering

/-! ## Following a hook -/

/-- A context of the participant `own` over the common context `s`. -/
structure InState {σ : Type} (own : Gid) (s : σ) (ctx : RmwContextImpl σ) : Prop where
  gid_eq : ctx.gid = own
  common_eq : ctx.commonCtx = s

section Rules

variable {σ α : Type} {cc : CommonContext σ} {own : Gid} {s : σ}

theorem inState_get :
    Triple (InState own s) (get : Ctx σ _) (fun ctx ctx' => InState own s ctx' ∧ ctx.gid = own)
      nofun :=
  Triple.get fun _ in_ => ⟨in_, in_.gid_eq⟩

theorem inState_setErrorMsg (msg : String) :
    Triple (InState own s) (Ctx.setErrorMsg msg) (fun _ => InState own s) nofun :=
  Triple.modify fun _ in_ => ⟨in_.gid_eq, in_.common_eq⟩

theorem inState_common (call : σ → α × σ) :
    Triple (InState own s) (Ctx.common call)
      (fun a ctx => InState own (call s).2 ctx ∧ a = (call s).1) nofun := by
  rintro ctx ⟨gid_eq, rfl⟩
  exact ⟨⟨gid_eq, rfl⟩, rfl⟩

theorem inState_updateNodeGraph (u : NodeGraphUpdate) :
    Triple (InState own s) (Ctx.common (cc.updateNodeGraph u))
      (fun rc ctx => InState own (cc.updateNodeGraph u s).2 ctx ∧ (rc = .ok ↔ cc.Accepts u s))
      nofun := by
  refine Triple.weaken (inState_common _) (fun _ in_ => in_) ?_
  rintro rc ctx ⟨in_, rfl⟩
  exact ⟨in_, Iff.rfl⟩

theorem inState_addEntity (lawful : cc.Lawful) (endpGid dpGid : Gid) (topicName typeName : String)
    (typeHash : TypeHash) (qos : EndpointQos) (isReader : Bool) :
    Triple (InState own s)
      (Ctx.addEntity cc endpGid dpGid topicName typeName typeHash qos isReader)
      (fun rc ctx => InState own (cc.graphCache.add isReader endpGid {
          topicName, typeName, typeHash, participantGid := dpGid, qos := qosProfile qos } s).2 ctx ∧
        (rc = .ok ↔ ¬ cc.Has isReader endpGid s)) nofun := by
  refine (inState_common _).bind fun added => Triple.assume fun added_eq =>
    Triple.ite (fun failed => Triple.pure fun ctx in_ => ⟨in_, ?_⟩)
      fun done => Triple.pure fun ctx in_ => ⟨in_, ?_⟩
  · have present : cc.Has isReader endpGid s := by
      simpa [added_eq, lawful.graphCache.add_fst, CommonContext.Has, ← Tables.mem_keys] using failed
    exact iff_of_false (by decide) (not_not_intro present)
  · have absent : ¬ cc.Has isReader endpGid s := by
      simpa [added_eq, lawful.graphCache.add_fst, CommonContext.Has, Tables.mem_keys] using done
    exact iff_of_true rfl absent

theorem inState_removeEntity (lawful : cc.Lawful) (gid : Gid) (isReader : Bool) :
    Triple (InState own s) (Ctx.removeEntity cc gid isReader)
      (fun rc ctx => InState own (cc.graphCache.remove isReader gid s).2 ctx ∧
        (rc = .ok ↔ cc.Has isReader gid s)) nofun := by
  refine (inState_common _).bind fun removed => Triple.assume fun removed_eq =>
    Triple.ite (fun failed => ?_) fun done => Triple.pure fun ctx in_ => ⟨in_, ?_⟩
  · have absent : ¬ cc.Has isReader gid s := by
      simpa [removed_eq, lawful.graphCache.remove_fst, CommonContext.Has, Tables.mem_keys]
        using failed
    exact (inState_setErrorMsg _).bind fun _ =>
      Triple.pure fun ctx in_ => ⟨in_, iff_of_false (by decide) absent⟩
  · have present : cc.Has isReader gid s := by
      rwa [removed_eq, lawful.graphCache.remove_fst, Bool.not_eq_true', Bool.not_eq_false] at done
    exact iff_of_true rfl present

/-- Nothing is entered without its QoS. -/
theorem inState_unread {entity : DataEntity} (unreadable : ∀ qos, entity.qos ≠ .ok qos)
    (msg : String) (isReader : Bool) (typeHash : TypeHash) (gid : Gid) :
    Triple (InState own s) (do
        Ctx.setErrorMsg msg
        return RmwRet.error)
      (fun rc ctx => InState own (cc.enter own isReader entity typeHash gid s) ctx ∧
        (rc = .ok ↔ cc.Enters isReader entity gid s)) nofun := by
  rw [enter_of_unreadable unreadable]
  refine (inState_setErrorMsg _).bind fun _ => Triple.pure fun ctx in_ =>
    ⟨in_, iff_of_false (by decide) fun enters => ?_⟩
  obtain ⟨qos, read⟩ := enters.readable
  exact unreadable qos read

/-- A local writer is entered if it can be. -/
theorem inState_addLocalPublisher (lawful : cc.Lawful) (datawriter : DataEntity)
    (typeHash : TypeHash) (gid : Gid) :
    Triple (InState own s) (Ctx.addLocalPublisher cc datawriter typeHash gid)
      (fun rc ctx => InState own (cc.enter own false datawriter typeHash gid s) ctx ∧
        (rc = .ok ↔ cc.Enters false datawriter gid s)) nofun := by
  unfold Ctx.addLocalPublisher
  split
  · rename_i unread
    exact inState_unread (by simp [unread]) _ _ _ _
  · rename_i unread
    exact inState_unread (by simp [unread]) _ _ _ _
  · rename_i qos read
    refine inState_get.bind fun ctx => Triple.assume fun gid_eq => ?_
    rw [gid_eq, enter_of_readable read]
    exact Triple.weaken (inState_addEntity lawful _ _ _ _ _ _ _) (fun _ in_ => in_) fun rc ctx h =>
      ⟨h.1, h.2.trans ⟨fun absent => ⟨⟨qos, read⟩, absent⟩, fun enters => enters.absent⟩⟩

/-- A local reader is entered if it can be. -/
theorem inState_addLocalSubscriber (lawful : cc.Lawful) (datareader : DataEntity)
    (typeHash : TypeHash) (gid : Gid) :
    Triple (InState own s) (Ctx.addLocalSubscriber cc datareader typeHash gid)
      (fun rc ctx => InState own (cc.enter own true datareader typeHash gid s) ctx ∧
        (rc = .ok ↔ cc.Enters true datareader gid s)) nofun := by
  unfold Ctx.addLocalSubscriber
  split
  · rename_i unread
    exact inState_unread (by simp [unread]) _ _ _ _
  · rename_i unread
    exact inState_unread (by simp [unread]) _ _ _ _
  · rename_i qos read
    refine inState_get.bind fun ctx => Triple.assume fun gid_eq => ?_
    rw [gid_eq, enter_of_readable read]
    exact Triple.weaken (inState_addEntity lawful _ _ _ _ _ _ _) (fun _ in_ => in_) fun rc ctx h =>
      ⟨h.1, h.2.trans ⟨fun absent => ⟨⟨qos, read⟩, absent⟩, fun enters => enters.absent⟩⟩

/-- The scope exit of a service's or a client's hook has captured that there is nothing to do. -/
theorem inState_entitiesReset (subGid pubGid : Gid) :
    Triple (InState own s) (Ctx.entitiesReset cc false false subGid pubGid) (fun _ => InState own s)
      nofun :=
  Triple.pure fun _ in_ => in_

/-- A call whose success is known goes on or fails accordingly. -/
theorem attempted {β : Type} {P P' : RmwContextImpl σ → Prop} {call : Ctx σ RmwRet}
    {failing next : Ctx σ β} {R : β → RmwContextImpl σ → Prop} {c : Prop}
    (h : Triple P call (fun rc ctx => P' ctx ∧ (rc = .ok ↔ c)) nofun)
    (good : c → Triple P' next R nofun) (bad : ¬ c → Triple P' failing R nofun) :
    Triple P (do
      let rc ← call
      if rc ≠ .ok then failing else next) R nofun :=
  h.bind fun _ => Triple.assume fun ok => Triple.ite
    (fun failed => bad fun holds => failed (ok.mpr holds))
    fun done => good (ok.mp (not_not.mp done))

end Rules

/-! ## Registration -/

section Registration

variable {σ : Type} (cc : CommonContext σ) (node : RmwNode) (own : Gid)

/-- A reader and a writer fail to be entered before the first of them is, or not at all. -/
def CommonContext.PairUndone (reader writer : DataEntity) (readerHash writerHash : TypeHash)
    (subGid pubGid : Gid) (update : NodeGraphUpdate) (s : σ) : Prop :=
  cc.Enters true reader subGid s → cc.Enters false writer pubGid s ∧
    cc.Accepts update
      (cc.enter own false writer writerHash pubGid (cc.enter own true reader readerHash subGid s))

/-- When the creation hook of an endpoint leaves no trace of its failure: a publisher's always, a
subscription's where the readers do not have its gid and the node graph accepts what is entered, a
service's or a client's where nothing fails once the reader is entered. -/
def Endpoint.Undone (s : σ) : Endpoint → Prop
  | .publisher _ => True
  | .subscription info => ¬ cc.Has true info.subscriberGid s ∧
    ((∃ qos, info.topicReader.qos = .ok qos) →
      cc.Accepts (.addSubscriber info.subscriberGid node.name node.ns)
        (cc.enter own true info.topicReader info.typeHash info.subscriberGid s))
  | .service info => cc.PairUndone own info.requestReader info.responseWriter info.requestTypeHash
    info.responseTypeHash info.subscriberGid info.publisherGid
    (.addService info.subscriberGid info.publisherGid node.name node.ns) s
  | .client info => cc.PairUndone own info.responseReader info.requestWriter info.responseTypeHash
    info.requestTypeHash info.subscriberGid info.publisherGid
    (.addClient info.publisherGid info.subscriberGid node.name node.ns) s

end Registration

section Registration

variable {σ : Type} {cc : CommonContext σ} {node : RmwNode} {own : Gid} {s : σ}

/-- A hook that fails leaves the tables as they were, if and only if `c`. -/
def Atomic (cc : CommonContext σ) (s : σ) (c : Prop) (rc : RmwRet) (ctx : RmwContextImpl σ) :
    Prop :=
  (rc ≠ .ok → cc.graphCache.tables ctx.commonCtx = cc.graphCache.tables s) ↔ c

theorem Atomic.succeeded {c : Prop} (holds : c) (ctx : RmwContextImpl σ) :
    Atomic cc s c .ok ctx :=
  iff_of_true (fun failed => absurd rfl failed) holds

theorem Atomic.restored {c : Prop} {ctx : RmwContextImpl σ} (holds : c) (rc : RmwRet)
    (same : cc.graphCache.tables ctx.commonCtx = cc.graphCache.tables s) : Atomic cc s c rc ctx :=
  iff_of_true (fun _ => same) holds

/-- A gid that came or went is a trace. -/
theorem Atomic.changed {c : Prop} {ctx : RmwContextImpl σ} (fails : ¬ c) (isReader : Bool)
    (gid : Gid) (differs : ¬ (cc.Has isReader gid ctx.commonCtx ↔ cc.Has isReader gid s)) :
    Atomic cc s c .error ctx := by
  refine iff_of_false (fun same => differs ?_) fails
  rw [CommonContext.Has, same nofun, CommonContext.Has]

/-- A publisher's hook undoes what it did. -/
theorem atomic_onPublisherCreated (lawful : cc.Lawful) (pub : PublisherInfo) :
    Triple (InState own s) (Ctx.onPublisherCreated cc node pub) (Atomic cc s True) nofun := by
  refine attempted (inState_addLocalPublisher lawful _ _ _) (fun enters => ?_) fun not => ?_
  · refine attempted (inState_updateNodeGraph _)
      (fun _ => Triple.pure fun ctx _ => Atomic.succeeded trivial ctx) fun _ => ?_
    refine (inState_setErrorMsg _).bind fun _ => (inState_removeEntity lawful _ _).bind fun _ =>
      Triple.assume fun _ => Triple.pure fun ctx in_ => Atomic.restored trivial _ ?_
    rw [in_.common_eq, lawful.graphCache.remove_snd, lawful.updateNodeGraph,
      ← lawful.graphCache.remove_snd]
    exact tables_remove_enter lawful enters
  · refine (inState_setErrorMsg _).bind fun _ => Triple.pure fun ctx in_ =>
      Atomic.restored trivial _ ?_
    rw [in_.common_eq]
    exact tables_enter_of_not lawful not

/-- A subscription's hook takes out the entry it could not make, and not the one it made. -/
theorem atomic_onSubscriberCreated (lawful : cc.Lawful) (sub : SubscriberInfo) :
    Triple (InState own s) (Ctx.onSubscriberCreated cc node sub)
      (Atomic cc s ((Endpoint.subscription sub).Undone cc node own s)) nofun := by
  refine attempted (inState_addLocalSubscriber lawful _ _ _) (fun enters => ?_) fun not => ?_
  · refine attempted (inState_updateNodeGraph _) (fun accepts => ?_) fun refuses => ?_
    · exact Triple.pure fun ctx _ => Atomic.succeeded ⟨enters.absent, fun _ => accepts⟩ ctx
    · refine (inState_setErrorMsg _).bind fun _ => (inState_removeEntity lawful _ _).bind fun _ =>
        Triple.assume fun _ => Triple.pure fun ctx in_ => ?_
      refine Atomic.changed (fun undone => refuses (undone.2 enters.readable)) true
        sub.subscriberGid fun same => enters.absent (same.mp ?_)
      rw [in_.common_eq, CommonContext.Has, lawful.graphCache.remove_snd, lawful.updateNodeGraph,
        Tables.mem_keys_erase]
      exact ⟨has_enter lawful enters, fun here => absurd here.1 (by decide)⟩
  · refine (inState_setErrorMsg _).bind fun _ => (inState_removeEntity lawful _ _).bind fun _ =>
      Triple.assume fun _ => Triple.pure fun ctx in_ => ?_
    have after : cc.graphCache.tables ctx.commonCtx =
        (cc.graphCache.tables s).erase true sub.subscriberGid := by
      rw [in_.common_eq, lawful.graphCache.remove_snd, tables_enter_of_not lawful not]
    by_cases present : cc.Has true sub.subscriberGid s
    · refine Atomic.changed (fun undone => undone.1 present) true sub.subscriberGid fun same => ?_
      have still := same.mpr present
      rw [CommonContext.Has, after, Tables.mem_keys_erase] at still
      exact still.2 ⟨rfl, rfl⟩
    · refine Atomic.restored ⟨present, fun readable => absurd ⟨readable, present⟩ not⟩ _ ?_
      rw [after, Tables.erase_of_notMem present]

/-- A service's or a client's hook undoes nothing. -/
theorem atomic_pairCreated (lawful : cc.Lawful) (reader writer : DataEntity)
    (readerHash writerHash : TypeHash) (subGid pubGid : Gid) (update : NodeGraphUpdate)
    (graphMsg : String) :
    Triple (InState own s)
      (Ctx.pairCreated cc reader writer readerHash writerHash subGid pubGid update graphMsg)
      (Atomic cc s (cc.PairUndone own reader writer readerHash writerHash subGid pubGid update s))
      nofun := by
  refine attempted (inState_addLocalSubscriber lawful _ _ _) (fun enters => ?_) fun not => ?_
  · have there (s' : σ) (same : cc.graphCache.tables s' = cc.graphCache.tables (cc.enter own false
          writer writerHash pubGid (cc.enter own true reader readerHash subGid s))) :
        cc.Has true subGid s' := by
      rw [CommonContext.Has, same]
      exact (has_enter_other lawful (by decide) _).mpr (has_enter lawful enters)
    refine attempted (inState_addLocalPublisher lawful _ _ _) (fun enters' => ?_) fun not' => ?_
    · refine attempted (inState_updateNodeGraph _) (fun accepts => ?_) fun refuses => ?_
      · have could := (enters_enter_other lawful (by decide)).mp enters'
        exact Triple.pure fun ctx _ => Atomic.succeeded (fun _ => ⟨could, accepts⟩) ctx
      · refine (inState_setErrorMsg _).bind fun _ => (inState_entitiesReset _ _).bind fun _ =>
          Triple.pure fun ctx in_ => ?_
        refine Atomic.changed (fun undone => refuses (undone enters).2) true subGid fun same =>
          enters.absent (same.mp (there _ ?_))
        rw [in_.common_eq, lawful.updateNodeGraph]
    · refine (inState_setErrorMsg _).bind fun _ => (inState_entitiesReset _ _).bind fun _ =>
        Triple.pure fun ctx in_ => ?_
      refine Atomic.changed
        (fun undone => not' ((enters_enter_other lawful (by decide)).mpr (undone enters).1)) true
        subGid fun same => enters.absent (same.mp (there _ ?_))
      rw [in_.common_eq]
  · refine (inState_setErrorMsg _).bind fun _ => (inState_entitiesReset _ _).bind fun _ =>
      Triple.pure fun ctx in_ => Atomic.restored (fun enters => absurd enters not) _ ?_
    rw [in_.common_eq]
    exact tables_enter_of_not lawful not

/-- **A hook that fails leaves the graph's tables as they were exactly under the conditions of its
kind of endpoint.** -/
theorem registration_undone_iff (lawful : cc.Lawful) (node : RmwNode) (e : Endpoint)
    (ctx : RmwContextImpl σ) :
    ((exec (Ctx.onCreated cc node e) ctx).1 ≠ .ok →
        cc.graphCache.tables (exec (Ctx.onCreated cc node e) ctx).2.commonCtx =
          cc.graphCache.tables ctx.commonCtx) ↔
      e.Undone cc node ctx.gid ctx.commonCtx := by
  have start : InState ctx.gid ctx.commonCtx ctx := ⟨rfl, rfl⟩
  cases e with
  | publisher info => exact (atomic_onPublisherCreated lawful info).exec start
  | subscription info => exact (atomic_onSubscriberCreated lawful info).exec start
  | service info => exact (atomic_pairCreated lawful _ _ _ _ _ _ _ _).exec start
  | client info => exact (atomic_pairCreated lawful _ _ _ _ _ _ _ _).exec start

end Registration

/-! ## Unregistration -/

/-- It has a reader and a writer. -/
def Endpoint.paired : Endpoint → Bool
  | .publisher _ => false
  | .subscription _ => false
  | .service _ => true
  | .client _ => true

/-- The update its deletion asks of the node graph. -/
def Endpoint.withdrawal (node : RmwNode) : Endpoint → NodeGraphUpdate
  | .publisher info => .removePublisher info.publisherGid node.name node.ns
  | .subscription info => .removeSubscriber info.subscriberGid node.name node.ns
  | .service info => .removeService info.subscriberGid info.publisherGid node.name node.ns
  | .client info => .removeService info.subscriberGid info.publisherGid node.name node.ns

section Unregistration

variable {σ : Type} (cc : CommonContext σ)

/-- The common context without the entries of an endpoint. -/
def CommonContext.without (s : σ) : Endpoint → σ
  | .publisher info => (cc.graphCache.remove false info.publisherGid s).2
  | .subscription info => (cc.graphCache.remove true info.subscriberGid s).2
  | .service info => (cc.graphCache.remove false info.publisherGid
      (cc.graphCache.remove true info.subscriberGid s).2).2
  | .client info => (cc.graphCache.remove false info.publisherGid
      (cc.graphCache.remove true info.subscriberGid s).2).2

/-- The graph cache has every entry of an endpoint. -/
def CommonContext.HasAll (s : σ) (e : Endpoint) : Prop :=
  ∀ isReader gid, e.gid isReader = some gid → cc.Has isReader gid s

/-- The graph cache has no entry of an endpoint. -/
def CommonContext.HasNone (s : σ) (e : Endpoint) : Prop :=
  ∀ isReader gid, e.gid isReader = some gid → ¬ cc.Has isReader gid s

/-- The graph knows an endpoint, and the node graph lets it go. -/
def CommonContext.Withdraws (node : RmwNode) (s : σ) (e : Endpoint) : Prop :=
  cc.HasAll s e ∧ cc.Accepts (e.withdrawal node) (cc.without s e)

end Unregistration

section Unregistration

variable {σ : Type} {cc : CommonContext σ} {node : RmwNode} {own : Gid} {s : σ}

theorem has_remove (lawful : cc.Lawful) {isReader : Bool} {gid : Gid} {other : Bool} {gid' : Gid} :
    cc.Has other gid' (cc.graphCache.remove isReader gid s).2 ↔
      cc.Has other gid' s ∧ ¬ (other = isReader ∧ gid' = gid) := by
  rw [CommonContext.Has, lawful.graphCache.remove_snd, Tables.mem_keys_erase, CommonContext.Has]

theorem has_updateNodeGraph (lawful : cc.Lawful) {u : NodeGraphUpdate} {isReader : Bool}
    {gid : Gid} :
    cc.Has isReader gid (cc.updateNodeGraph u s).2 ↔ cc.Has isReader gid s := by
  rw [CommonContext.Has, lawful.updateNodeGraph, CommonContext.Has]

theorem hasNone_without (lawful : cc.Lawful) (e : Endpoint) : cc.HasNone (cc.without s e) e := by
  intro isReader gid its
  cases e with
  | publisher info =>
    rw [Endpoint.gid_publisher] at its
    exact fun still => ((has_remove lawful).mp still).2 its
  | subscription info =>
    rw [Endpoint.gid_subscription] at its
    exact fun still => ((has_remove lawful).mp still).2 its
  | service info =>
    intro still
    obtain ⟨earlier, other⟩ := (has_remove lawful).mp still
    rcases Endpoint.gid_service.mp its with its | its
    · exact other its
    · exact ((has_remove lawful).mp earlier).2 its
  | client info =>
    intro still
    obtain ⟨earlier, other⟩ := (has_remove lawful).mp still
    rcases Endpoint.gid_client.mp its with its | its
    · exact other its
    · exact ((has_remove lawful).mp earlier).2 its

theorem hasAll_publisher {info : PublisherInfo} :
    cc.HasAll s (.publisher info) ↔ cc.Has false info.publisherGid s := by
  constructor
  · exact fun has => has false _ rfl
  · intro has isReader gid its
    obtain ⟨rfl, rfl⟩ := Endpoint.gid_publisher.mp its
    exact has

theorem hasAll_subscription {info : SubscriberInfo} :
    cc.HasAll s (.subscription info) ↔ cc.Has true info.subscriberGid s := by
  constructor
  · exact fun has => has true _ rfl
  · intro has isReader gid its
    obtain ⟨rfl, rfl⟩ := Endpoint.gid_subscription.mp its
    exact has

/-- No update of the node graph brings an entry back. -/
theorem hasNone_updateNodeGraph (lawful : cc.Lawful) (u : NodeGraphUpdate) (e : Endpoint) :
    cc.HasNone (cc.updateNodeGraph u (cc.without s e)).2 e := by
  intro isReader gid its still
  exact hasNone_without lawful e isReader gid its ((has_updateNodeGraph lawful).mp still)

/-- A hook leaves no entry of its endpoint, and reports its success as it should, unless the
endpoint has two of them: then it reports success. -/
def Reports (cc : CommonContext σ) (node : RmwNode) (s : σ) (e : Endpoint) (rc : RmwRet)
    (ctx : RmwContextImpl σ) : Prop :=
  cc.HasNone ctx.commonCtx e ∧ (rc = .ok ↔ (e.paired = false → cc.Withdraws node s e))

/-- The deletion hook of an endpoint with one entry, whatever it calls its failures. -/
theorem reports_single (lawful : cc.Lawful) {isReader : Bool} {gid : Gid} {e : Endpoint}
    (single : e.paired = false) (hasAll : cc.HasAll s e ↔ cc.Has isReader gid s)
    (without : (cc.graphCache.remove isReader gid s).2 = cc.without s e)
    (removal update : String) :
    Triple (InState own s) (do
      let rc ← Ctx.removeEntity cc gid isReader
      if rc ≠ .ok then
        Ctx.setErrorMsg removal
        return .error
      else
        let rc ← Ctx.common (cc.updateNodeGraph (e.withdrawal node))
        if rc ≠ .ok then
          Ctx.setErrorMsg update
          return .error
        else return .ok) (Reports cc node s e) nofun := by
  have gone : Triple (InState own s) (Ctx.removeEntity cc gid isReader) _ nofun :=
    inState_removeEntity lawful gid isReader
  rw [without] at gone
  refine attempted gone (fun has => ?_) fun absent => ?_
  · refine attempted (inState_updateNodeGraph _) (fun accepts => ?_) fun refuses => ?_
    · refine Triple.pure fun ctx in_ =>
        ⟨?_, iff_of_true rfl fun _ => ⟨hasAll.mpr has, accepts⟩⟩
      rw [in_.common_eq]
      exact hasNone_updateNodeGraph lawful _ e
    · refine (inState_setErrorMsg _).bind fun _ => Triple.pure fun ctx in_ =>
        ⟨?_, iff_of_false (by decide) fun withdraws => refuses (withdraws single).2⟩
      rw [in_.common_eq]
      exact hasNone_updateNodeGraph lawful _ e
  · refine (inState_setErrorMsg _).bind fun _ => Triple.pure fun ctx in_ =>
      ⟨?_, iff_of_false (by decide) fun withdraws => absent (hasAll.mp (withdraws single).1)⟩
    rw [in_.common_eq]
    exact hasNone_without lawful e

/-- Whatever fails, a pair's hook reports success. -/
theorem inState_pairDeleted (lawful : cc.Lawful) (subGid pubGid : Gid) (update : NodeGraphUpdate) :
    Triple (InState own s) (Ctx.pairDeleted cc subGid pubGid update)
      (fun rc ctx => InState own (cc.updateNodeGraph update
        (cc.graphCache.remove false pubGid (cc.graphCache.remove true subGid s).2).2).2 ctx ∧
          rc = .ok) nofun :=
  (inState_removeEntity lawful _ _).bind fun _ => Triple.assume fun _ =>
    (inState_removeEntity lawful _ _).bind fun _ => Triple.assume fun _ =>
      (inState_updateNodeGraph _).bind fun _ => Triple.assume fun _ =>
        Triple.pure fun _ in_ => ⟨in_, rfl⟩

theorem reports_onDeleted (lawful : cc.Lawful) (e : Endpoint) :
    Triple (InState own s) (Ctx.onDeleted cc node e) (Reports cc node s e) nofun := by
  have paired : ∀ {hook : Ctx σ RmwRet}, e.paired = true →
      Triple (InState own s) hook (fun rc ctx =>
        InState own (cc.updateNodeGraph (e.withdrawal node) (cc.without s e)).2 ctx ∧ rc = .ok)
        nofun →
      Triple (InState own s) hook (Reports cc node s e) nofun := by
    intro hook paired runs
    refine runs.weaken (fun _ in_ => in_) ?_
    rintro rc ctx ⟨in_, rfl⟩
    refine ⟨?_, iff_of_true rfl fun single => absurd paired (by rw [single]; exact nofun)⟩
    rw [in_.common_eq]
    exact hasNone_updateNodeGraph lawful _ e
  cases e with
  | publisher info => exact reports_single lawful rfl hasAll_publisher rfl _ _
  | subscription info => exact reports_single lawful rfl hasAll_subscription rfl _ _
  | service info => exact paired rfl (inState_pairDeleted lawful _ _ _)
  | client info => exact paired rfl (inState_pairDeleted lawful _ _ _)

/-- **No entry of an endpoint is left by its deletion hook, and the hook reports whether everything
was there and went, exactly where the endpoint is a publisher or a subscription or everything
does.** -/
theorem unregistration_reported_iff (lawful : cc.Lawful) (node : RmwNode) (e : Endpoint)
    (ctx : RmwContextImpl σ) :
    (((exec (Ctx.onDeleted cc node e) ctx).1 = .ok ↔
        (∀ isReader gid, e.gid isReader = some gid → gid ∈ ctx.keys cc isReader ∧
          gid ∉ (exec (Ctx.onDeleted cc node e) ctx).2.keys cc isReader) ∧
        cc.Accepts (e.withdrawal node) (cc.without ctx.commonCtx e)) ∧
      ∀ isReader gid, e.gid isReader = some gid →
        gid ∉ (exec (Ctx.onDeleted cc node e) ctx).2.keys cc isReader) ↔
      (e.paired = true → cc.Withdraws node ctx.commonCtx e) := by
  have start : InState ctx.gid ctx.commonCtx ctx := ⟨rfl, rfl⟩
  obtain ⟨hasNone, ok_iff⟩ : Reports cc node ctx.commonCtx e _ _ :=
    (reports_onDeleted lawful e).exec start
  have all : (∀ isReader gid, e.gid isReader = some gid → gid ∈ ctx.keys cc isReader ∧
      gid ∉ (exec (Ctx.onDeleted cc node e) ctx).2.keys cc isReader) ↔
      cc.HasAll ctx.commonCtx e := by
    constructor
    · exact fun both isReader gid its => (both isReader gid its).1
    · exact fun has isReader gid its => ⟨has isReader gid its, hasNone isReader gid its⟩
  refine (and_iff_left hasNone).trans ?_
  rw [all, ok_iff]
  show ((_ → _) ↔ cc.Withdraws node ctx.commonCtx e) ↔ _
  cases e.paired <;> simp

end Unregistration

/-! ## Samples -/

/-- A reader or a writer of the sample context. -/
def resetEntity (topicName : String) : DataEntity where
  topicName := topicName
  typeName := "std_srvs::srv::dds_::Empty_"
  qos := .ok {
    history := some { kind := .keepLast, depth := 10 }
    reliability := .reliable
    durability := .volatile
    deadline := .infinite
    liveliness := { kind := .automatic, leaseDuration := .infinite }
    lifespan := some .infinite }

/-- A service of the sample context. -/
def resetService : ServiceInfo where
  publisherGid := sampleGid
  subscriberGid := sampleGid
  responseWriter := resetEntity "rr/resetReply"
  requestReader := resetEntity "rq/resetRequest"
  requestTypeHash := .zero
  responseTypeHash := .zero

/-- The sample context with the service's writer in the graph. -/
def writerThere : RmwContextImpl (Tables Bool Gid EntityInfo) where
  gid := emptyContext.gid
  commonCtx := tablesContext.enter emptyContext.gid false resetService.responseWriter .zero
    sampleGid emptyContext.commonCtx
  errorMsg := none

theorem registration_undone_iff_sample :
    ((exec (Ctx.onCreated tablesContext sampleNode samplePublisher) emptyContext).1 ≠ .ok →
        (exec (Ctx.onCreated tablesContext sampleNode samplePublisher) emptyContext).2.commonCtx =
          emptyContext.commonCtx) ↔
      samplePublisher.Undone tablesContext sampleNode emptyContext.gid emptyContext.commonCtx :=
  registration_undone_iff tablesContext_lawful sampleNode samplePublisher emptyContext

/-- The reader of a service stays when its writer cannot be entered. -/
theorem service_registration_partial :
    ¬ ((exec (Ctx.onServiceCreated tablesContext sampleNode resetService) writerThere).1 ≠ .ok →
      (exec (Ctx.onServiceCreated tablesContext sampleNode resetService) writerThere).2.commonCtx =
        writerThere.commonCtx) := by
  intro undone
  have same := congrFun (congrFun (undone (by decide)) true) sampleGid
  have gone : writerThere.commonCtx true sampleGid = none := rfl
  rw [gone] at same
  exact absurd same (by decide)

theorem unregistration_reported_iff_sample :
    (((exec (Ctx.onDeleted tablesContext sampleNode samplePublisher) emptyContext).1 = .ok ↔
        (∀ isReader gid, samplePublisher.gid isReader = some gid →
          gid ∈ emptyContext.keys tablesContext isReader ∧
          gid ∉ (exec (Ctx.onDeleted tablesContext sampleNode samplePublisher)
            emptyContext).2.keys tablesContext isReader) ∧
        tablesContext.Accepts (samplePublisher.withdrawal sampleNode)
          (tablesContext.without emptyContext.commonCtx samplePublisher)) ∧
      ∀ isReader gid, samplePublisher.gid isReader = some gid →
        gid ∉ (exec (Ctx.onDeleted tablesContext sampleNode samplePublisher)
          emptyContext).2.keys tablesContext isReader) ↔
      (samplePublisher.paired = true →
        tablesContext.Withdraws sampleNode emptyContext.commonCtx samplePublisher) :=
  unregistration_reported_iff tablesContext_lawful sampleNode samplePublisher emptyContext

/-- A service of which the graph knows nothing is taken out of it with success. -/
theorem service_unregistration_silent :
    ¬ ((exec (Ctx.onServiceDeleted tablesContext sampleNode resetService) emptyContext).1 = .ok ↔
      (∀ isReader gid, (Endpoint.service resetService).gid isReader = some gid →
        gid ∈ emptyContext.keys tablesContext isReader ∧
        gid ∉ (exec (Ctx.onServiceDeleted tablesContext sampleNode resetService)
          emptyContext).2.keys tablesContext isReader) ∧
      tablesContext.Accepts ((Endpoint.service resetService).withdrawal sampleNode)
        (tablesContext.without emptyContext.commonCtx (.service resetService))) := by
  intro reports
  have was := (reports.mp rfl).1 true sampleGid rfl
  have nothing : sampleGid ∉ emptyContext.keys tablesContext true := nofun
  exact nothing was.1

end Graph

import RmwGurumdds.Graph.Listing

/-!
# What the graph lists of a node

Besides its entries the graph cache keeps the gids of each node of its participant. The hooks that
enter an endpoint and take it out again add its gids to its node's, and remove them. A user asks for
the names and types of a node's publishers, subscriptions, services or clients; the query goes
through the readers of the node or through its writers, and tells what it is for by the topics.

What the contexts' users have done is kept in a register, which says which node has which endpoint.
What is found under the gids of a node is what is in the register (`Site.Registered.found_iff`).
-/

namespace Graph

open Wire Rmw Store Exec Names

/-! ## The gids of the nodes -/

/-- A node by its name and namespace. -/
def RmwNode.key (node : RmwNode) : String × String := (node.name, node.ns)

/-- The node an update is about. -/
def NodeGraphUpdate.node : NodeGraphUpdate → String × String
  | .addPublisher _ name ns => (name, ns)
  | .removePublisher _ name ns => (name, ns)
  | .addSubscriber _ name ns => (name, ns)
  | .removeSubscriber _ name ns => (name, ns)
  | .addService _ _ name ns => (name, ns)
  | .removeService _ _ name ns => (name, ns)
  | .addClient _ _ name ns => (name, ns)

/-- An update adds gids, or removes them. -/
def NodeGraphUpdate.adds : NodeGraphUpdate → Bool
  | .addPublisher .. => true
  | .removePublisher .. => false
  | .addSubscriber .. => true
  | .removeSubscriber .. => false
  | .addService .. => true
  | .removeService .. => false
  | .addClient .. => true

/-- The gid of a reader, or of a writer, that an update is about. -/
def NodeGraphUpdate.gid : NodeGraphUpdate → (isReader : Bool) → Option Gid
  | .addPublisher gid .., isReader => if isReader then none else some gid
  | .removePublisher gid .., isReader => if isReader then none else some gid
  | .addSubscriber gid .., isReader => if isReader then some gid else none
  | .removeSubscriber gid .., isReader => if isReader then some gid else none
  | .addService subscriberGid publisherGid .., isReader =>
    some (if isReader then subscriberGid else publisherGid)
  | .removeService subscriberGid publisherGid .., isReader =>
    some (if isReader then subscriberGid else publisherGid)
  | .addClient publisherGid subscriberGid .., isReader =>
    some (if isReader then subscriberGid else publisherGid)

/-- The gids of each node's readers, and of its writers. -/
abbrev NodeGids := String × String → (isReader : Bool) → Set Gid

/-- What an update makes of the gids. -/
def NodeGraphUpdate.apply (u : NodeGraphUpdate) (gids : NodeGids) : NodeGids :=
  fun node isReader => {gid | if node = u.node ∧ u.gid isReader = some gid then u.adds = true
    else gid ∈ gids node isReader}

/-- The graph keeps these gids: updates of the node graph change them as they say, and nothing else
does. -/
structure CommonContext.KeepsGids {σ : Type} (cc : CommonContext σ) (gids : σ → NodeGids) :
    Prop where
  update : ∀ u s, gids (cc.updateNodeGraph u s).2 = u.apply (gids s)
  add : ∀ isReader gid info s, gids (cc.graphCache.add isReader gid info s).2 = gids s
  remove : ∀ isReader gid s, gids (cc.graphCache.remove isReader gid s).2 = gids s

/-- The same of whatever can be seen of the gids, where `act` says what an update makes of it. -/
structure CommonContext.Views {σ β : Type} (cc : CommonContext σ) (gids : σ → β)
    (act : NodeGraphUpdate → β → β) : Prop where
  update : ∀ u s, gids (cc.updateNodeGraph u s).2 = act u (gids s)
  add : ∀ isReader gid info s, gids (cc.graphCache.add isReader gid info s).2 = gids s
  remove : ∀ isReader gid s, gids (cc.graphCache.remove isReader gid s).2 = gids s

theorem CommonContext.KeepsGids.views {σ : Type} {cc : CommonContext σ} {gids : σ → NodeGids}
    (keeps : cc.KeepsGids gids) : cc.Views gids NodeGraphUpdate.apply :=
  ⟨keeps.update, keeps.add, keeps.remove⟩

/-! ## Queries -/

section Functions

variable {σ : Type}
  (getByNode : (isReader : Bool) → Demangling → String × String → σ → RmwRet × NamesAndTypes)
  (validateNodeName validateNamespace : String → Option String)

variable (nodeName nodeNamespace : String) (isZero : Bool)

end Functions

/-! ## What the calls do to the gids -/

/-- The update that comes with an endpoint's creation. -/
def Endpoint.joins (node : RmwNode) : Endpoint → NodeGraphUpdate
  | .publisher info => .addPublisher info.publisherGid node.name node.ns
  | .subscription info => .addSubscriber info.subscriberGid node.name node.ns
  | .service info => .addService info.subscriberGid info.publisherGid node.name node.ns
  | .client info => .addClient info.publisherGid info.subscriberGid node.name node.ns

/-- The update that comes with its destruction. -/
def Endpoint.leaves (node : RmwNode) : Endpoint → NodeGraphUpdate
  | .publisher info => .removePublisher info.publisherGid node.name node.ns
  | .subscription info => .removeSubscriber info.subscriberGid node.name node.ns
  | .service info => .removeService info.subscriberGid info.publisherGid node.name node.ns
  | .client info => .removeService info.subscriberGid info.publisherGid node.name node.ns

section Updates

variable {e : Endpoint} {node : RmwNode} {gids : NodeGids} {key : String × String}
  {isReader : Bool} {gid : Gid}

theorem mem_joins : gid ∈ (e.joins node).apply gids key isReader ↔
    (key = node.key ∧ e.gid isReader = some gid) ∨ gid ∈ gids key isReader := by
  cases e <;> cases isReader <;>
    simp [NodeGraphUpdate.apply, Endpoint.joins, NodeGraphUpdate.node, NodeGraphUpdate.gid,
      NodeGraphUpdate.adds, Endpoint.gid, RmwNode.key]
  all_goals tauto

theorem mem_leaves : gid ∈ (e.leaves node).apply gids key isReader ↔
    ¬ (key = node.key ∧ e.gid isReader = some gid) ∧ gid ∈ gids key isReader := by
  cases e <;> cases isReader <;>
    simp [NodeGraphUpdate.apply, Endpoint.leaves, NodeGraphUpdate.node, NodeGraphUpdate.gid,
      NodeGraphUpdate.adds, Endpoint.gid, RmwNode.key]

end Updates

section Hooks

variable {σ α β : Type} {cc : CommonContext σ} {gids : σ → β} {act : NodeGraphUpdate → β → β}

/-- The gids that a context keeps, or whatever else can be seen of them. -/
def gidsOf (gids : σ → β) (ctx : RmwContextImpl σ) : β := gids ctx.commonCtx

theorem keeps_setErrorMsg (msg : String) : Keeps (gidsOf gids) (Ctx.setErrorMsg msg) :=
  .modify fun _ => rfl

theorem keeps_addEntity (keeps : cc.Views gids act) (endpGid dpGid : Gid)
    (topicName typeName : String) (typeHash : TypeHash) (qos : EndpointQos) (isReader : Bool) :
    Keeps (gidsOf gids)
      (Ctx.addEntity cc endpGid dpGid topicName typeName typeHash qos isReader) := by
  have added (info : EntityInfo) :
      Keeps (gidsOf gids) (Ctx.common (cc.graphCache.add isReader endpGid info)) :=
    fun _ s same => (keeps.add isReader endpGid info s.commonCtx).trans same
  exact (added _).bind fun _ => .ite .pure .pure

theorem keeps_removeEntity (keeps : cc.Views gids act) (gid : Gid) (isReader : Bool) :
    Keeps (gidsOf gids) (Ctx.removeEntity cc gid isReader) := by
  have removed : Keeps (gidsOf gids) (Ctx.common (cc.graphCache.remove isReader gid)) :=
    fun _ s same => (keeps.remove isReader gid s.commonCtx).trans same
  exact removed.bind fun _ => .ite ((keeps_setErrorMsg _).bind fun _ => .pure) .pure

theorem keeps_addLocalPublisher (keeps : cc.Views gids act) (datawriter : DataEntity)
    (typeHash : TypeHash) (gid : Gid) :
    Keeps (gidsOf gids) (Ctx.addLocalPublisher cc datawriter typeHash gid) := by
  unfold Ctx.addLocalPublisher
  split
  · exact (keeps_setErrorMsg _).bind fun _ => .pure
  · exact (keeps_setErrorMsg _).bind fun _ => .pure
  · exact Keeps.get.bind fun _ => keeps_addEntity keeps _ _ _ _ _ _ _

theorem keeps_addLocalSubscriber (keeps : cc.Views gids act) (datareader : DataEntity)
    (typeHash : TypeHash) (gid : Gid) :
    Keeps (gidsOf gids) (Ctx.addLocalSubscriber cc datareader typeHash gid) := by
  unfold Ctx.addLocalSubscriber
  split
  · exact (keeps_setErrorMsg _).bind fun _ => .pure
  · exact (keeps_setErrorMsg _).bind fun _ => .pure
  · exact Keeps.get.bind fun _ => keeps_addEntity keeps _ _ _ _ _ _ _

/-- The announcements of others are none of a node's. -/
theorem keeps_discover (keeps : cc.Views gids act) (host : ByteOrder) (d : Discovery) :
    Keeps (gidsOf gids) (Ctx.discover cc host d) := by
  have added (endpGuid dpGuid : Guid) (topicName typeName : String) (userData : UserData)
      (qos : EndpointQos) (isReader : Bool) : Keeps (gidsOf gids)
      (Ctx.addRemoteEntity cc endpGuid dpGuid topicName typeName userData qos isReader) := by
    refine Keeps.get.bind fun ctx => .ite .pure ?_
    split
    · exact keeps_addEntity keeps _ _ _ _ _ _ _
    · refine Keeps.bind ?_ fun _ => keeps_addEntity keeps _ _ _ _ _ _ _
      exact .modify fun _ => rfl
  have removed (guid : Guid) (isReader : Bool) :
      Keeps (gidsOf gids) (Ctx.removeRemoteEntity cc guid isReader) :=
    Keeps.get.bind fun ctx => .ite .pure (keeps_removeEntity keeps _ _)
  cases d with
  | publication data handle =>
    exact .ite ((removed _ _).bind fun _ => .pure) ((added _ _ _ _ _ _ _).bind fun _ => .pure)
  | subscription data handle =>
    exact .ite ((removed _ _).bind fun _ => .pure) ((added _ _ _ _ _ _ _).bind fun _ => .pure)

/-- A program changes the gids by an update exactly if it ends well. -/
abbrev Updates (gids : σ → β) (f : β → β) (good : α → Prop) (m : Ctx σ α) : Prop :=
  ∀ was, Triple (fun ctx => gidsOf gids ctx = was) m
    (fun a ctx => (good a → gidsOf gids ctx = f was) ∧ (¬ good a → gidsOf gids ctx = was)) nofun

/-- A program that changes no gids ends well exactly if `φ`. -/
abbrev Confirms (gids : σ → β) (φ : Prop) (good : α → Prop) (m : Ctx σ α) : Prop :=
  ∀ was, Triple (fun ctx => gidsOf gids ctx = was) m
    (fun a ctx => gidsOf gids ctx = was ∧ (good a ↔ φ)) nofun

variable {f : β → β} {good : α → Prop} {φ : Prop}

theorem Confirms.pure {a : α} (same : good a ↔ φ) : Confirms gids φ good (pure a : Ctx σ α) :=
  fun _ => Triple.pure fun _ kept => ⟨kept, same⟩

theorem Confirms.after {m : Ctx σ Unit} {a : α} (kept : Keeps (gidsOf gids) m)
    (same : good a ↔ φ) : Confirms gids φ good (do m; return a) :=
  fun was => (kept.total was).bind fun _ => Confirms.pure same was

/-- What ends badly changes nothing. -/
theorem Confirms.updates {m : Ctx σ α} (h : Confirms gids False good m) :
    Updates gids f good m := by
  refine fun was => Triple.weaken (h was) (fun _ same => same) ?_
  rintro a ctx ⟨kept, bad⟩
  exact ⟨fun well => absurd well (not_of_iff_false bad), fun _ => kept⟩

/-- What comes before the update changes nothing. -/
theorem Updates.after {γ : Type} {first : Ctx σ γ} {next : γ → Ctx σ α}
    (kept : Keeps (gidsOf gids) first) (rest : ∀ b, Updates gids f good (next b)) :
    Updates gids f good (first >>= next) :=
  fun was => (kept.total was).bind fun b => rest b was

/-- What follows it confirms how it went. -/
theorem Updates.confirmed {γ : Type} {m : Ctx σ γ} {P : γ → Prop} {next : γ → Ctx σ α}
    (h : Updates gids f P m) (confirms : ∀ b, Confirms gids (P b) good (next b)) :
    Updates gids f good (m >>= next) := by
  refine fun was => (h was).bind fun b => ?_
  by_cases well : P b
  · refine Triple.weaken (confirms b (f was)) (fun _ now => now.1 well) ?_
    rintro a ctx ⟨kept, same⟩
    exact ⟨fun _ => kept, fun bad => absurd (same.mpr well) bad⟩
  · refine Triple.weaken (confirms b was) (fun _ now => now.2 well) ?_
    rintro a ctx ⟨kept, same⟩
    exact ⟨fun good => absurd (same.mp good) well, fun _ => kept⟩

theorem Updates.ite {c : Prop} [Decidable c] {m m' : Ctx σ α} (h : c → Updates gids f good m)
    (h' : ¬ c → Updates gids f good m') : Updates gids f good (if c then m else m') :=
  fun was => Triple.ite (fun yes => h yes was) fun no => h' no was

theorem Confirms.ite {c : Prop} [Decidable c] {m m' : Ctx σ α} (h : c → Confirms gids φ good m)
    (h' : ¬ c → Confirms gids φ good m') : Confirms gids φ good (if c then m else m') :=
  fun was => Triple.ite (fun yes => h yes was) fun no => h' no was

/-! ### Hooks -/

/-- The update itself. -/
theorem gids_updateNodeGraph (keeps : cc.Views gids act) (succeeds : cc.NodeGraphSucceeds)
    (u : NodeGraphUpdate) (was : β) :
    Triple (fun ctx => gidsOf gids ctx = was) (Ctx.common (cc.updateNodeGraph u))
      (fun rc ctx => gidsOf gids ctx = act u was ∧ rc = RmwRet.ok) nofun := by
  rintro ctx rfl
  exact ⟨keeps.update u ctx.commonCtx, succeeds _ _⟩

theorem updates_updateNodeGraph (keeps : cc.Views gids act) (succeeds : cc.NodeGraphSucceeds)
    (u : NodeGraphUpdate) :
    Updates gids (act u) (fun rc => rc = RmwRet.ok) (Ctx.common (cc.updateNodeGraph u)) :=
  fun was => Triple.weaken (gids_updateNodeGraph keeps succeeds u was) (fun _ same => same)
    fun _ _ h => ⟨fun _ => h.1, fun bad => absurd h.2 bad⟩

/-- A return code that decides what is returned. -/
theorem confirms_checked {failing : Ctx σ α} {a : α} {rc : RmwRet}
    (fails : Confirms gids False good failing) (well : good a) :
    Confirms gids (rc = .ok) good (if rc ≠ .ok then failing else return a) :=
  .ite (fun bad was => Triple.weaken (fails was) (fun _ same => same)
      fun _ _ h => ⟨h.1, h.2.trans (iff_of_false not_false bad)⟩)
    fun ok => .pure (iff_of_true well (not_not.mp ok))

theorem updates_pairCreated (keeps : cc.Views gids act) (succeeds : cc.NodeGraphSucceeds)
    (reader writer : DataEntity) (readerHash writerHash : TypeHash) (subGid pubGid : Gid)
    (u : NodeGraphUpdate) (graphMsg : String) :
    Updates gids (act u) (fun rc => rc = RmwRet.ok)
      (Ctx.pairCreated cc reader writer readerHash writerHash subGid pubGid u graphMsg) := by
  have failing (msg : String) : Confirms gids False (fun rc => rc = RmwRet.ok) (do
      Ctx.setErrorMsg msg
      Ctx.entitiesReset cc false false subGid pubGid
      return RmwRet.error : Ctx σ RmwRet) :=
    fun was => ((keeps_setErrorMsg msg).total was).bind fun _ =>
      Confirms.after (m := pure ()) .pure (by decide) was
  exact .after (keeps_addLocalSubscriber keeps _ _ _) fun _ =>
    .ite (fun _ => (failing _).updates) fun _ =>
      .after (keeps_addLocalPublisher keeps _ _ _) fun _ =>
        .ite (fun _ => (failing _).updates) fun _ =>
          (updates_updateNodeGraph keeps succeeds u).confirmed fun _ =>
            confirms_checked (failing _) rfl

theorem updates_pairDeleted (keeps : cc.Views gids act) (succeeds : cc.NodeGraphSucceeds)
    (subGid pubGid : Gid) (u : NodeGraphUpdate) :
    Updates gids (act u) (fun rc => rc = RmwRet.ok) (Ctx.pairDeleted cc subGid pubGid u) := by
  refine .after (keeps_removeEntity keeps _ _) fun _ =>
    .after (keeps_removeEntity keeps _ _) fun _ was =>
      (gids_updateNodeGraph keeps succeeds u was).bind fun rc => Triple.pure fun ctx h => ?_
  exact ⟨fun _ => h.1, fun bad => absurd rfl bad⟩

theorem updates_onPublisherCreated (keeps : cc.Views gids act) (succeeds : cc.NodeGraphSucceeds)
    (node : RmwNode) (pub : PublisherInfo) :
    Updates gids (act (Endpoint.joins node (.publisher pub))) (fun rc => rc = RmwRet.ok)
      (Ctx.onPublisherCreated cc node pub) := by
  refine .after (keeps_addLocalPublisher keeps _ _ _) fun _ =>
    .ite (fun _ => (Confirms.after (keeps_setErrorMsg _) (by decide)).updates) fun _ =>
      (updates_updateNodeGraph keeps succeeds _).confirmed fun _ => confirms_checked ?_ rfl
  exact fun was => ((keeps_setErrorMsg _).total was).bind fun _ =>
    ((keeps_removeEntity keeps _ _).total was).bind fun _ => Confirms.pure (by decide) was

theorem updates_onSubscriberCreated (keeps : cc.Views gids act) (succeeds : cc.NodeGraphSucceeds)
    (node : RmwNode) (sub : SubscriberInfo) :
    Updates gids (act (Endpoint.joins node (.subscription sub))) (fun rc => rc = RmwRet.ok)
      (Ctx.onSubscriberCreated cc node sub) := by
  have failing (msg : String) (isReader : Bool) : Confirms gids False (fun rc => rc = RmwRet.ok)
      (do
        Ctx.setErrorMsg msg
        let _ ← Ctx.removeEntity cc sub.subscriberGid isReader
        return RmwRet.error : Ctx σ RmwRet) :=
    fun was => ((keeps_setErrorMsg _).total was).bind fun _ =>
      ((keeps_removeEntity keeps _ _).total was).bind fun _ => Confirms.pure (by decide) was
  exact .after (keeps_addLocalSubscriber keeps _ _ _) fun _ =>
    .ite (fun _ => (failing _ _).updates) fun _ =>
      (updates_updateNodeGraph keeps succeeds _).confirmed fun _ =>
        confirms_checked (failing _ _) rfl

/-- **Creation** adds the gids of an endpoint to its node's, if the graph is told of it. -/
theorem updates_create (keeps : cc.Views gids act) (succeeds : cc.NodeGraphSucceeds)
    (range : AutomaticDiscoveryRange) (node : RmwNode) (e : Endpoint) :
    Updates gids (act (e.joins node)) (fun created => created = true ∧ e.Told range)
      (Ctx.create cc range node e) := by
  have answered {γ : Type} (e : Endpoint) (told : e.Told range) (rmw : Option γ) :
      Confirms gids (rmw.isSome = true) (fun created => created = true ∧ e.Told range)
        (return rmw.isSome : Ctx σ Bool) :=
    .pure (and_iff_left told)
  have unranged {e : Endpoint} (h : ¬ e.ranged = true) : e.Told range := fun ranged =>
    absurd ranged h
  cases e with
  | publisher info =>
    by_cases localhost : range = .localhost
    · -- The range keeps the publisher out, and no hook runs.
      refine Confirms.updates fun was => ?_
      simp only [Ctx.create, Ctx.rmwCreatePublisher, Ctx.createPublisher, localhost, decide_true,
        Bool.not_true, Bool.false_eq_true, if_false]
      exact Confirms.pure (iff_false_intro fun here => here.2 rfl rfl) was
    · refine Updates.confirmed (P := fun rmw => rmw.isSome = true) ?_
        (answered _ fun _ => localhost)
      refine Updates.confirmed (P := fun rmw => rmw.isSome = true) ?_ fun rmw => ?_
      · simp only [Ctx.createPublisher, localhost, decide_false, Bool.not_false, if_true]
        exact (updates_onPublisherCreated keeps succeeds node info).confirmed fun _ =>
          confirms_checked (.pure (by simp)) rfl
      · cases rmw with
        | none => exact .after (keeps_setErrorMsg _) (by simp)
        | some rmw => exact .pure (by simp)
  | subscription info =>
    by_cases localhost : range = .localhost
    · refine Confirms.updates fun was => ?_
      simp only [Ctx.create, Ctx.rmwCreateSubscription, Ctx.createSubscription, localhost,
        decide_true, Bool.not_true, Bool.false_eq_true, if_false]
      exact Confirms.pure (iff_false_intro fun here => here.2 rfl rfl) was
    · refine Updates.confirmed (P := fun rmw => rmw.isSome = true) ?_
        (answered _ fun _ => localhost)
      refine Updates.confirmed (P := fun rmw => rmw.isSome = true) ?_ fun rmw => ?_
      · simp only [Ctx.createSubscription, localhost, decide_false, Bool.not_false, if_true]
        exact (updates_onSubscriberCreated keeps succeeds node info).confirmed fun _ =>
          confirms_checked (.after (keeps_setErrorMsg _) (by simp)) rfl
      · cases rmw with
        | none => exact .after (keeps_setErrorMsg _) (by simp)
        | some rmw => exact .pure (by simp)
  | service info =>
    refine Updates.confirmed (P := fun rmw => rmw.isSome = true) ?_
      (answered (.service info) (unranged Bool.false_ne_true))
    exact (updates_pairCreated keeps succeeds _ _ _ _ _ _ _ _).confirmed fun rc =>
      confirms_checked (.pure (by simp)) rfl
  | client info =>
    refine Updates.confirmed (P := fun rmw => rmw.isSome = true) ?_
      (answered (.client info) (unranged Bool.false_ne_true))
    exact (updates_pairCreated keeps succeeds _ _ _ _ _ _ _ _).confirmed fun rc =>
      confirms_checked (.pure (by simp)) rfl

/-- **Destruction** removes them. -/
theorem updates_destroy (keeps : cc.Views gids act) (succeeds : cc.NodeGraphSucceeds)
    (node : RmwNode) (e : Endpoint) :
    Updates gids (act (e.leaves node)) (fun ret => ret = RmwRet.ok)
      (Ctx.destroy cc node .ok e) := by
  have fails : Confirms gids False (fun ret => ret = RmwRet.ok) (return .error : Ctx σ RmwRet) :=
    .pure (by decide)
  cases e with
  | publisher info =>
    have hook : Updates gids (act (Endpoint.leaves node (.publisher info)))
        (fun rc => rc = RmwRet.ok)
        (Ctx.onPublisherDeleted cc node info) :=
      .after (keeps_removeEntity keeps _ _) fun _ =>
        .ite (fun _ => (Confirms.after (keeps_setErrorMsg _) (by decide)).updates) fun _ =>
          (updates_updateNodeGraph keeps succeeds _).confirmed fun _ =>
            confirms_checked (.after (keeps_setErrorMsg _) (by decide)) rfl
    exact hook.confirmed fun _ => confirms_checked fails rfl
  | subscription info =>
    have hook : Updates gids (act (Endpoint.leaves node (.subscription info)))
        (fun rc => rc = RmwRet.ok)
        (Ctx.onSubscriberDeleted cc node info) :=
      .after (keeps_removeEntity keeps _ _) fun _ =>
        .ite (fun _ => (Confirms.after (keeps_setErrorMsg _) (by decide)).updates) fun _ =>
          (updates_updateNodeGraph keeps succeeds _).confirmed fun _ =>
            confirms_checked (.after (keeps_setErrorMsg _) (by decide)) rfl
    exact hook.confirmed fun _ => confirms_checked fails rfl
  | service info =>
    exact (updates_pairDeleted keeps succeeds _ _ _).confirmed fun _ => confirms_checked fails rfl
  | client info =>
    exact (updates_pairDeleted keeps succeeds _ _ _).confirmed fun _ => confirms_checked fails rfl

end Hooks

/-! ## The register -/

deriving instance DecidableEq for RmwNode

section Site

variable {ι σ : Type} [DecidableEq ι] {site : Site ι σ} {n : Network ι σ} {ms : List (Move ι)}
  {i j : ι} {gids : σ → NodeGids}

variable (site j) in
/-- What a move makes of a context's register: a node has an endpoint once it is created, and until
it is destroyed, which only endpoints can be that the graph is told of. -/
def Site.registers (register : List (RmwNode × Endpoint)) :
    Move ι → List (RmwNode × Endpoint)
  | .call i (.create node e) => if i = j then (node, e) :: register else register
  | .call i (.destroy node e) =>
    if i = j ∧ e.Told (site.range j) then register.erase (node, e) else register
  | .deliver .. => register

variable (site j) in
/-- The endpoints that the nodes of a context have after some moves. -/
def Site.register (ms : List (Move ι)) : List (RmwNode × Endpoint) :=
  run (site.registers j) [] ms

/-- An endpoint of a context is destroyed through the node that has it. -/
def Site.Orderly (site : Site ι σ) (j : ι) (ms : List (Move ι)) : Prop :=
  Each (fun before m => ∀ node e, m = .call j (.destroy node e) →
    (node, e) ∈ site.register j before) ms

/-- **What every move keeps** of a context: the endpoints alive are those in its register, and each
node has the gids of its endpoints that the graph is told of. -/
structure Site.Registered (site : Site ι σ) (gids : σ → NodeGids) (j : ι) (s : Session σ)
    (register : List (RmwNode × Endpoint)) : Prop where
  alive : (register.map Prod.snd).Perm s.alive
  gids : ∀ key isReader gid, gid ∈ gidsOf gids s.ctx key isReader ↔
    ∃ node e, (node, e) ∈ register ∧ e.Told (site.range j) ∧ node.key = key ∧
      e.gid isReader = some gid

/-- **A call** of the context itself. -/
theorem Site.Registered.call (keeps : site.cc.KeepsGids gids) (lawful : site.Lawful)
    (sound : site.Sound n) {register : List (RmwNode × Endpoint)}
    (reg : site.Registered gids j (n.session j) register) {c : Call}
    (admits : (n.session j).Admits c)
    (orderly : ∀ node e, c = .destroy node e → (node, e) ∈ register) :
    site.Registered gids j ((n.session j).step site.cc (site.range j) c)
      (site.registers j register (.call j c)) := by
  cases sound.called lawful admits with
  | created node e is readable of apart alive news at_ =>
    subst is
    have created :
        (exec (Ctx.create site.cc (site.range j) node e) (n.session j).ctx).1 = true := by
      by_contra failed
      simp [Session.news, failed] at news
    obtain ⟨joined, untouched⟩ := (updates_create keeps.views lawful.succeeds (site.range j) node e
      (gidsOf gids (n.session j).ctx)).exec rfl
    rw [Site.registers, if_pos rfl]
    refine ⟨?_, fun key isReader gid => ?_⟩
    · rw [alive]
      exact reg.alive.cons e
    · simp only [List.mem_cons, Prod.mk.injEq, or_and_right, exists_or, and_assoc,
        exists_and_left, exists_eq_left, ← reg.gids]
      by_cases told : e.Told (site.range j)
      · rw [Session.step, joined ⟨created, told⟩, mem_joins, and_iff_right told, eq_comm]
      · rw [Session.step, untouched fun here => told here.2]
        exact (or_iff_right fun here => told here.1).symm
  | destroyed node e is mem alive news told at_ =>
    subst is
    have destroyed : (exec (Ctx.destroy site.cc node .ok e) (n.session j).ctx).1 = .ok := by
      by_contra failed
      simp [Session.news, failed] at news
    have left := ((updates_destroy keeps.views lawful.succeeds node e
      (gidsOf gids (n.session j).ctx)).exec rfl).1 destroyed
    have entries := List.perm_cons_erase (orderly node e rfl)
    have rest : ((register.erase (node, e)).map Prod.snd).Perm ((n.session j).alive.erase e) :=
      ((entries.map Prod.snd).symm.trans (reg.alive.trans (List.perm_cons_erase mem))).cons_inv
    have apart : ∀ other ∈ (n.session j).alive.erase e, e.Apart other :=
      (List.pairwise_cons.mp (((List.perm_cons_erase mem).pairwise_iff Endpoint.Apart.symm).mp
        (sound.apart j))).1
    rw [Site.registers, if_pos ⟨rfl, told⟩]
    refine ⟨alive ▸ rest, fun key isReader gid => ?_⟩
    rw [Session.step, left, mem_leaves, reg.gids]
    constructor
    · rintro ⟨others, node', e', there, told', rfl, has⟩
      rcases List.mem_cons.mp (entries.subset there) with here | stays
      · obtain ⟨rfl, rfl⟩ := Prod.mk.inj here
        exact absurd ⟨rfl, has⟩ others
      · exact ⟨node', e', stays, told', rfl, has⟩
    · rintro ⟨node', e', stays, told', rfl, has⟩
      have alive' := rest.subset (List.mem_map_of_mem stays)
      refine ⟨fun here => apart e' alive' isReader gid here.2 has, node', e', ?_, told', rfl, has⟩
      exact List.mem_of_mem_erase stays
  | refused node e is alive news at_ =>
    subst is
    have failed : (exec (Ctx.destroy site.cc node .ok e) (n.session j).ctx).1 ≠ .ok := by
      intro destroyed
      simp [Session.news, destroyed] at news
    have untold : ¬ e.Told (site.range j) := by
      intro told
      have here : site.cc.At (site.own j) (site.cc.graphCache.tables (n.session j).ctx.commonCtx)
          (n.session j).ctx := ⟨sound.own j, rfl⟩
      exact failed ((holds_destroy_entered node lawful.common lawful.succeeds
        fun isReader gid has => sound.listed_told admits told has).exec here).1
    have kept := ((updates_destroy keeps.views lawful.succeeds node e
      (gidsOf gids (n.session j).ctx)).exec rfl).2 failed
    rw [Site.registers, if_neg fun here => untold here.2]
    refine ⟨alive ▸ reg.alive, fun key isReader gid => ?_⟩
    rw [Session.step, kept, reg.gids]

/-- A move of another context, or a delivery, leaves a context's endpoints and their gids alone. -/
theorem Site.step_other {β : Type} {gids : σ → β} {act : NodeGraphUpdate → β → β}
    (views : site.cc.Views gids act) {m : Move ι} (other : ∀ c, m ≠ .call j c) :
    ((site.step n m).session j).alive = (n.session j).alive ∧
      gidsOf gids ((site.step n m).session j).ctx = gidsOf gids (n.session j).ctx := by
  cases m with
  | call i c =>
    have ne : j ≠ i := fun same => other c (same ▸ rfl)
    rw [session_call_of_ne ne]
    exact ⟨rfl, rfl⟩
  | deliver i isReader k =>
    cases next : (n.feed i isReader).next k with
    | none =>
      rw [show site.step n (.deliver i isReader k) = n by simp [Site.step, next]]
      exact ⟨rfl, rfl⟩
    | some news =>
      have session : (site.step n (.deliver i isReader k)).session = Function.update n.session k
          { n.session k with ctx := (exec (Ctx.discover site.cc (site.host k)
            (site.dds.discovery isReader news)) (n.session k).ctx).2 } := by
        simp [Site.step, next]
      rcases eq_or_ne j k with rfl | ne
      · rw [session, Function.update_self]
        exact ⟨rfl, (keeps_discover views (site.host j) (site.dds.discovery isReader news)
          (gidsOf gids (n.session j).ctx)).exec rfl⟩
      · rw [session, Function.update_of_ne ne]
        exact ⟨rfl, rfl⟩

/-- Such a move leaves a context's nodes alone. -/
theorem Site.Registered.other (keeps : site.cc.KeepsGids gids)
    {register : List (RmwNode × Endpoint)}
    (reg : site.Registered gids j (n.session j) register) {m : Move ι}
    (other : ∀ c, m ≠ .call j c) :
    site.Registered gids j ((site.step n m).session j) (site.registers j register m) := by
  obtain ⟨alive, kept⟩ := site.step_other (n := n) keeps.views other
  have same : site.registers j register m = register := by
    cases m with
    | call i c =>
      have ne : i ≠ j := fun same => other c (same ▸ rfl)
      cases c with
      | create node e => exact if_neg ne
      | destroy node e => exact if_neg fun here => ne here.1
    | deliver i isReader k => rfl
  rw [same]
  exact ⟨alive ▸ reg.alive, fun key isReader gid => by rw [kept, reg.gids]⟩

/-- **The register is right** after every run. -/
theorem Site.Fresh.registered (fresh : site.Fresh n) (lawful : site.Lawful)
    (admits : site.AdmitsAll n ms) (orderly : site.Orderly j ms) (keeps : site.cc.KeepsGids gids)
    (empty : ∀ key isReader, gidsOf gids (n.session j).ctx key isReader = ∅) :
    site.Registered gids j ((site.after n ms).session j) (site.register j ms) := by
  have sound := fresh.always_sound lawful admits
  induction ms using List.reverseRecOn with
  | nil =>
    refine ⟨?_, fun key isReader gid => ?_⟩
    · rw [show (site.after n []).session j = n.session j from rfl, fresh.alive j]
      exact .refl _
    · rw [show (site.after n []).session j = n.session j from rfl, empty]
      simp [Site.register]
  | append_singleton ms m ih =>
    obtain ⟨admits, now⟩ := each_concat.mp admits
    obtain ⟨orderly, owned⟩ := each_concat.mp orderly
    have before := (always_concat.mp sound).1
    have reg := ih admits orderly before
    have last : site.Sound (site.after n ms) := before.last
    rw [Site.after, Site.register, run_concat, run_concat]
    by_cases mine : ∃ c, m = .call j c
    · obtain ⟨c, rfl⟩ := mine
      rw [session_call]
      exact reg.call keeps lawful last now.1 fun node e is => owned node e (is ▸ rfl)
    · exact reg.other keeps (not_exists.mp mine)

/-- What a node has was created. -/
theorem Site.Registered.on {s : Session σ} (reg : site.Registered gids j s (site.register j ms))
    (created : ∀ e ∈ s.alive, ∃ node, Move.call j (.create node e) ∈ ms)
    (conventional : Conventional ms) {node : RmwNode} {e : Endpoint}
    (there : (node, e) ∈ site.register j ms) : ∃ kind name type, e.On kind name type := by
  obtain ⟨creator, called⟩ := created e (reg.alive.subset (List.mem_map_of_mem there))
  exact conventional j creator e called

end Site

end Graph

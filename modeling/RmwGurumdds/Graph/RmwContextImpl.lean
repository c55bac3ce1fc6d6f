import RmwGurumdds.Exec.Runs
import RmwGurumdds.Graph.GraphCache

/-!
# Remote endpoints

DDS announces the endpoints of other participants and withdraws them again, each time through one of
two callbacks of the context. A callback derives the endpoint's GUID and its participant's from the
announced keys, and enters the endpoint into the graph or takes it out.

Both callbacks take a withdrawn endpoint out of the table of writers, also the one for
subscriptions. So the graph tracks remote endpoints exactly as long as no subscription is withdrawn
that was announced, and none that shares its gid with a publication (`remote_tracked_iff`).
-/

namespace Graph

open Wire Rmw Store Exec

/-! ## Callbacks -/

/-- `dds_InstanceHandle_t`: `dds_HANDLE_NIL` or another. -/
inductive InstanceHandle where
  | nil
  | of (id : Nat)
deriving DecidableEq

/-- The bytes of a `dds_BuiltinTopicKey_t`. -/
abbrev BuiltinTopicKey := Vector Byte 12

/-- `dds_SubscriptionBuiltinTopicData`. -/
structure SubscriptionBuiltinTopicData where
  key : BuiltinTopicKey
  participantKey : BuiltinTopicKey
  topicName : String
  typeName : String
  userData : UserData
  reliability : ReliabilityKind
  durability : DurabilityKind
  deadline : DdsDuration
  liveliness : LivelinessQosPolicy

/-- `dds_PublicationBuiltinTopicData`. -/
structure PublicationBuiltinTopicData extends SubscriptionBuiltinTopicData where
  lifespan : DdsDuration

/-- `Guid_t::ENTITYID_PARTICIPANT`, as a host keeps it in memory. -/
def entityIdParticipant : ByteOrder → Vector Byte 4
  | .little => #v[0xc1, 0x01, 0x00, 0x00]
  | .big => #v[0x00, 0x00, 0x01, 0xc1]

/-- `Guid_t::Guid_t`. -/
def endpointGuid (data : SubscriptionBuiltinTopicData) : Guid where
  guidPrefix := data.participantKey
  entityId := data.key.extract 0 4

/-- `Guid_t::for_participant`. -/
def participantGuid (host : ByteOrder) (data : SubscriptionBuiltinTopicData) : Guid where
  guidPrefix := data.participantKey
  entityId := entityIdParticipant host

section Callbacks

variable {σ : Type} (cc : CommonContext σ) (host : ByteOrder)

/-- `on_publication_changed`. -/
def Ctx.onPublicationChanged (data : PublicationBuiltinTopicData) (handle : InstanceHandle) :
    Ctx σ Unit := do
  let dpGuid := participantGuid host data.toSubscriptionBuiltinTopicData
  let endpGuid := endpointGuid data.toSubscriptionBuiltinTopicData
  if handle = .nil then
    let _ ← Ctx.removeRemoteEntity cc endpGuid false
  else
    let _ ← Ctx.addRemoteEntity cc endpGuid dpGuid data.topicName data.typeName data.userData
      { history := none, reliability := data.reliability, durability := data.durability,
        deadline := data.deadline, liveliness := data.liveliness, lifespan := some data.lifespan }
      false

/-- `on_subscription_changed`. -/
def Ctx.onSubscriptionChanged (data : SubscriptionBuiltinTopicData) (handle : InstanceHandle) :
    Ctx σ Unit := do
  let dpGuid := participantGuid host data
  let endpGuid := endpointGuid data
  if handle = .nil then
    let _ ← Ctx.removeRemoteEntity cc endpGuid false
  else
    let _ ← Ctx.addRemoteEntity cc endpGuid dpGuid data.topicName data.typeName data.userData
      { history := none, reliability := data.reliability, durability := data.durability,
        deadline := data.deadline, liveliness := data.liveliness, lifespan := none }
      true

end Callbacks

/-! ## Events -/

/-- A call of one of the callbacks. -/
inductive Discovery where
  | publication (data : PublicationBuiltinTopicData) (handle : InstanceHandle)
  | subscription (data : SubscriptionBuiltinTopicData) (handle : InstanceHandle)

/-- The endpoint an event is about. -/
def Discovery.data : Discovery → SubscriptionBuiltinTopicData
  | .publication data _ => data.toSubscriptionBuiltinTopicData
  | .subscription data _ => data

def Discovery.handle : Discovery → InstanceHandle
  | .publication _ handle => handle
  | .subscription _ handle => handle

/-- Whether the endpoint is a reader. -/
def Discovery.isReader : Discovery → Bool
  | .publication .. => false
  | .subscription .. => true

def Discovery.gid (e : Discovery) : Gid := guidToGid (endpointGuid e.data)

/-- The event announces this endpoint. -/
def Discovery.announces (isReader : Bool) (gid : Gid) (e : Discovery) : Prop :=
  e.handle ≠ .nil ∧ isReader = e.isReader ∧ gid = e.gid

/-- The event withdraws this endpoint. -/
def Discovery.withdraws (isReader : Bool) (gid : Gid) (e : Discovery) : Prop :=
  e.handle = .nil ∧ isReader = e.isReader ∧ gid = e.gid

/-- An identifier that is not of the participant `own`. -/
def Remote (own gid : Gid) : Prop := gid.toList.take 12 ≠ own.toList.take 12

instance (own gid : Gid) : Decidable (Remote own gid) := inferInstanceAs (Decidable (_ ≠ _))

/-- What the context does with an event. -/
def Ctx.discover {σ : Type} (cc : CommonContext σ) (host : ByteOrder) : Discovery → Ctx σ Unit
  | .publication data handle => Ctx.onPublicationChanged cc host data handle
  | .subscription data handle => Ctx.onSubscriptionChanged cc host data handle

/-! ## Tracking -/

section Tracking

variable {σ : Type} {cc : CommonContext σ} {host : ByteOrder} {own : Gid}
  {t : Tables Bool Gid EntityInfo}

/-- A participant shares its prefix with its endpoints. -/
theorem participantGuid_ne {data : SubscriptionBuiltinTopicData}
    (foreign : Remote own (guidToGid (endpointGuid data))) :
    guidToGid (participantGuid host data) ≠ own := by
  rintro rfl
  apply foreign
  rw [guidToGid_take, guidToGid_take]
  rfl

/-- **A withdrawal changes the table of writers**, whichever endpoint it withdraws. -/
theorem holds_discover (host : ByteOrder) (lawful : cc.Lawful) {e : Discovery}
    (foreign : Remote own e.gid) :
    Holds cc own t (Ctx.discover cc host e) fun _ ctx =>
      if e.handle = .nil then cc.At own (t.erase false e.gid) ctx
      else ∃ info, cc.At own (t.emplace e.isReader e.gid info) ctx := by
  cases e with
  | publication data handle =>
    refine Triple.ite (fun nil => ?_) fun other => ?_
    · simp only [Discovery.handle, nil, if_true]
      exact (holds_removeRemoteEntity lawful foreign false).bind
        fun _ => Triple.pure fun _ at_ => at_
    · simp only [Discovery.handle, other, if_false]
      exact (holds_addRemoteEntity lawful _ (participantGuid_ne foreign) _ _ _ _ _).bind
        fun _ => Triple.pure fun _ at_ => at_
  | subscription data handle =>
    refine Triple.ite (fun nil => ?_) fun other => ?_
    · simp only [Discovery.handle, nil, if_true]
      exact (holds_removeRemoteEntity lawful foreign false).bind
        fun _ => Triple.pure fun _ at_ => at_
    · simp only [Discovery.handle, other, if_false]
      exact (holds_addRemoteEntity lawful _ (participantGuid_ne foreign) _ _ _ _ _).bind
        fun _ => Triple.pure fun _ at_ => at_

variable (cc host)

/-- The context after some events. -/
def discovered (ctx : RmwContextImpl σ) (es : List Discovery) : RmwContextImpl σ :=
  run (fun ctx e => (exec (Ctx.discover cc host e) ctx).2) ctx es

/-- The endpoints the graph cache holds. -/
def RmwContextImpl.keys (ctx : RmwContextImpl σ) (isReader : Bool) : Set Gid :=
  (cc.graphCache.tables ctx.commonCtx).keys isReader

/-- The remote part of each table is what has been announced and not withdrawn since. -/
def Tracked (ctx : RmwContextImpl σ) (es : List Discovery) : Prop :=
  ∀ isReader gid, Remote ctx.gid gid →
    (gid ∈ (discovered cc host ctx es).keys cc isReader ↔
      Since (Discovery.announces isReader gid) (Discovery.withdraws isReader gid) es)

/-- A withdrawal of a subscription names an endpoint of neither table. -/
def Harmless (before : List Discovery) (e : Discovery) : Prop :=
  e.isReader = true → e.handle = .nil → ∀ isReader,
    ¬ Since (Discovery.announces isReader e.gid) (Discovery.withdraws isReader e.gid) before

variable {cc host} {ctx : RmwContextImpl σ} {es : List Discovery} {e : Discovery}

/-- One event, on the context that earlier ones left. -/
theorem discovered_concat (lawful : cc.Lawful) (own_eq : (discovered cc host ctx es).gid = ctx.gid)
    (foreign : Remote ctx.gid e.gid) :
    (discovered cc host ctx (es ++ [e])).gid = ctx.gid ∧
      ∀ isReader gid, gid ∈ (discovered cc host ctx (es ++ [e])).keys cc isReader ↔
        if e.handle = .nil then
          gid ∈ (discovered cc host ctx es).keys cc isReader ∧ ¬ (isReader = false ∧ gid = e.gid)
        else
          (isReader = e.isReader ∧ gid = e.gid) ∨
            gid ∈ (discovered cc host ctx es).keys cc isReader := by
  have after := (holds_discover host lawful foreign).exec
    (s := discovered cc host ctx es) ⟨own_eq, rfl⟩
  unfold discovered at after ⊢
  rw [run_concat]
  split at after
  · rename_i nil
    refine ⟨after.gid_eq, fun isReader gid => ?_⟩
    rw [if_pos nil, RmwContextImpl.keys, after.tables_eq, Tables.mem_keys_erase]
    rfl
  · rename_i other
    obtain ⟨info, at_⟩ := after
    refine ⟨at_.gid_eq, fun isReader gid => ?_⟩
    rw [if_neg other, RmwContextImpl.keys, at_.tables_eq, Tables.mem_keys_emplace]
    rfl

/-- What the events say, one event later. -/
theorem since_announced_concat {isReader : Bool} {gid : Gid} :
    Since (Discovery.announces isReader gid) (Discovery.withdraws isReader gid) (es ++ [e]) ↔
      if e.handle = .nil then
        Since (Discovery.announces isReader gid) (Discovery.withdraws isReader gid) es ∧
          ¬ (isReader = e.isReader ∧ gid = e.gid)
      else
        (isReader = e.isReader ∧ gid = e.gid) ∨
          Since (Discovery.announces isReader gid) (Discovery.withdraws isReader gid) es := by
  rw [since_concat, Discovery.announces, Discovery.withdraws]
  split
  · rename_i nil
    simp [nil]
  · rename_i other
    simp [other]

/-- **One event keeps the graph right exactly when it is harmless.** -/
theorem tracked_concat (lawful : cc.Lawful) (own_eq : (discovered cc host ctx es).gid = ctx.gid)
    (remote : Remote ctx.gid e.gid) (tracked : Tracked cc host ctx es) :
    Tracked cc host ctx (es ++ [e]) ↔ Harmless es e := by
  have now := (discovered_concat lawful own_eq remote).2
  constructor
  · intro same reader nil isReader announced
    have entry := same isReader e.gid remote
    rw [now, since_announced_concat, if_pos nil, if_pos nil, tracked isReader e.gid remote,
      reader] at entry
    cases isReader with
    | false => exact (entry.mpr ⟨announced, nofun⟩).2 ⟨rfl, rfl⟩
    | true => exact (entry.mp ⟨announced, nofun⟩).2 ⟨rfl, rfl⟩
  · intro harmless isReader gid elsewhere
    rw [now, since_announced_concat, tracked isReader gid elsewhere]
    by_cases nil : e.handle = .nil
    · rw [if_pos nil, if_pos nil]
      cases reader : e.isReader with
      | false => rfl
      | true =>
        -- No table has the endpoint, so it does not matter which one it is taken out of.
        refine and_congr_right fun announced => ?_
        have other : gid ≠ e.gid := by
          rintro rfl
          exact harmless reader nil isReader announced
        simp [other]
    · rw [if_neg nil, if_neg nil]

/-- **The graph tracks remote endpoints exactly as long as every withdrawal of a subscription is
harmless.** -/
theorem remote_tracked_iff (lawful : cc.Lawful)
    (fresh : ∀ isReader gid, Remote ctx.gid gid → gid ∉ ctx.keys cc isReader)
    (foreign : ∀ e ∈ es, Remote ctx.gid e.gid) :
    Always (Tracked cc host ctx) es ↔ Each Harmless es := by
  refine always_iff_each (I := fun es => (discovered cc host ctx es).gid = ctx.gid) rfl
    (fun isReader gid elsewhere => ?_) fun before e started own_eq tracked => ?_
  · exact iff_of_false (fresh isReader gid elsewhere) not_since_nil
  · have remote := foreign e (started.subset (by simp))
    exact ⟨fun _ => (discovered_concat lawful own_eq remote).1,
      tracked_concat lawful own_eq remote tracked⟩

end Tracking

/-! ## Samples -/

/-- A common context that is nothing but its tables. Type hashes are those of empty user data. -/
def tablesContext : CommonContext (Tables Bool Gid EntityInfo) where
  graphCache := Tables.store
  updateNodeGraph _ t := (.ok, t)
  parseTypeHashFromUserData _ _ := some .zero

theorem tablesContext_lawful : tablesContext.Lawful := ⟨Tables.store_lawful, fun _ _ => rfl⟩

/-- A context with an empty graph. -/
def emptyContext : RmwContextImpl (Tables Bool Gid EntityInfo) where
  gid := Vector.replicate 16 0
  commonCtx := fun _ _ => none
  errorMsg := none

/-- An endpoint of another participant. -/
def sampleData (x : Byte) : SubscriptionBuiltinTopicData where
  key := Vector.replicate 12 x
  participantKey := Vector.replicate 12 1
  topicName := "rt/chatter"
  typeName := "std_msgs::msg::dds_::String_"
  userData := { value := [], size := 0 }
  reliability := .reliable
  durability := .volatile
  deadline := .infinite
  liveliness := { kind := .automatic, leaseDuration := .infinite }

/-- A publication and a subscription come, and the publication goes. -/
def sampleEvents : List Discovery :=
  [.publication { sampleData 2 with lifespan := .infinite } (.of 1),
    .subscription (sampleData 3) (.of 2),
    .publication { sampleData 2 with lifespan := .infinite } .nil]

theorem remote_tracked_iff_sample :
    Always (Tracked tablesContext .little emptyContext) sampleEvents ↔ Each Harmless sampleEvents :=
  remote_tracked_iff tablesContext_lawful (fun _ _ _ => nofun) (by decide)

/-- A subscription that comes and goes. -/
def departure : List Discovery :=
  [.subscription (sampleData 3) (.of 2), .subscription (sampleData 3) .nil]

/-- It is still in the table of readers when it is gone. -/
theorem departure_untracked :
    ¬ Always (Tracked tablesContext .little emptyContext) departure := by
  intro always
  have entry := always.last true (guidToGid (endpointGuid (sampleData 3))) (by decide)
  have there : guidToGid (endpointGuid (sampleData 3)) ∈
      (discovered tablesContext .little emptyContext departure).keys tablesContext true := rfl
  have gone := entry.mp there
  rw [departure, ← List.singleton_append, since_announced_concat] at gone
  exact gone.2 ⟨rfl, rfl⟩

end Graph

import RmwGurumdds.Endpoints.Destruction

/-!
# Destroying again

A handle is destroyed in attempts until one of them returns `RMW_RET_OK`. By then everything DDS
made for it is gone (`Clean.gone`), and nothing should have been deleted twice (`Clean.once`).

For publishers and subscriptions that is so under all failures, because no attempt after the first
gets past the hook of the graph (`clean_hooked`). For services and clients it is a matter of how
many attempts get to a deletion whose pointer stays: those in which the writer can be deleted
(`retried_iff`).
-/

namespace Endpoints

open Rmw Exec
open Lifecycle (Handle)

section Attempts

variable {Info : Type}

/-- All of `required` was deleted. -/
def Gone (required : List Object) (h : Holder Info) : Prop :=
  ∀ object ∈ required, object ∈ h.deleted

/-- Nothing was deleted twice, and once an attempt returned, `required` was deleted. -/
structure Clean (required : List Object) (returned : Bool) (h : Holder Info) : Prop where
  once : h.deleted.Nodup
  gone : returned = true → Gone required h

/-- What attempts leave, with the ledger of what they deleted. -/
def Left (begins : Attempt → Bool) (marker : Object) (remains : Holder Info → Prop)
    (attempts : List Attempt) (h : Holder Info) : Prop :=
  Ledger begins marker attempts h.deleted ∧ remains h

/-- **A handle is destroyed cleanly exactly if at most one attempt begins**, when a ledger can be
kept of its attempts. -/
theorem clean_iff {m : Attempt → Destroy Info Unit} {begins : Attempt → Bool} {marker : Object}
    {remains : Holder Info → Prop} {required : List Object} {info : Info}
    {attempts : List Attempt} {returned : Bool} {h : Holder Info}
    (made : Attempts m (Holder.created info) attempts returned h)
    (start : remains (Holder.created info))
    (step : ∀ attempts a, Triple (Left begins marker remains attempts) (m a)
      (fun _ => Left begins marker (Gone required) (attempts ++ [a]))
      (fun _ => Left begins marker remains (attempts ++ [a]))) :
    Clean required returned h ↔ attempts.countP begins ≤ 1 := by
  have ends := made.ends ⟨.nil, start⟩ step
  cases returned with
  | true =>
    obtain ⟨ledger, gone⟩ := ends
    rw [← ledger.nodup_iff]
    exact ⟨Clean.once, fun once => ⟨once, fun _ => gone⟩⟩
  | false =>
    obtain ⟨ledger, -⟩ := ends
    rw [← ledger.nodup_iff]
    exact ⟨Clean.once, fun once => ⟨once, nofun⟩⟩

end Attempts

/-! ## Publishers and subscriptions -/

section Hooked

variable {Info : Type}

/-- Nothing of a handle has been deleted yet, and only the hook of the graph has been called. -/
structure Untouched (info : Info) (h : Holder Info) : Prop where
  data : h.data = some info
  gone : h.inGraphCache = false
  deleted : h.deleted = []

/-- A handle that attempts raised on. If the graph cache still has its gid, there was no attempt. -/
structure Remains (info : Info) (h : Holder Info) : Prop where
  once : h.deleted.Nodup
  fresh : h.inGraphCache = true → h.data = some info ∧ h.deleted = []

/-- The hook lets an attempt through only if it is the first one. -/
theorem onDeleted_step {info : Info} (removeGraph : Bool) (entityMsg graphMsg : String) :
    Triple (Remains info) (onDeleted removeGraph entityMsg graphMsg) (fun _ => Untouched info)
      (fun _ => Remains info) := by
  rintro ⟨data, inGraphCache, deleted, errorMsg⟩ ⟨once, fresh⟩
  cases inGraphCache with
  | false => exact ⟨once, nofun⟩
  | true =>
    obtain ⟨here, none⟩ := fresh rfl
    cases removeGraph with
    | false => exact ⟨once, nofun⟩
    | true => exact ⟨here, rfl, none⟩

/-- **What the hook of the graph guards can be destroyed again after any failure**, if one call of
it is clean. -/
theorem clean_hooked {info : Info} {required : List Object} {destroy : Attempt → Destroy Info Unit}
    {entityMsg graphMsg : String} {attempts : List Attempt} {returned : Bool} {h : Holder Info}
    (made : Attempts (fun a => do onDeleted a.removeGraph entityMsg graphMsg; destroy a)
      (Holder.created info) attempts returned h)
    (once : ∀ a, Triple (Untouched info) (destroy a)
      (fun _ h => h.deleted.Nodup ∧ Gone required h) fun _ => Remains info) :
    Clean required returned h := by
  have start : Remains info (Holder.created info) := ⟨List.nodup_nil, fun _ => ⟨rfl, rfl⟩⟩
  have ends := made.ends (I := fun _ => Remains info)
    (R := fun _ h => h.deleted.Nodup ∧ Gone required h) start fun _ a =>
      (onDeleted_step a.removeGraph entityMsg graphMsg).bind fun _ =>
        once a
  cases returned with
  | true => exact ⟨ends.1, fun _ => ends.2⟩
  | false => exact ⟨ends.once, nofun⟩

end Hooked

/-- One call of `destroy_publisher`. -/
theorem destroyPublisher_once {topicWriter : Handle} (a : Attempt) :
    Triple (Untouched { topicWriter := some topicWriter }) (destroyPublisher a)
      (fun _ h => h.deleted.Nodup ∧ Gone [.writer topicWriter] h)
      fun _ => Remains { topicWriter := some topicWriter } := by
  obtain ⟨graph, writer, readCondition, reader, topic⟩ := a
  rintro ⟨_, _, _, errorMsg⟩ ⟨rfl, rfl, rfl⟩
  cases writer with
  | false => exact ⟨List.nodup_nil, nofun⟩
  | true =>
    have once : [Object.writer topicWriter].Nodup := List.nodup_singleton _
    cases topic with
    | ok | preconditionNotMet => exact ⟨once, fun _ mem => mem⟩
    | error => exact ⟨once, nofun⟩

section Subscription

variable {info : SubscriberInfo} {topicReader : Handle}

/-- The reader of a subscription and its read condition. -/
def SubscriberInfo.required (info : SubscriberInfo) (topicReader : Handle) : List Object :=
  [.reader topicReader, .readCondition info.readCondition]

/-- One call of `destroy_subscription`. -/
theorem destroySubscription_once (a : Attempt) :
    Triple (Untouched { info with topicReader := some topicReader }) (destroySubscription a)
      (fun _ h => h.deleted.Nodup ∧ Gone (info.required topicReader) h)
      fun _ => Remains { info with topicReader := some topicReader } := by
  obtain ⟨graph, writer, readCondition, reader, topic⟩ := a
  rintro ⟨_, _, _, errorMsg⟩ ⟨rfl, rfl, rfl⟩
  let sequences : List Object :=
    [.rawDataSizes info.rawDataSizes, .infoSeq info.infoSeq, .dataSeq info.dataSeq]
  cases readCondition with
  | false =>
    have once : sequences.Nodup := by simp [sequences]
    exact ⟨once, nofun⟩
  | true =>
    cases reader with
    | false =>
      have once : (.readCondition info.readCondition :: sequences).Nodup := by simp [sequences]
      exact ⟨once, nofun⟩
    | true =>
      have once :
          (.reader topicReader :: .readCondition info.readCondition :: sequences).Nodup := by
        simp [sequences]
      cases topic with
      | ok | preconditionNotMet => exact ⟨once, by simp [Gone, SubscriberInfo.required]⟩
      | error => exact ⟨once, nofun⟩

end Subscription

/-! ## Services and clients -/

/-- Endpoints of which none is missing. -/
def CallEndpoints.all (writer reader readCondition dataSeq infoSeq rawDataSizes : Handle) :
    CallEndpoints where
  writer := some writer
  reader := some reader
  readCondition := some readCondition
  dataSeq := dataSeq
  infoSeq := infoSeq
  rawDataSizes := rawDataSizes

/-- An attempt on a service or a client. -/
theorem destroyCallEndpoints_step {Info : Type} {endpoints : Info → CallEndpoints} {info : Info}
    {writer reader readCondition dataSeq infoSeq rawDataSizes : Handle}
    (points : endpoints info = .all writer reader readCondition dataSeq infoSeq rawDataSizes)
    (attempts : List Attempt) (a : Attempt) :
    Triple (Left (·.deleteDatawriter) (.writer writer) (·.data = some info) attempts)
      (destroyCallEndpoints endpoints a)
      (fun _ => Left (·.deleteDatawriter) (.writer writer)
        (Gone [.writer writer, .reader reader, .readCondition readCondition]) (attempts ++ [a]))
      (fun _ => Left (·.deleteDatawriter) (.writer writer) (·.data = some info)
        (attempts ++ [a])) := by
  rintro ⟨_, inGraphCache, deleted, errorMsg⟩ ⟨ledger, rfl⟩
  have same : destroyCallEndpoints endpoints a ⟨some info, inGraphCache, deleted, errorMsg⟩ =
      deleteCallEndpoints (endpoints info) a ⟨some info, inGraphCache, deleted, errorMsg⟩ := rfl
  rw [same, points]
  obtain ⟨graph, writes, conditions, reads, topic⟩ := a
  cases writes with
  | false => exact ⟨ledger.idle rfl, rfl⟩
  | true =>
    have begun (added : List Object) (once : added.Nodup) (mem : .writer writer ∈ added) :=
      ledger.more (i := ⟨graph, true, conditions, reads, topic⟩) rfl once mem
    let first : List Object :=
      [.rawDataSizes rawDataSizes, .infoSeq infoSeq, .dataSeq dataSeq, .writer writer]
    cases conditions with
    | false => exact ⟨begun first (by simp [first]) (by simp [first]), rfl⟩
    | true =>
      cases reads with
      | false =>
        exact ⟨begun (.readCondition readCondition :: first) (by simp [first]) (by simp [first]),
          rfl⟩
      | true =>
        have gone := begun (.reader reader :: .readCondition readCondition :: first)
          (by simp [first]) (by simp [first])
        exact ⟨gone, by simp [Gone]⟩

/-- **When a failed destruction can be retried**: for a publisher and a subscription after any
failure; for a service or a client if the writer can be deleted in at most one attempt. -/
theorem retried_iff (writer reader readCondition dataSeq infoSeq rawDataSizes : Handle)
    (attempts : List Attempt) (returned : Bool) :
    (∀ h, Attempts rmwDestroyPublisher (Holder.created { topicWriter := some writer })
        attempts returned h →
      Clean [.writer writer] returned h) ∧
    (∀ h, Attempts rmwDestroySubscription
        (Holder.created {
          topicReader := some reader
          readCondition, dataSeq, infoSeq, rawDataSizes })
        attempts returned h →
      Clean [.reader reader, .readCondition readCondition] returned h) ∧
    (∀ h, Attempts rmwDestroyService
        (Holder.created {
          responseWriter := some writer
          requestReader := some reader
          readCondition := some readCondition
          dataSeq, infoSeq, rawDataSizes })
        attempts returned h →
      (Clean [.writer writer, .reader reader, .readCondition readCondition] returned h ↔
        attempts.countP (·.deleteDatawriter) ≤ 1)) ∧
    ∀ h, Attempts rmwDestroyClient
        (Holder.created {
          requestWriter := some writer
          responseReader := some reader
          readCondition := some readCondition
          dataSeq, infoSeq, rawDataSizes })
        attempts returned h →
      (Clean [.writer writer, .reader reader, .readCondition readCondition] returned h ↔
        attempts.countP (·.deleteDatawriter) ≤ 1) := by
  refine ⟨fun h made => ?_, fun h made => ?_, fun h made => ?_, fun h made => ?_⟩
  · exact clean_hooked made destroyPublisher_once
  · let info : SubscriberInfo :=
      { topicReader := none, readCondition, dataSeq, infoSeq, rawDataSizes }
    exact clean_hooked made (@destroySubscription_once info reader)
  · exact clean_iff made (by rfl) (destroyCallEndpoints_step (by rfl))
  · exact clean_iff made (by rfl) (destroyCallEndpoints_step (by rfl))

section Sample

/-- An attempt in which nothing fails. -/
def smooth : Attempt where
  removeGraph := true
  deleteDatawriter := true
  deleteReadcondition := true
  deleteDatareader := true
  deleteTopic := .ok

/-- An attempt in which the reader is not deleted. -/
def halfway : Attempt := { smooth with deleteDatareader := false }

/-- A service with the writer 0 and the reader 1. -/
def oneService : ServiceInfo where
  responseWriter := some 0
  requestReader := some 1
  readCondition := some 2
  dataSeq := 3
  infoSeq := 4
  rawDataSizes := 5

/-- A client with the writer 0 and the reader 1. -/
def oneClient : ClientInfo where
  requestWriter := some 0
  responseReader := some 1
  readCondition := some 2
  dataSeq := 3
  infoSeq := 4
  rawDataSizes := 5

/-- Where the reader is not deleted at first, the retry returns, and what was deleted before it is
deleted again: the writer, the sequences and the read condition. -/
theorem retry_deletes_twice :
    (∃ h, Attempts rmwDestroyService (Holder.created oneService) [halfway, smooth] true h ∧
      h.deleted.count (.writer 0) = 2 ∧ h.deleted.count (.dataSeq 3) = 2 ∧
        h.deleted.count (.readCondition 2) = 2) ∧
    ∃ h, Attempts rmwDestroyClient (Holder.created oneClient) [halfway, smooth] true h ∧
      h.deleted.count (.writer 0) = 2 ∧ h.deleted.count (.dataSeq 3) = 2 ∧
        h.deleted.count (.readCondition 2) = 2 := by
  refine ⟨⟨_, .retried rfl rfl, ?_, ?_, ?_⟩, ⟨_, .retried rfl rfl, ?_, ?_, ?_⟩⟩ <;> rfl

end Sample

end Endpoints

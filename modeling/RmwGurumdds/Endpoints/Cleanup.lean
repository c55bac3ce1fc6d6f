import RmwGurumdds.Endpoints.Creation
import RmwGurumdds.Exec.Paths

/-!
# What a failed creation leaves behind

A function that creates endpoints keeps a pointer to each entity it makes, and the entities of the
participant are those it started with and these (`Accounts`). Where it is left early by a jump, they
are deleted again. Where it is left by a plain return they stay, if there are any.

So whether a failure leaves something behind is told by the call that fails first. For each function
the calls are listed after whose failure an entity stays (`createPublisherLeaks` and its siblings):
in a publisher or a subscription all that come after the entity was made, in a service or a client
the sequences and a default QoS.
-/

namespace Endpoints

open Rmw Exec
open Lifecycle (Handle)

/-! ## Accounts -/

/-- The entities of one kind are those of the start, and the one with a pointer. -/
def AccountsFor (start now : Finset Handle) : Option Handle → Prop
  | none => now = start
  | some handle => handle ∉ start ∧ now = insert handle start

/-- The entities are those of the start, and those with a pointer. A read condition has a reader. -/
structure Accounts (start : Participant) (s : Creating) : Prop where
  entity : ∀ entity,
    AccountsFor (start.entities entity) (s.participant.entities entity) (s.made entity)
  condition : s.made .readCondition ≠ none → s.made .reader ≠ none

section Accounts

variable {start : Participant} {s : Creating} {entity : Entity}

theorem AccountsFor.eq_iff {start now : Finset Handle} {made : Option Handle}
    (accounts : AccountsFor start now made) : now = start ↔ made = none := by
  cases made with
  | none => exact iff_of_true accounts rfl
  | some handle =>
    obtain ⟨absent, rfl⟩ := accounts
    simpa using absent

/-- Nothing was left behind exactly if there is no pointer to anything. -/
theorem Accounts.entities_eq_iff (accounts : Accounts start s) :
    s.participant.entities = start.entities ↔ ¬ ∃ entity, s.made entity ≠ none := by
  rw [funext_iff]
  constructor
  · rintro same ⟨entity, made⟩
    exact made ((accounts.entity entity).eq_iff.mp (same entity))
  · intro nothing entity
    refine (accounts.entity entity).eq_iff.mpr ?_
    by_contra made
    exact nothing ⟨entity, made⟩

theorem Accounts.begin (start : Participant) : Accounts start (.begin start) where
  entity _ := rfl
  condition made := absurd rfl made

/-- What is made is new. -/
theorem Accounts.create (accounts : Accounts start s) (free : s.made entity = none)
    (ready : entity = .readCondition → s.made .reader ≠ none) :
    Accounts start (s.create entity) where
  entity other := by
    have before := accounts.entity other
    by_cases same : other = entity
    · subst same
      rw [free] at before
      have absent : s.participant.supply ∉ s.participant.entities other := fun mem =>
        Nat.lt_irrefl _ (s.participant.fresh other _ mem)
      have now : s.participant.entities other = start.entities other := before
      simp only [Creating.create, Participant.add, Function.update_self]
      rw [now] at absent ⊢
      exact ⟨absent, rfl⟩
    · simpa [Creating.create, Participant.add, Function.update_of_ne same] using before
  condition := by
    cases entity with
    | writer => simpa [Creating.create] using accounts.condition
    | reader => simp [Creating.create]
    | readCondition => simpa [Creating.create] using ready rfl

@[simp] theorem made_delete (entity : Entity) : (s.delete entity).made = s.made := by
  unfold Creating.delete
  split <;> rfl

theorem entities_delete_of_ne {other : Entity} (ne : other ≠ entity) :
    (s.delete entity).participant.entities other = s.participant.entities other := by
  unfold Creating.delete
  split
  · rfl
  · exact Function.update_of_ne ne ..

/-- What is deleted of what was made is as at the start. -/
theorem entities_delete_self {begin : Finset Handle}
    (accounts : AccountsFor begin (s.participant.entities entity) (s.made entity)) :
    (s.delete entity).participant.entities entity = begin := by
  unfold Creating.delete
  cases made : s.made entity with
  | none =>
    rw [made] at accounts
    exact accounts
  | some handle =>
    rw [made] at accounts
    obtain ⟨absent, now⟩ := accounts
    simp [Participant.erase, now, absent]

@[simp] theorem made_deleteReader : s.deleteReader.made = s.made := by
  unfold Creating.deleteReader
  split
  · rfl
  · rw [made_delete, made_delete]

theorem entities_deleteReader_writer :
    s.deleteReader.participant.entities .writer = s.participant.entities .writer := by
  unfold Creating.deleteReader
  split
  · rfl
  · rw [entities_delete_of_ne (by decide), entities_delete_of_ne (by decide)]

/-- A reader that was made is deleted with its read condition. -/
theorem entities_deleteReader
    (accounts : ∀ entity, entity ≠ .writer →
      AccountsFor (start.entities entity) (s.participant.entities entity) (s.made entity))
    (condition : s.made .readCondition ≠ none → s.made .reader ≠ none) (ne : entity ≠ .writer) :
    s.deleteReader.participant.entities entity = start.entities entity := by
  unfold Creating.deleteReader
  cases made : s.made .reader with
  | none =>
    have unmade : s.made entity = none := by
      cases entity with
      | writer => exact absurd rfl ne
      | reader => exact made
      | readCondition =>
        by_contra readCondition
        exact condition readCondition made
    exact (accounts entity ne).eq_iff.mpr unmade
  | some handle =>
    cases entity with
    | writer => exact absurd rfl ne
    | reader =>
      refine entities_delete_self ?_
      rw [entities_delete_of_ne (by decide), made_delete]
      exact accounts .reader ne
    | readCondition =>
      dsimp only
      rw [entities_delete_of_ne (by decide)]
      exact entities_delete_self (accounts .readCondition ne)

/-- **The label of a service deletes all that was made.** -/
theorem Accounts.failService (accounts : Accounts start s) :
    (s.deleteReader.delete .writer).deleteTopics.participant.entities = start.entities := by
  funext entity
  show (s.deleteReader.delete .writer).participant.entities entity = _
  by_cases writer : entity = .writer
  · subst writer
    refine entities_delete_self ?_
    rw [entities_deleteReader_writer, made_deleteReader]
    exact accounts.entity .writer
  · rw [entities_delete_of_ne writer]
    exact entities_deleteReader (fun entity _ => accounts.entity entity) accounts.condition writer

/-- **The label of a client does, too, in another order.** -/
theorem Accounts.failClient (accounts : Accounts start s) :
    (s.delete .writer).deleteReader.deleteTopics.participant.entities = start.entities := by
  funext entity
  show (s.delete .writer).deleteReader.participant.entities entity = _
  by_cases writer : entity = .writer
  · subst writer
    rw [entities_deleteReader_writer]
    exact entities_delete_self (accounts.entity .writer)
  · refine entities_deleteReader (fun entity ne => ?_) ?_ writer
    · rw [entities_delete_of_ne ne, made_delete]
      exact accounts.entity entity
    · rw [made_delete]
      exact accounts.condition

end Accounts

/-! ## Paths -/

section Paths

variable (o : Step → Bool)

/-- The calls of `fallback`. A failure of the first one is none. -/
def fallbackPath (first : Step) (step : Step) : List Step := if o first then [] else [step]

/-- The calls of `makeTopic`. -/
def topicPath (topics : Finset String) (payload : Payload) (name : String) : List Step :=
  if name ∈ topics then [.findTopic payload]
  else [.getDefaultTopicQos payload, .createTopic payload, .finalizeTopicQos payload]

/-- The calls of `datawriterQos`. -/
def datawriterQosPath : List Step :=
  fallbackPath o .datawriterQosFromProfile .getDefaultDatawriterQos ++ [.getDatawriterQos]

/-- The calls of `createDatawriter`. -/
def datawriterPath : List Step :=
  datawriterQosPath o ++ [.createDatawriter, .finalizeDatawriterQos]

/-- The calls of `datareaderQos`. -/
def datareaderQosPath : List Step :=
  fallbackPath o .datareaderQosFromProfile .getDefaultDatareaderQos ++ [.getDatareaderQos]

/-- The calls of `createDatareader`. -/
def datareaderPath : List Step :=
  datareaderQosPath o ++ [.createDatareader, .finalizeDatareaderQos, .createReadcondition]

/-- The calls of `createSequences`. -/
def sequencesPath : List Step := [.createDataSeq, .createInfoSeq, .createRawDataSizes]

/-- The calls of `beginTopic`. -/
def beginTopicPath (topics : Finset String) (topicName : String)
    (avoidRosNamespaceConventions : Bool) : List Step :=
  fallbackPath o .typesupportC .typesupportCpp ++
    ([.typeName, .metastring, .createTypesupport .message, .registerType .message] ++
      topicPath topics .message (Names.createTopicName Names.rosTopicPrefix topicName ""
        avoidRosNamespaceConventions))

/-- The calls of `createPublisher`. -/
def createPublisherPath (topics : Finset String) (topicName : String)
    (avoidRosNamespaceConventions internal : Bool) : List Step :=
  beginTopicPath o topics topicName avoidRosNamespaceConventions ++
    (datawriterPath o ++
      ([.allocateInfo, .allocateHandle, .allocateName] ++
        if internal then [] else [.updateGraph]))

/-- The calls of `createSubscription`. -/
def createSubscriptionPath (topics : Finset String) (topicName : String)
    (avoidRosNamespaceConventions internal : Bool) : List Step :=
  beginTopicPath o topics topicName avoidRosNamespaceConventions ++
    (datareaderPath o ++
      ([.allocateInfo] ++ (sequencesPath ++
        ([.allocateHandle, .allocateName] ++ if internal then [] else [.updateGraph]))))

/-- The calls of `beginCall`. The topic of the response is looked for when there is one for the
request. -/
def beginCallPath (topics : Finset String) (serviceName : String)
    (avoidRosNamespaceConventions : Bool) : List Step :=
  let request := Names.createTopicName Names.rosServiceRequesterPrefix serviceName "Request"
    avoidRosNamespaceConventions
  let response := Names.createTopicName Names.rosServiceResponsePrefix serviceName "Reply"
    avoidRosNamespaceConventions
  fallbackPath o .typesupportC .typesupportCpp ++
    ([.typeName, .metastring, .createTypesupport .request, .registerType .request,
        .createTypesupport .response, .registerType .response] ++
      (topicPath topics .request request ++
        topicPath (insert request topics) .response response))

/-- The calls after the endpoints of a service or a client. -/
def finishCallPath : List Step :=
  [.allocateInfo] ++ (sequencesPath ++ [.allocateHandle, .allocateName, .updateGraph])

/-- The calls of `rmwCreateService`. -/
def createServicePath (topics : Finset String) (serviceName : String)
    (avoidRosNamespaceConventions : Bool) : List Step :=
  beginCallPath o topics serviceName avoidRosNamespaceConventions ++
    (datareaderPath o ++ ([.getDefaultDatawriterQosFirst] ++ (datawriterPath o ++ finishCallPath)))

/-- The calls of `rmwCreateClient`. -/
def createClientPath (topics : Finset String) (serviceName : String)
    (avoidRosNamespaceConventions : Bool) : List Step :=
  beginCallPath o topics serviceName avoidRosNamespaceConventions ++
    (datawriterPath o ++ (datareaderPath o ++ finishCallPath))

end Paths

/-! ## Leaks -/

/-- The calls after whose failure `createPublisher` leaves entities behind. -/
def createPublisherLeaks : List Step :=
  [.finalizeDatawriterQos, .allocateInfo, .allocateHandle, .allocateName, .updateGraph]

/-- The calls after whose failure `createSubscription` leaves entities behind. -/
def createSubscriptionLeaks : List Step :=
  [.finalizeDatareaderQos, .createReadcondition, .allocateInfo, .createDataSeq, .createInfoSeq,
    .createRawDataSizes, .allocateHandle, .allocateName, .updateGraph]

/-- The calls after whose failure `rmwCreateService` leaves entities behind. -/
def createServiceLeaks : List Step :=
  [.getDefaultDatawriterQosFirst, .getDefaultDatawriterQos, .createDataSeq, .createInfoSeq,
    .createRawDataSizes]

/-- The calls after whose failure `rmwCreateClient` leaves entities behind. -/
def createClientLeaks : List Step :=
  [.getDefaultDatareaderQos, .createDataSeq, .createInfoSeq, .createRawDataSizes]

/-! ## Walks -/

/-- Where a function stands that was not left: which topics there are, and to what there are
pointers. -/
structure Stage (start : Participant) (topics : Finset String) (held : List Entity)
    (s : Creating) : Prop extends Accounts start s where
  topics_eq : s.participant.topics = topics
  held_iff : ∀ entity, s.made entity ≠ none ↔ entity ∈ held

/-- How a function is left at a step: something stays exactly if the step is listed. An exit is
plain if it leads to no label. -/
def Leaves (start : Participant) (plain : Exit → Bool) (leaks : List Step) (step : Step)
    (exit : Exit) (s : Creating) : Prop :=
  Accounts start s ∧ ((plain exit = true ∧ ∃ entity, s.made entity ≠ none) ↔ step ∈ leaks)

/-- A step is listed exactly if it is left by a plain exit while there is a pointer. -/
def Listed (plain : Exit → Bool) (leaks : List Step) (held : List Entity) (exit : Exit)
    (step : Step) : Prop :=
  (plain exit = true ∧ held ≠ []) ↔ step ∈ leaks

instance {plain : Exit → Bool} {leaks : List Step} {held : List Entity} {exit : Exit}
    {step : Step} : Decidable (Listed plain leaks held exit step) :=
  inferInstanceAs (Decidable (_ ↔ _))

section Walks

variable {o : Step → Bool} {start : Participant} {plain : Exit → Bool} {leaks : List Step}
  {topics : Finset String} {held : List Entity} {exit : Exit} {path : List Step}
  {m : Create Unit} {Q : Unit → Creating → Prop}

theorem Stage.begin (start : Participant) : Stage start start.topics [] (.begin start) where
  toAccounts := .begin start
  topics_eq := rfl
  held_iff _ := by simp [Creating.begin]

theorem Stage.holds_iff {s : Creating} (stage : Stage start topics held s) :
    (∃ entity, s.made entity ≠ none) ↔ held ≠ [] := by
  simp only [stage.held_iff]
  constructor
  · rintro ⟨entity, mem⟩
    exact List.ne_nil_of_mem mem
  · exact List.exists_mem_of_ne_nil held

theorem check_walks {step : Step} (listed : Listed plain leaks held exit step)
    (msg : Option String) :
    Walks o [step] (Stage start topics held) (check o step exit msg)
      (fun _ => Stage start topics held) (Leaves start plain leaks) := by
  refine Walks.call fun s stage => ⟨exit, _, rfl, ⟨stage.entity, stage.condition⟩, ?_⟩
  unfold Listed at listed
  rw [← listed, ← stage.holds_iff]

/-- A call, and what follows. -/
theorem check_then {step : Step} {msg : Option String}
    (listed : Listed plain leaks held exit step)
    (k : Walks o path (Stage start topics held) m Q (Leaves start plain leaks)) :
    Walks o (step :: path) (Stage start topics held) (check o step exit msg >>= fun _ => m) Q
      (Leaves start plain leaks) :=
  (check_walks listed msg).bind fun _ => k

/-- A call that is the last one. -/
theorem check_last {step : Step} (listed : Listed plain leaks held exit step)
    (msg : Option String) :
    Walks o [step] (Stage start topics held) (check o step exit msg) (fun _ _ => True)
      (Leaves start plain leaks) :=
  (check_walks listed msg).weaken (fun _ _ _ => trivial) fun _ _ _ left => left

/-- An entity is made. -/
theorem create_walks {entity : Entity} (free : entity ∉ held)
    (ready : entity = .readCondition → .reader ∈ held) :
    Walks o [] (Stage start topics held) (create entity)
      (fun _ => Stage start topics (entity :: held)) (Leaves start plain leaks) := by
  refine .silent fun s stage => ⟨(), _, rfl, ?_⟩
  have unmade : s.made entity = none := by
    by_contra made
    exact free ((stage.held_iff entity).mp made)
  exact {
    toAccounts := stage.toAccounts.create unmade fun condition =>
      (stage.held_iff .reader).mpr (ready condition)
    topics_eq := stage.topics_eq
    held_iff := fun other => by
      by_cases same : other = entity
      · simp [Creating.create, same]
      · simp [Creating.create, stage.held_iff, same] }

theorem fallback_walks {first step : Step} (listed : Listed plain leaks held .returned step)
    (msg : String) :
    Walks o (fallbackPath o first step) (Stage start topics held) (fallback o first step msg)
      (fun _ => Stage start topics held) (Leaves start plain leaks) :=
  Walks.ite (fun _ => .silent fun s stage => ⟨(), s, rfl, stage⟩) fun _ => check_walks listed _

theorem makeTopic_walks {payload : Payload} {name : String}
    (listed : ∀ step ∈ [Step.findTopic payload, .getDefaultTopicQos payload, .createTopic payload,
      .finalizeTopicQos payload], Listed plain leaks held exit step) :
    Walks o (topicPath topics payload name) (Stage start topics held)
      (makeTopic o exit payload name) (fun _ => Stage start (insert name topics) held)
      (Leaves start plain leaks) := by
  unfold makeTopic topicPath
  by_cases there : name ∈ topics
  · rw [if_pos there]
    refine Walks.get (m := do
      check o (.findTopic payload) exit "failed to find topic"
      modify (·.findTopic name)) ?_ fun s stage => ?_
    · refine check_then (listed _ (by simp)) (.silent fun s stage => ⟨(), _, rfl, ?_⟩)
      rw [Finset.insert_eq_of_mem there]
      exact ⟨⟨stage.entity, stage.condition⟩, stage.topics_eq, stage.held_iff⟩
    · rw [stage.topics_eq, if_pos there]
  · rw [if_neg there]
    refine Walks.get (m := do
      check o (.getDefaultTopicQos payload) exit "failed to get default topic qos"
      check o (.createTopic payload) exit "failed to create topic"
      modify (·.createTopic name)
      check o (.finalizeTopicQos payload) exit "failed to finalize topic qos") ?_
      fun s stage => ?_
    · refine check_then (listed _ (by simp)) (check_then (listed _ (by simp)) ?_)
      refine Walks.bind (Walks.silent fun s stage => ⟨(), _, rfl, ?_⟩) fun _ =>
        check_walks (listed _ (by simp)) _
      exact ⟨⟨stage.entity, stage.condition⟩, by rw [← stage.topics_eq]; rfl, stage.held_iff⟩
    · rw [stage.topics_eq, if_neg there]

/-- A QoS is got, by default where there is no profile, and filled in. -/
theorem qos_walks {first default get : Step} {msg : String}
    (default_listed : Listed plain leaks held .returned default)
    (get_listed : Listed plain leaks held exit get) :
    Walks o (fallbackPath o first default ++ [get]) (Stage start topics held)
      (fallback o first default msg >>= fun _ => check o get exit none)
      (fun _ => Stage start topics held) (Leaves start plain leaks) :=
  (fallback_walks default_listed msg).bind fun _ => check_walks get_listed none

theorem createDatawriter_walks (free : .writer ∉ held)
    (default : Listed plain leaks held .returned .getDefaultDatawriterQos)
    (before : ∀ step ∈ [Step.getDatawriterQos, .createDatawriter],
      Listed plain leaks held exit step)
    (after : Listed plain leaks (.writer :: held) exit .finalizeDatawriterQos) :
    Walks o (datawriterPath o) (Stage start topics held) (createDatawriter o exit)
      (fun _ => Stage start topics (.writer :: held)) (Leaves start plain leaks) := by
  refine (qos_walks default (before _ (by simp))).bind fun _ => check_then (before _ (by simp)) ?_
  exact (create_walks free nofun).bind fun _ => check_walks after _

theorem createDatareader_walks (free : .reader ∉ held) (free' : .readCondition ∉ held)
    (default : Listed plain leaks held .returned .getDefaultDatareaderQos)
    (before : ∀ step ∈ [Step.getDatareaderQos, .createDatareader],
      Listed plain leaks held exit step)
    (after : ∀ step ∈ [Step.finalizeDatareaderQos, .createReadcondition],
      Listed plain leaks (.reader :: held) exit step) :
    Walks o (datareaderPath o) (Stage start topics held) (createDatareader o exit)
      (fun _ => Stage start topics (.readCondition :: .reader :: held))
      (Leaves start plain leaks) := by
  refine (qos_walks default (before _ (by simp))).bind fun _ => check_then (before _ (by simp)) ?_
  refine (create_walks free nofun).bind fun _ => ?_
  refine check_then (after _ (by simp)) (check_then (after _ (by simp)) ?_)
  exact create_walks (by simpa using free') fun _ => List.mem_cons_self

theorem createSequences_walks
    (listed : ∀ step ∈ sequencesPath, Listed plain leaks held .returned step) :
    Walks o sequencesPath (Stage start topics held) (createSequences o)
      (fun _ => Stage start topics held) (Leaves start plain leaks) := by
  refine check_then (listed _ ?_) (check_then (listed _ ?_) (check_walks (listed _ ?_) _)) <;>
    simp [sequencesPath]

/-- The steps of `beginTopic`. -/
def beginTopicSteps : List Step :=
  [.typesupportCpp, .typeName, .metastring, .createTypesupport .message, .registerType .message,
    .findTopic .message, .getDefaultTopicQos .message, .createTopic .message,
    .finalizeTopicQos .message]

theorem beginTopic_walks (topicName : String) (avoid : Bool)
    (listed : ∀ step ∈ beginTopicSteps, Listed plain leaks held .returned step) :
    Walks o (beginTopicPath o topics topicName avoid) (Stage start topics held)
      (beginTopic o topicName avoid)
      (fun _ => Stage start (insert (Names.createTopicName Names.rosTopicPrefix topicName "" avoid)
        topics) held)
      (Leaves start plain leaks) := by
  simp only [beginTopicSteps, List.forall_mem_cons, List.not_mem_nil, false_imp_iff,
    implies_true, and_true] at listed
  obtain ⟨cpp, typeName, metastring, typesupport, register, topic⟩ := listed
  refine (fallback_walks cpp _).bind fun _ => check_then typeName (check_then metastring ?_)
  refine Walks.bind (check_then typesupport (check_walks register _)) fun _ => ?_
  exact makeTopic_walks (by simpa using topic)

theorem registerTypesupport_walks {payload : Payload}
    (create : Listed plain leaks held .jumped (.createTypesupport payload))
    (register : Listed plain leaks held .jumped (.registerType payload)) :
    Walks o [.createTypesupport payload, .registerType payload] (Stage start topics held)
      (registerTypesupport o payload) (fun _ => Stage start topics held)
      (Leaves start plain leaks) :=
  check_then create (check_walks register _)

/-- The steps of `beginCall` that are left by a plain return, and by a jump. -/
def beginCallReturns : List Step := [.typesupportCpp, .typeName, .metastring]

def beginCallJumps : List Step :=
  [.createTypesupport .request, .registerType .request, .createTypesupport .response,
    .registerType .response, .findTopic .request, .getDefaultTopicQos .request,
    .createTopic .request, .finalizeTopicQos .request, .findTopic .response,
    .getDefaultTopicQos .response, .createTopic .response, .finalizeTopicQos .response]

theorem beginCall_walks (serviceName : String) (avoid : Bool)
    (returns : ∀ step ∈ beginCallReturns, Listed plain leaks held .returned step)
    (jumps : ∀ step ∈ beginCallJumps, Listed plain leaks held .jumped step) :
    Walks o (beginCallPath o topics serviceName avoid) (Stage start topics held)
      (beginCall o serviceName avoid)
      (fun _ => Stage start
        (insert (Names.createTopicName Names.rosServiceResponsePrefix serviceName "Reply" avoid)
          (insert
            (Names.createTopicName Names.rosServiceRequesterPrefix serviceName "Request" avoid)
            topics)) held)
      (Leaves start plain leaks) := by
  simp only [beginCallReturns, beginCallJumps, List.forall_mem_cons, List.not_mem_nil,
    false_imp_iff, implies_true, and_true] at returns jumps
  obtain ⟨cpp, typeName, metastring⟩ := returns
  obtain ⟨typesupport, register, typesupport', register', find, default, create, finalize,
    topic⟩ := jumps
  refine (fallback_walks cpp _).bind fun _ => check_then typeName (check_then metastring ?_)
  refine (registerTypesupport_walks typesupport register).bind fun _ => ?_
  refine (registerTypesupport_walks typesupport' register').bind fun _ => ?_
  refine (makeTopic_walks ?_).bind fun _ => makeTopic_walks ?_
  · simpa using ⟨find, default, create, finalize⟩
  · simpa using topic

end Walks

/-! ## Failed creations -/

/-- A creation that returns a null pointer leaves the entities of the participant as they were. -/
def Kept (m : Create Unit) (p : Participant) : Prop :=
  (outcome m p).1 = false → (outcome m p).2.entities = p.entities

section Failed

variable {o : Step → Bool} {path : List Step} {p : Participant} {leaks : List Step}
  {m : Create Unit}

/-- **A creation leaves nothing behind exactly if the first call that fails is not listed.** -/
theorem kept_iff
    (walks : Walks o path (Stage p p.topics []) m (fun _ _ => True)
      fun step _ s => s.participant.entities = p.entities ↔ step ∉ leaks) :
    Kept m p ↔ ∀ step, firstFailure o path = some step → step ∉ leaks := by
  unfold Kept outcome
  cases first : firstFailure o path with
  | none =>
    obtain ⟨_, s, run, -⟩ := walks.returns (.begin p) first
    rw [run]
    exact iff_of_true nofun nofun
  | some failed =>
    obtain ⟨exit, s, run, left⟩ := walks.raises (.begin p) first
    rw [run]
    constructor
    · rintro kept _ ⟨⟩
      exact left.mp (kept rfl)
    · intro unlisted _
      exact left.mpr (unlisted failed rfl)

/-- Without a label, what there is a pointer to stays. -/
theorem walks_plain
    (walks : Walks o path (Stage p p.topics []) m (fun _ _ => True)
      (Leaves p (fun _ => true) leaks)) :
    Walks o path (Stage p p.topics []) m (fun _ _ => True)
      fun step _ s => s.participant.entities = p.entities ↔ step ∉ leaks := by
  refine walks.weaken (fun _ _ post => post) fun step exit s ⟨accounts, listed⟩ => ?_
  rw [accounts.entities_eq_iff, ← listed]
  simp

/-- With a label, it stays after a plain return only. -/
theorem walks_withFail {cleanup : Creating → Creating}
    (walks : Walks o path (Stage p p.topics []) m (fun _ _ => True)
      (Leaves p (· = .returned) leaks))
    (cleans : ∀ s, Accounts p s → (cleanup s).participant.entities = p.entities) :
    Walks o path (Stage p p.topics []) (withFail cleanup m) (fun _ _ => True)
      fun step _ s => s.participant.entities = p.entities ↔ step ∉ leaks := by
  refine walks.rescue fun step exit s ⟨accounts, listed⟩ => ?_
  cases exit with
  | returned =>
    refine ⟨.returned, s, rfl, ?_⟩
    rw [accounts.entities_eq_iff, ← listed]
    simp
  | jumped =>
    refine ⟨.jumped, cleanup s, rfl, iff_of_true (cleans s accounts) ?_⟩
    rw [← listed]
    simp

/-- **`create_publisher` leaves nothing behind exactly if no call fails first after its writer was
made.** -/
theorem kept_createPublisher_iff (o : Step → Bool) (topicName : String) (avoid internal : Bool)
    (p : Participant) :
    Kept (createPublisher o topicName avoid internal) p ↔
      ∀ step, firstFailure o (createPublisherPath o p.topics topicName avoid internal) = some step →
        step ∉ createPublisherLeaks := by
  refine kept_iff (walks_plain ?_)
  refine (beginTopic_walks topicName avoid (by decide)).bind fun _ => ?_
  refine (createDatawriter_walks (by decide) (by decide) (by decide) (by decide)).bind fun _ => ?_
  refine check_then (by decide) (check_then (by decide) (check_then (by decide) ?_))
  exact Walks.ite (fun _ => .silent fun s _ => ⟨(), s, rfl, trivial⟩)
    fun _ => check_last (by decide) _

/-- **`create_subscription` leaves nothing behind exactly if no call fails first after its reader
was made.** -/
theorem kept_createSubscription_iff (o : Step → Bool) (topicName : String)
    (avoid internal : Bool) (p : Participant) :
    Kept (createSubscription o topicName avoid internal) p ↔
      ∀ step,
        firstFailure o (createSubscriptionPath o p.topics topicName avoid internal) = some step →
        step ∉ createSubscriptionLeaks := by
  refine kept_iff (walks_plain ?_)
  refine (beginTopic_walks topicName avoid (by decide)).bind fun _ => ?_
  refine Walks.bind (createDatareader_walks (by decide) (by decide) (by decide) (by decide)
    (by decide)) fun _ => ?_
  refine check_then (by decide) ((createSequences_walks (by decide)).bind fun _ => ?_)
  refine check_then (by decide) (check_then (by decide) ?_)
  exact Walks.ite (fun _ => .silent fun s _ => ⟨(), s, rfl, trivial⟩)
    fun _ => check_last (by decide) _

/-- **`rmw_create_service` leaves nothing behind exactly if the first call that fails is neither one
for the default QoS of the writer nor one for a sequence.** -/
theorem kept_rmwCreateService_iff (o : Step → Bool) (serviceName : String) (avoid : Bool)
    (p : Participant) :
    Kept (rmwCreateService o serviceName avoid) p ↔
      ∀ step, firstFailure o (createServicePath o p.topics serviceName avoid) = some step →
        step ∉ createServiceLeaks := by
  refine kept_iff (walks_withFail ?_ fun s accounts => accounts.failService)
  refine (beginCall_walks serviceName avoid (by decide) (by decide)).bind fun _ => ?_
  refine Walks.bind (createDatareader_walks (by decide) (by decide) (by decide) (by decide)
    (by decide)) fun _ => check_then (by decide) ?_
  refine (createDatawriter_walks (by decide) (by decide) (by decide) (by decide)).bind fun _ => ?_
  refine check_then (by decide) ((createSequences_walks (by decide)).bind fun _ => ?_)
  exact check_then (by decide) (check_then (by decide) (check_last (by decide) _))

/-- **`rmw_create_client` leaves nothing behind exactly if the first call that fails is neither the
one for the default QoS of the reader nor one for a sequence.** -/
theorem kept_rmwCreateClient_iff (o : Step → Bool) (serviceName : String) (avoid : Bool)
    (p : Participant) :
    Kept (rmwCreateClient o serviceName avoid) p ↔
      ∀ step, firstFailure o (createClientPath o p.topics serviceName avoid) = some step →
        step ∉ createClientLeaks := by
  refine kept_iff (walks_withFail ?_ fun s accounts => accounts.failClient)
  refine (beginCall_walks serviceName avoid (by decide) (by decide)).bind fun _ => ?_
  refine (createDatawriter_walks (by decide) (by decide) (by decide) (by decide)).bind fun _ => ?_
  refine Walks.bind (createDatareader_walks (by decide) (by decide) (by decide) (by decide)
    (by decide)) fun _ => ?_
  refine check_then (by decide) ((createSequences_walks (by decide)).bind fun _ => ?_)
  exact check_then (by decide) (check_then (by decide) (check_last (by decide) _))

end Failed

/-- **When a failed creation leaves nothing behind**: exactly if the first call that fails is not
listed for the function. -/
theorem failed_creation_kept_iff (o : Step → Bool) (topicName serviceName : String)
    (avoid internal : Bool) (p : Participant) :
    (Kept (createPublisher o topicName avoid internal) p ↔
      ∀ step, firstFailure o (createPublisherPath o p.topics topicName avoid internal) = some step →
        step ∉ createPublisherLeaks) ∧
    (Kept (createSubscription o topicName avoid internal) p ↔
      ∀ step,
        firstFailure o (createSubscriptionPath o p.topics topicName avoid internal) = some step →
        step ∉ createSubscriptionLeaks) ∧
    (Kept (rmwCreateService o serviceName avoid) p ↔
      ∀ step, firstFailure o (createServicePath o p.topics serviceName avoid) = some step →
        step ∉ createServiceLeaks) ∧
    (Kept (rmwCreateClient o serviceName avoid) p ↔
      ∀ step, firstFailure o (createClientPath o p.topics serviceName avoid) = some step →
        step ∉ createClientLeaks) :=
  ⟨kept_createPublisher_iff o topicName avoid internal p,
    kept_createSubscription_iff o topicName avoid internal p,
    kept_rmwCreateService_iff o serviceName avoid p, kept_rmwCreateClient_iff o serviceName avoid p⟩

section Sample

/-- A participant without anything. -/
def bareParticipant : Participant where
  topics := ∅
  entities _ := ∅
  supply := 0
  fresh _ _ mem := absurd mem (Finset.notMem_empty _)

/-- Everything succeeds but one call. -/
def onlyFails (failed step : Step) : Bool := decide (step ≠ failed)

/-- What is left behind is not kept. -/
theorem not_kept {m : Create Unit} {p : Participant} (entity : Entity) (handle : Handle)
    (null : (outcome m p).1 = false) (left : handle ∈ (outcome m p).2.entities entity)
    (new : handle ∉ p.entities entity) : ¬ Kept m p := by
  intro kept
  rw [kept null] at left
  exact new left

/-- Without memory for the info object, a publisher leaves its writer and a subscription its reader.
Without memory for a sequence, so do a client and a service. -/
theorem failed_creation_leaks :
    ¬ Kept (createPublisher (onlyFails .allocateInfo) "/chatter" false false) bareParticipant ∧
      ¬ Kept (createSubscription (onlyFails .allocateInfo) "/chatter" false false)
        bareParticipant ∧
      ¬ Kept (rmwCreateService (onlyFails .createDataSeq) "/add" false) bareParticipant ∧
      ¬ Kept (rmwCreateClient (onlyFails .createDataSeq) "/add" false) bareParticipant := by
  refine ⟨not_kept .writer 0 rfl ?_ ?_, not_kept .reader 0 rfl ?_ ?_, not_kept .reader 0 rfl ?_ ?_,
    not_kept .writer 0 rfl ?_ ?_⟩ <;> decide

end Sample

end Endpoints

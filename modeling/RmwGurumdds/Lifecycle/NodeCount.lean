import RmwGurumdds.Exec.Runs
import RmwGurumdds.Lifecycle.ContextImpl

/-!
# A participant exists while nodes do

What the count, the participant a context holds and the participants that exist have to do with each
other, over any sequence of `rmw_create_node` and `rmw_destroy_node`. What is set up for the first
node is taken down by the scope that sets it up, if it fails there. The listener thread is started
after that scope was left: if it does not start, the participant stays, and is neither counted nor
taken down (`balanced_iff_enabled`).
-/

namespace Lifecycle

open Rmw Exec

/-- The part of a context that the count is about. -/
structure Account where
  nodeCount : Nat
  participant : Option Handle
  participants : List Handle
  isShutdown : Bool
  enclave : String

/-- The account of a context. -/
def ContextImpl.account (ctx : ContextImpl) : Account where
  nodeCount := ctx.nodeCount
  participant := ctx.participant
  participants := ctx.participants
  isShutdown := ctx.isShutdown
  enclave := ctx.enclave

/-- A context with this account. -/
def At (c : Account) (ctx : ContextImpl) : Prop := ctx.account = c

/-- The account with one participant, or none, that is held and exists. -/
def Account.owning (c : Account) (participant : Option Handle) : Account :=
  { c with participant, participants := participant.toList }

/-- The account with so many nodes. -/
def Account.counting (c : Account) (n : Nat) : Account := { c with nodeCount := n }

/-- **The participant that exists is the one held, and it is held while there are nodes.** -/
structure Account.Balanced (c : Account) : Prop where
  existing : c.participants = c.participant.toList
  held : c.participant.isSome = true ↔ 0 < c.nodeCount

/-- A balanced context of so many nodes. -/
def Counted (n : Nat) (ctx : ContextImpl) : Prop := ctx.account.Balanced ∧ ctx.nodeCount = n

section Rules

variable {α : Type} {c : Account} {succeeds : Bool} {ret : RmwRet} {msg : Option String}
  {Q : α → ContextImpl → Prop} {E : RmwRet → ContextImpl → Prop}

theorem holds_fail (h : ∀ ctx, At c ctx → E ret ctx) :
    Triple (At c) (fail ret msg : Impl α) Q E := by
  cases msg with
  | none => exact Triple.throw h
  | some msg =>
    refine Triple.bind (Q := fun _ => At c) (Triple.modify fun _ at_ => at_) fun _ => ?_
    exact Triple.throw h

theorem holds_check (fails : succeeds = false → ∀ ctx, At c ctx → E ret ctx) :
    Triple (At c) (check succeeds ret msg) (fun _ ctx => At c ctx ∧ succeeds = true) E := by
  refine Triple.ite (fun yes => Triple.pure fun _ at_ => ⟨at_, yes⟩) fun no => ?_
  exact holds_fail (fails (Bool.eq_false_iff.mpr no))

theorem holds_checkName {what : String} {reason : Option String}
    {E : RmwRet → ContextImpl → Prop}
    (fails : ∀ r, reason = some r → ∀ ctx, At c ctx → E .error ctx) :
    Triple (At c) (checkName what reason) (fun _ ctx => At c ctx ∧ reason = none) E := by
  cases reason with
  | none => exact Triple.pure fun _ at_ => ⟨at_, rfl⟩
  | some r =>
    unfold checkName
    exact holds_fail (fails r rfl)

/-- What is made is stored. -/
theorem holds_make {store : Option Handle → ContextImpl → ContextImpl}
    {f : Option Handle → Account}
    (stores : ∀ handle ctx, At c ctx → At (f handle) (store handle ctx))
    (fails : succeeds = false → ∀ ctx, At (f none) ctx → E ret ctx) :
    Triple (At c) (make succeeds ret msg store)
      (fun _ ctx => (∃ handle, At (f (some handle)) ctx) ∧ succeeds = true) E := by
  cases succeeds with
  | true =>
    refine Triple.bind (Q := fun _ ctx => ∃ handle, At (f (some handle)) ctx)
      (Triple.modify fun ctx at_ => ⟨ctx.supply, stores _ _ at_⟩) fun _ => ?_
    exact Triple.pure fun _ made => ⟨made, rfl⟩
  | false =>
    refine Triple.bind (Q := fun _ => At (f none))
      (Triple.modify fun ctx at_ => stores none ctx at_) fun _ => ?_
    exact holds_fail (fails rfl)

/-- What is made is not in the account. -/
theorem holds_make_other {store : Option Handle → ContextImpl → ContextImpl}
    (stores : ∀ handle ctx, At c ctx → At c (store handle ctx))
    (fails : succeeds = false → ∀ ctx, At c ctx → E ret ctx) :
    Triple (At c) (make succeeds ret msg store) (fun _ ctx => At c ctx ∧ succeeds = true) E :=
  Triple.weaken (holds_make (f := fun _ => c) stores fails) (fun _ at_ => at_)
    fun _ _ ⟨⟨_, at_⟩, yes⟩ => ⟨at_, yes⟩

/-- An object is there or it is not. -/
theorem holds_whenHeld {held : ContextImpl → Option Handle} {m : Handle → Impl Unit}
    {P : ContextImpl → Prop} {Q : Unit → ContextImpl → Prop}
    (absent : ∀ ctx, P ctx → held ctx = none → Q () ctx)
    (present : ∀ handle, Triple (fun ctx => P ctx ∧ held ctx = some handle) (m handle) Q E) :
    Triple P (whenHeld held m) Q E := by
  intro ctx hs
  rw [whenHeld, bind_ok (get_run ctx)]
  cases there : held ctx with
  | none => exact absent ctx hs there
  | some handle => exact present handle ctx ⟨hs, there⟩

theorem holds_whenHeld_other {held : ContextImpl → Option Handle} {m : Handle → Impl Unit}
    (h : ∀ handle, Triple (At c) (m handle) (fun _ => At c) E) :
    Triple (At c) (whenHeld held m) (fun _ => At c) E :=
  holds_whenHeld (fun _ at_ _ => at_) fun handle =>
    (h handle).weaken (fun _ there => there.1) fun _ _ at_ => at_

end Rules

/-! ## Taking down -/

section TakingDown

variable {c : Account} {o : Outcomes} {E : RmwRet → ContextImpl → Prop}

/-- A call that takes something down. -/
theorem holds_down (down : ∀ call, o.teardown call = true) (call : Teardown) (ret : RmwRet)
    (msg : Option String) :
    Triple (At c) (check (o.teardown call) ret msg) (fun _ => At c) E :=
  Triple.weaken (holds_check fun no => absurd (down call) (Bool.eq_false_iff.mp no))
    (fun _ at_ => at_) fun _ _ h => h.1

theorem holds_stopListenerThread (down : ∀ call, o.teardown call = true) :
    Triple (At c) (stopListenerThread o) (fun _ => At c) E := by
  refine Triple.bind (Q := fun _ => At c) (Triple.get fun _ at_ => at_) fun ctx => ?_
  refine Triple.bind (Q := fun _ => At c) (Triple.modify fun _ at_ => at_) fun _ => ?_
  refine Triple.ite (fun _ => ?_) fun _ => Triple.pure fun _ at_ => at_
  refine (holds_down down _ _ _).bind fun _ => ?_
  refine (holds_down down _ _ _).bind fun _ => ?_
  exact holds_down down _ _ _

theorem holds_graphCacheFinalize (down : ∀ call, o.teardown call = true) :
    Triple (At c) (graphCacheFinalize o) (fun _ => At c) E := by
  refine (Triple.unrescued (holds_stopListenerThread down)).bind fun _ => ?_
  refine (holds_whenHeld_other fun _ => ?_).bind fun _ =>
    (holds_whenHeld_other fun _ => ?_).bind fun _ => holds_whenHeld_other fun _ => ?_
  · exact (holds_down down _ _ _).bind fun _ => Triple.modify fun _ at_ => at_
  · exact (holds_down down _ _ _).bind fun _ => Triple.modify fun _ at_ => at_
  · exact (holds_down down _ _ _).bind fun _ => Triple.modify fun _ at_ => at_

/-- **The participant that is held is deleted**, and is held no longer. -/
theorem holds_finalizeParticipant (down : ∀ call, o.teardown call = true)
    (participant : Option Handle) :
    Triple (At (c.owning participant)) (finalizeParticipant o) (fun _ => At (c.owning none)) E := by
  refine (Triple.unrescued (holds_graphCacheFinalize down)).bind fun _ => ?_
  refine (holds_whenHeld_other fun _ => ?_).bind fun _ =>
    (holds_whenHeld_other fun _ => ?_).bind fun _ => ?_
  · refine (holds_down down _ _ _).bind fun _ => (holds_down down _ _ _).bind fun _ => ?_
    exact Triple.modify fun _ at_ => at_
  · refine (holds_down down _ _ _).bind fun _ => (holds_down down _ _ _).bind fun _ => ?_
    exact Triple.modify fun _ at_ => at_
  have known {ctx : ContextImpl} {held : Option Handle} (at_ : At (c.owning participant) ctx)
      (there : ctx.participant = held) : At (c.owning held) ctx := by
    have same : ctx.participant = participant := congrArg Account.participant at_
    rwa [← there, same]
  refine holds_whenHeld (fun ctx at_ absent => known at_ absent) fun handle => ?_
  refine Triple.weaken (P := At (c.owning (some handle))) ?_ (fun ctx h => known h.1 h.2)
    fun _ _ at_ => at_
  refine (holds_down down _ _ _).bind fun _ => (holds_down down _ _ _).bind fun _ => ?_
  refine Triple.modify fun ctx at_ => ?_
  have erased : ctx.participants.erase handle = [] := by
    rw [show ctx.participants = [handle] from congrArg Account.participants at_]
    exact List.erase_cons_head handle []
  rw [erased]
  exact congrArg (Account.owning · none) at_

end TakingDown

/-! ## Setting up -/

/-- The calls that make a participant with everything that belongs to it. -/
def preparations (userData : String) : List Setup :=
  [.getInstance, .supportsOnRemote, .getDefaultParticipantQos, .createParticipant userData,
    .getDefaultPublisherQos, .createPublisher, .finalizePublisherQos, .getDefaultSubscriberQos,
    .createSubscriber, .finalizeSubscriberQos, .createDiscoveryPublisher,
    .createDiscoverySubscription, .createGraphGuardCondition]

/-- A participant with this user data can be made. -/
def Outcomes.Initializes (o : Outcomes) (lib : Library) (userData : String) : Prop :=
  userData.utf8ByteSize ≤ lib.userDataCapacity ∧
    ∀ call ∈ preparations userData, o.setup call = true

/-- The listener thread can be started. -/
def Outcomes.RunsListener (o : Outcomes) : Prop :=
  o.setup .createListenerGuardCondition = true ∧ o.setup .startListenerThread = true

section SettingUp

variable {c : Account} {o : Outcomes} {lib : Library} {name ns : String}

theorem holds_graphCacheEnable :
    Triple (At c) (graphCacheEnable o) (fun _ ctx => At c ctx ∧ o.RunsListener)
      fun _ ctx => At c ctx ∧ ¬ o.RunsListener := by
  refine Triple.rescue (F := fun _ ctx => At c ctx ∧ ¬ o.RunsListener) ?_
    fun _ => Triple.assume fun stopped => holds_fail fun _ at_ => ⟨at_, stopped⟩
  unfold runListenerThread
  refine Triple.bind (holds_make_other (fun _ _ at_ => ?_) fun no ctx at_ => ?_) fun _ =>
    Triple.assume fun guarded => ?_
  · exact at_
  · exact ⟨at_, fun runs => Bool.noConfusion (no.symm.trans runs.1)⟩
  refine Triple.bind (Q := fun _ => At c) (Triple.modify fun _ at_ => at_) fun _ => ?_
  refine Triple.rescue (F := fun _ ctx => At c ctx ∧ o.setup .startListenerThread = false)
    (Triple.weaken (holds_check fun no _ at_ => ⟨at_, no⟩) (fun _ at_ => at_) ?_) fun _ =>
      Triple.assume fun no => ?_
  · exact fun _ _ ⟨at_, started⟩ => ⟨at_, guarded, started⟩
  · refine Triple.bind (Q := fun _ => At c) (Triple.modify fun _ at_ => at_) fun _ => ?_
    exact Triple.throw fun _ at_ => ⟨at_, fun runs => Bool.noConfusion (no.symm.trans runs.2)⟩

/-- A participant could not be made, and there may be something of it. -/
def Unprepared (c : Account) (o : Outcomes) (lib : Library) (userData : String) (_ : RmwRet)
    (ctx : ContextImpl) : Prop :=
  (∃ participant, At (c.owning participant) ctx) ∧ ¬ o.Initializes lib userData

section Preparing

variable {α : Type} {userData : String} {participant : Option Handle} {call : Setup}
  {ret : RmwRet} {msg : Option String} {f : Unit → Impl α} {Q : α → ContextImpl → Prop}

theorem unprepared (mem : call ∈ preparations userData) (no : o.setup call = false)
    {ctx : ContextImpl} (at_ : At (c.owning participant) ctx) :
    Unprepared c o lib userData ret ctx :=
  ⟨⟨participant, at_⟩, fun all => Bool.noConfusion (no.symm.trans (all.2 call mem))⟩

/-- One of the calls succeeds, or nothing comes of the participant. -/
theorem prepares_check (mem : call ∈ preparations userData)
    (k : o.setup call = true →
      Triple (At (c.owning participant)) (f ()) Q (Unprepared c o lib userData)) :
    Triple (At (c.owning participant)) (check (o.setup call) ret msg >>= f) Q
      (Unprepared c o lib userData) :=
  (holds_check fun no _ at_ => unprepared mem no at_).bind fun _ => Triple.assume k

theorem prepares_make (mem : call ∈ preparations userData)
    {store : Option Handle → ContextImpl → ContextImpl}
    (stores : ∀ handle ctx, At (c.owning participant) ctx →
      At (c.owning participant) (store handle ctx))
    (k : o.setup call = true →
      Triple (At (c.owning participant)) (f ()) Q (Unprepared c o lib userData)) :
    Triple (At (c.owning participant)) (make (o.setup call) ret msg store >>= f) Q
      (Unprepared c o lib userData) :=
  (holds_make_other stores fun no _ at_ => unprepared mem no at_).bind fun _ => Triple.assume k

end Preparing

theorem holds_graphCacheInitialize {userData : String} {participant : Option Handle} :
    Triple (At (c.owning participant)) (graphCacheInitialize o)
      (fun _ ctx => At (c.owning participant) ctx ∧ o.setup .createDiscoveryPublisher = true ∧
        o.setup .createDiscoverySubscription = true ∧ o.setup .createGraphGuardCondition = true)
      (Unprepared c o lib userData) := by
  refine prepares_make (by simp [preparations]) (fun _ _ at_ => at_) fun publisher => ?_
  refine prepares_make (by simp [preparations]) (fun _ _ at_ => at_) fun subscription => ?_
  refine Triple.weaken (holds_make_other (fun _ _ at_ => at_) fun no _ at_ =>
    unprepared (by simp [preparations]) no at_) (fun _ at_ => at_) fun _ _ ⟨at_, guarded⟩ => ?_
  exact ⟨at_, publisher, subscription, guarded⟩

/-- **A participant is made, or nothing is left of it.** -/
theorem holds_initializeParticipant (down : ∀ call, o.teardown call = true) :
    Triple (At (c.owning none)) (initializeParticipant lib o name ns)
      (fun _ ctx => (∃ handle, At (c.owning (some handle)) ctx) ∧
        o.Initializes lib (nodeUserData name ns c.enclave))
      fun _ ctx => At (c.owning none) ctx ∧
        ¬ o.Initializes lib (nodeUserData name ns c.enclave) := by
  refine Triple.scopeExit (F := Unprepared c o lib (nodeUserData name ns c.enclave)) ?_
    fun _ => Triple.assume fun failed => Triple.choose fun participant => ?_
  swap
  · exact Triple.unrescued (Triple.weaken (holds_finalizeParticipant down participant)
      (fun _ at_ => at_) fun _ _ at_ => ⟨at_, failed⟩)
  refine prepares_check (by simp [preparations]) fun factory => ?_
  refine prepares_check (by simp [preparations]) fun remote => ?_
  refine prepares_check (by simp [preparations]) fun participantQos => ?_
  refine Triple.bind (Q := fun ctx ctx' => At (c.owning none) ctx' ∧ ctx.enclave = c.enclave)
    (Triple.get fun ctx at_ => ⟨at_, congrArg Account.enclave at_⟩) fun ctx =>
      Triple.assume fun same => ?_
  rw [same]
  refine (holds_check fun no _ at_ => ?_).bind fun _ => Triple.assume fun fits => ?_
  · exact ⟨⟨none, at_⟩, fun all => of_decide_eq_false no all.1⟩
  refine (holds_make (f := c.owning) (fun handle ctx at_ => ?_) fun no _ at_ =>
    unprepared (by simp [preparations]) no at_).bind fun _ =>
      Triple.assume fun made => Triple.choose fun handle => ?_
  · have nothing : ctx.participants = [] := congrArg Account.participants at_
    rw [nothing]
    exact congrArg (Account.owning · handle) at_
  refine prepares_check (by simp [preparations]) fun publisherQos => ?_
  refine prepares_make (by simp [preparations]) (fun _ _ at_ => at_) fun publisher => ?_
  refine prepares_check (by simp [preparations]) fun publisherQosFinal => ?_
  refine prepares_check (by simp [preparations]) fun subscriberQos => ?_
  refine prepares_make (by simp [preparations]) (fun _ _ at_ => at_) fun subscriber => ?_
  refine prepares_check (by simp [preparations]) fun subscriberQosFinal => ?_
  refine Triple.rescue (Triple.weaken holds_graphCacheInitialize (fun _ at_ => at_) ?_) fun _ =>
    Triple.assume fun failed => Triple.choose fun participant =>
      holds_fail fun _ at_ => ⟨⟨participant, at_⟩, failed⟩
  rintro _ ctx ⟨at_, discoveryPublisher, discoverySubscription, guarded⟩
  refine ⟨⟨handle, at_⟩, of_decide_eq_true fits, ?_⟩
  simp [preparations, *]

/-! ## Nodes -/

/-- Whether a participant that this node needs is also enabled. Nothing is asked if no participant
is needed, or none can be made. -/
def Enables (c : Account) (lib : Library) (o : Outcomes) (name ns : String) : Prop :=
  c.nodeCount = 0 → c.isShutdown = false → lib.validateNodeName name = none →
    lib.validateNamespace ns = none → o.Initializes lib (nodeUserData name ns c.enclave) →
      o.RunsListener

/-- A participant that no node is counted for. -/
def Stranded (ctx : ContextImpl) : Prop := ctx.nodeCount = 0 ∧ ctx.participant.isSome = true

theorem Account.Balanced.eq_owning (balanced : c.Balanced) : c = c.owning c.participant := by
  rw [owning, ← balanced.existing]

/-- A counted context has some balanced account. -/
theorem holds_of_counted {α : Type} {n : Nat} {m : Impl α} {Q : α → ContextImpl → Prop}
    {E : RmwRet → ContextImpl → Prop}
    (h : ∀ c : Account, c.Balanced → c.nodeCount = n → Triple (At c) m Q E) :
    Triple (Counted n) m Q E :=
  fun ctx counted => h ctx.account counted.1 counted.2 ctx rfl

theorem counted_of_at {n : Nat} {ctx : ContextImpl} (balanced : c.Balanced)
    (count : c.nodeCount = n) (at_ : At c ctx) : Counted n ctx := by
  unfold At at at_
  subst at_
  exact ⟨balanced, count⟩

theorem at_counting {n : Nat} {ctx : ContextImpl} (at_ : At c ctx) :
    At (c.counting n) { ctx with nodeCount := n } :=
  congrArg (Account.counting · n) at_

theorem Account.Balanced.counting (balanced : c.Balanced) (held : c.participant.isSome = true)
    {n : Nat} (pos : 0 < n) : (c.counting n).Balanced :=
  ⟨balanced.existing, iff_of_true held pos⟩

theorem balanced_bare {n : Nat} (zero : n = 0) : ((c.counting n).owning none).Balanced :=
  ⟨rfl, iff_of_false Bool.false_ne_true (zero ▸ Nat.lt_irrefl 0)⟩

/-- **With the last node goes the participant.** -/
theorem holds_finalizeNode (down : ∀ call, o.teardown call = true) {n : Nat}
    {E : RmwRet → ContextImpl → Prop} :
    Triple (Counted (n + 1)) (finalizeNode o) (fun _ => Counted n) E := by
  refine holds_of_counted fun c balanced count => ?_
  have held : c.participant.isSome = true := balanced.held.mpr (by omega)
  refine Triple.bind (Q := fun _ => At (c.counting n)) (Triple.modify fun ctx at_ => ?_) fun _ => ?_
  · have before : ctx.nodeCount = n + 1 := (congrArg Account.nodeCount at_).trans count
    rw [before]
    exact at_counting at_
  refine Triple.bind (Q := fun ctx ctx' => At (c.counting n) ctx' ∧ ctx.nodeCount = n)
    (Triple.get fun ctx at_ => ⟨at_, congrArg Account.nodeCount at_⟩) fun ctx =>
      Triple.assume fun same => ?_
  rw [same]
  refine Triple.ite (fun more => Triple.pure fun _ at_ => ?_) fun last => ?_
  · exact counted_of_at (balanced.counting held (Nat.pos_of_ne_zero more)) rfl at_
  · have none_left : n = 0 := not_not.mp last
    have remaining : c.counting n = (c.counting n).owning c.participant := by
      rw [Account.owning, Account.counting, ← balanced.existing]
    rw [remaining]
    refine Triple.weaken (holds_finalizeParticipant down c.participant) (fun _ at_ => at_)
      fun _ _ at_ => counted_of_at (balanced_bare none_left) rfl at_

/-- **The first node makes a participant**, which stays if it cannot be enabled. -/
theorem holds_initializeNode (down : ∀ call, o.teardown call = true) (balanced : c.Balanced)
    {enables : Prop}
    (means : enables ↔ (c.nodeCount = 0 → o.Initializes lib (nodeUserData name ns c.enclave) →
      o.RunsListener)) :
    Triple (At c) (initializeNode lib o name ns)
      (fun _ ctx => Counted (c.nodeCount + 1) ctx ∧ enables)
      fun _ ctx => (Counted c.nodeCount ctx ∧ enables) ∨ (Stranded ctx ∧ ¬ enables) := by
  refine Triple.bind (Q := fun ctx ctx' => At c ctx' ∧ ctx.nodeCount = c.nodeCount)
    (Triple.get fun ctx at_ => ⟨at_, congrArg Account.nodeCount at_⟩) fun ctx =>
      Triple.assume fun same => ?_
  rw [same]
  refine Triple.ite (fun more => Triple.modify fun ctx at_ => ?_) fun first => ?_
  · have held : c.participant.isSome = true := balanced.held.mpr (Nat.pos_of_ne_zero more)
    have before : ctx.nodeCount = c.nodeCount := congrArg Account.nodeCount at_
    rw [before]
    exact ⟨counted_of_at (balanced.counting held (Nat.succ_pos _)) rfl (at_counting at_),
      means.mpr fun none_ => absurd none_ more⟩
  have none_yet : c.nodeCount = 0 := not_not.mp first
  have unheld : c.participant = none := by
    have held := balanced.held.not.mpr (by omega)
    simpa using held
  have bare : c = c.owning none := unheld ▸ balanced.eq_owning
  refine Triple.bind (Q := fun _ ctx => (∃ handle, At (c.owning (some handle)) ctx) ∧
    o.Initializes lib (nodeUserData name ns c.enclave)) ?_ fun _ => Triple.assume fun made =>
      Triple.choose fun handle => ?_
  · rw [bare]
    refine Triple.rescue (holds_initializeParticipant down) fun _ =>
      Triple.assume fun unmade => holds_fail fun ctx at_ => ?_
    exact .inl ⟨counted_of_at (bare ▸ balanced) rfl at_, means.mpr fun _ made => absurd made unmade⟩
  refine Triple.bind (Q := fun _ ctx => At (c.owning (some handle)) ctx ∧ o.RunsListener)
    (Triple.rescue holds_graphCacheEnable fun _ => Triple.assume fun stopped => ?_) fun _ =>
      Triple.assume fun runs => Triple.modify fun ctx at_ => ?_
  · refine Triple.throw fun ctx at_ => .inr ⟨⟨?_, ?_⟩, fun enables => ?_⟩
    · exact (congrArg Account.nodeCount at_).trans none_yet
    · exact congrArg (fun c => c.participant.isSome) at_
    · exact stopped (means.mp enables none_yet made)
  · refine ⟨counted_of_at ⟨rfl, iff_of_true rfl Nat.one_pos⟩ ?_ (at_counting at_),
      means.mpr fun _ _ => runs⟩
    rw [none_yet]
    rfl

/-- What `rmw_create_node` does after a participant is there keeps the count. -/
theorem holds_counted_check {n : Nat} {succeeds : Bool} {ret : RmwRet} {msg : Option String} :
    Triple (Counted n) (check succeeds ret msg) (fun _ => Counted n) fun _ => Counted n :=
  holds_of_counted fun _ balanced count =>
    Triple.weaken (holds_check fun _ _ at_ => counted_of_at balanced count at_) (fun _ at_ => at_)
      fun _ _ checked => counted_of_at balanced count checked.1

theorem holds_counted_fail {α : Type} {n : Nat} {ret : RmwRet} {msg : Option String}
    {Q : α → ContextImpl → Prop} :
    Triple (Counted n) (fail ret msg : Impl α) Q fun _ => Counted n :=
  holds_of_counted fun _ balanced count => holds_fail fun _ at_ => counted_of_at balanced count at_

/-- **Creating a node counts it, or leaves the count**, unless it strands a participant. -/
theorem holds_rmwCreateNode (down : ∀ call, o.teardown call = true) (balanced : c.Balanced) :
    Triple (At c) (rmwCreateNode lib o name ns)
      (fun _ ctx => Counted (c.nodeCount + 1) ctx ∧ Enables c lib o name ns)
      fun _ ctx => (Counted c.nodeCount ctx ∧ Enables c lib o name ns) ∨
        (Stranded ctx ∧ ¬ Enables c lib o name ns) := by
  have left {ctx : ContextImpl} (at_ : At c ctx) (enables : Enables c lib o name ns) :
      (Counted c.nodeCount ctx ∧ Enables c lib o name ns) ∨
        (Stranded ctx ∧ ¬ Enables c lib o name ns) :=
    .inl ⟨counted_of_at balanced rfl at_, enables⟩
  -- A name that is not valid, or a context that is shut down, ends it before anything is made.
  refine (holds_checkName fun _ invalid _ at_ => left at_ fun _ _ named => ?_).bind fun _ =>
    Triple.assume fun named => ?_
  · exact nomatch invalid.symm.trans named
  refine (holds_checkName fun _ invalid _ at_ => left at_ fun _ _ _ spaced => ?_).bind fun _ =>
    Triple.assume fun spaced => ?_
  · exact nomatch invalid.symm.trans spaced
  refine Triple.bind (Q := fun ctx ctx' => At c ctx' ∧ ctx.isShutdown = c.isShutdown)
    (Triple.get fun ctx at_ => ⟨at_, congrArg Account.isShutdown at_⟩) fun ctx =>
      Triple.assume fun same => ?_
  rw [same]
  refine (holds_check fun stopped _ at_ => left at_ fun _ running => ?_).bind fun _ =>
    Triple.assume fun running => ?_
  · rw [running] at stopped
    exact nomatch stopped
  have open_ : c.isShutdown = false := by simpa using running
  refine (holds_initializeNode down balanced ?_).bind fun _ => Triple.assume fun enables => ?_
  · exact ⟨fun enables first => enables first open_ named spaced,
      fun enables first _ _ _ => enables first⟩
  refine Triple.scopeExit (F := fun _ => Counted (c.nodeCount + 1)) ?_ fun _ =>
    Triple.unrescued (Triple.weaken (holds_finalizeNode down) (fun _ counted => counted)
      fun _ _ counted => .inl ⟨counted, enables⟩)
  refine holds_counted_check.bind fun _ => ?_
  refine Triple.bind (Q := fun _ => Counted (c.nodeCount + 1)) (fun _ counted => counted)
    fun handle => ?_
  refine holds_counted_check.bind fun _ => holds_counted_check.bind fun _ => ?_
  refine (Triple.rescue holds_counted_check fun _ => holds_counted_fail).bind fun _ => ?_
  exact Triple.pure fun _ counted => ⟨counted, enables⟩

/-- **Destroying a node takes it off the count.** -/
theorem holds_rmwDestroyNode (down : ∀ call, o.teardown call = true) {n : Nat} {node : Node} :
    Triple (Counted (n + 1)) (rmwDestroyNode o node) (fun _ => Counted n) fun _ _ => False := by
  refine Triple.bind (Q := fun _ => Counted (n + 1)) (Triple.unrescued ?_) fun _ =>
    Triple.unrescued (holds_finalizeNode down)
  exact holds_of_counted fun c balanced count => Triple.weaken (holds_down down _ _ _)
    (fun _ at_ => at_) fun _ _ at_ => counted_of_at balanced count at_

end SettingUp

/-! ## Runs -/

/-- A call of a program. -/
inductive Call where
  | create (name ns : String) (o : Outcomes)
  | destroy (node : Node) (o : Outcomes)

/-- A context, and the nodes that the program has: it was given them, and has not destroyed them. -/
structure Session where
  ctx : ContextImpl
  alive : List Node

/-- What a call does. -/
def Session.step (lib : Library) (s : Session) : Call → Session
  | .create name ns o =>
    match rmwCreateNode lib o name ns s.ctx with
    | .ok node ctx => { ctx, alive := s.alive ++ [node] }
    | .error _ ctx => { s with ctx }
  | .destroy node o =>
    match rmwDestroyNode o node s.ctx with
    | .ok _ ctx => { ctx, alive := s.alive.erase node }
    | .error _ ctx => { s with ctx }

/-- A context that was initialized and has no node yet. -/
def ContextImpl.create (enclave : String) (isShutdown : Bool) : ContextImpl where
  enclave := enclave
  isShutdown := isShutdown
  nodeCount := 0
  participant := none
  publisher := none
  subscriber := none
  pub := none
  sub := none
  graphGuardCondition := none
  listenerThreadGc := none
  threadIsRunning := false
  participants := []
  supply := 0
  errorMsg := none

/-- The session after some calls. -/
def Session.after (lib : Library) (enclave : String) (isShutdown : Bool) (calls : List Call) :
    Session :=
  run (Session.step lib) { ctx := .create enclave isShutdown, alive := [] } calls

/-- **The nodes are counted, a participant is held exactly while there are some, and it is the only
one that exists.** -/
structure Session.Right (s : Session) : Prop where
  count : s.ctx.nodeCount = s.alive.length
  held : s.ctx.participant.isSome = true ↔ 0 < s.ctx.nodeCount
  existing : s.ctx.participants = s.ctx.participant.toList

/-- Everything that a call takes down can be taken down. -/
def Call.TakesDown : Call → Prop
  | .create _ _ o => ∀ call, o.teardown call = true
  | .destroy _ o => ∀ call, o.teardown call = true

/-- A program destroys nodes that it has. -/
def Session.Admits (s : Session) : Call → Prop
  | .create .. => True
  | .destroy node _ => node ∈ s.alive

/-- A call for the first node that makes a participant enables it. -/
def Session.Enabled (lib : Library) (s : Session) : Call → Prop
  | .create name ns o => Enables s.ctx.account lib o name ns
  | .destroy .. => True

section Session

variable {lib : Library} {s : Session} {call : Call}

theorem Session.right_iff : s.Right ↔ Counted s.alive.length s.ctx := by
  constructor
  · rintro ⟨count, held, existing⟩
    exact ⟨⟨existing, held⟩, count⟩
  · rintro ⟨⟨existing, held⟩, count⟩
    exact ⟨count, held, existing⟩

theorem not_counted_of_stranded {ctx : ContextImpl} (stranded : Stranded ctx) (n : Nat) :
    ¬ Counted n ctx := by
  rintro ⟨balanced, -⟩
  obtain ⟨zero, held⟩ := stranded
  exact absurd (balanced.held.mp held) (by rw [show ctx.account.nodeCount = 0 from zero]; omega)

/-- A call keeps the session right exactly if it enables the participant it makes. -/
theorem Session.Right.step_iff (right : s.Right) (down : call.TakesDown) (admits : s.Admits call) :
    (s.step lib call).Right ↔ s.Enabled lib call := by
  obtain ⟨balanced, count⟩ := right_iff.mp right
  cases call with
  | create name ns o =>
    have ends := @holds_rmwCreateNode _ _ lib name ns down balanced s.ctx rfl
    cases run : rmwCreateNode lib o name ns s.ctx with
    | ok node ctx =>
      rw [run] at ends
      obtain ⟨counted, enables⟩ := ends
      have stepped : s.step lib (.create name ns o) = { ctx, alive := s.alive ++ [node] } := by
        simp only [Session.step, run]
      refine iff_of_true ?_ enables
      rw [stepped, right_iff, List.length_append, List.length_singleton, ← count]
      exact counted
    | error _ ctx =>
      rw [run] at ends
      have stepped : s.step lib (.create name ns o) = { s with ctx } := by
        simp only [Session.step, run]
      rw [stepped, right_iff]
      rcases ends with ⟨counted, enables⟩ | ⟨stranded, stopped⟩
      · rw [← count]
        exact iff_of_true counted enables
      · exact iff_of_false (not_counted_of_stranded stranded _) stopped
  | destroy node o =>
    have some_alive : s.alive.length = (s.alive.erase node).length + 1 := by
      have positive := List.length_pos_of_mem admits
      rw [List.length_erase_of_mem admits]
      omega
    have ends := @holds_rmwDestroyNode o down (s.alive.erase node).length node s.ctx
      ⟨balanced, count.trans some_alive⟩
    cases run : rmwDestroyNode o node s.ctx with
    | ok _ ctx =>
      rw [run] at ends
      have stepped : s.step lib (.destroy node o) = { ctx, alive := s.alive.erase node } := by
        simp only [Session.step, run]
      rw [stepped, right_iff]
      exact iff_of_true ends trivial
    | error _ ctx =>
      rw [run] at ends
      exact ends.elim

end Session

/-- **When a participant exists exactly while nodes do.** In every sequence of calls that create and
destroy nodes of a context, whatever fails while nodes are created, the session is right after each
call exactly if each call that makes a participant also enables it. -/
theorem balanced_iff_enabled (lib : Library) (enclave : String) (isShutdown : Bool)
    (calls : List Call) (down : ∀ call ∈ calls, call.TakesDown)
    (admits : Each (fun before call =>
      (Session.after lib enclave isShutdown before).Admits call) calls) :
    Always (fun before => (Session.after lib enclave isShutdown before).Right) calls ↔
      Each (fun before call => (Session.after lib enclave isShutdown before).Enabled lib call)
        calls := by
  refine always_iff_each (I := fun _ => True) trivial ?_ fun before call started _ right => ?_
  · exact ⟨rfl, iff_of_false Bool.false_ne_true (Nat.lt_irrefl 0), rfl⟩
  · refine ⟨fun _ => trivial, ?_⟩
    have same : Session.after lib enclave isShutdown (before ++ [call]) =
        (Session.after lib enclave isShutdown before).step lib call := run_concat
    rw [same]
    exact right.step_iff (down call (started.subset (by simp))) (admits before call started)

/-- A first node whose listener thread does not start, and the same call again. -/
def retried : List Call :=
  [.create "talker" "/" ⟨fun call => call != .startListenerThread, fun _ => true⟩,
    .create "talker" "/" ⟨fun _ => true, fun _ => true⟩]

/-- Every name is valid, and there is room for 256 bytes. -/
def roomyLibrary : Library where
  userDataCapacity := 256
  validateNodeName _ := none
  validateNamespace _ := none

theorem balanced_iff_enabled_retried :
    Always (fun before => (Session.after roomyLibrary "/" false before).Right) retried ↔
      Each (fun before call =>
        (Session.after roomyLibrary "/" false before).Enabled roomyLibrary call) retried := by
  have downs : ∀ call ∈ retried, call.TakesDown := by
    intro call mem
    rcases List.mem_pair.mp mem with rfl | rfl
    · exact fun _ => rfl
    · exact fun _ => rfl
  refine balanced_iff_enabled roomyLibrary "/" false retried downs fun before call started => ?_
  have mem : call ∈ retried := started.subset (by simp)
  rcases List.mem_pair.mp mem with rfl | rfl
  · trivial
  · trivial

/-- The participant of the first call is left behind by the second. -/
theorem retried_dropped :
    ¬ Always (fun before => (Session.after roomyLibrary "/" false before).Right) retried ∧
      (Session.after roomyLibrary "/" false retried).ctx.participants.length = 2 ∧
      (Session.after roomyLibrary "/" false retried).ctx.nodeCount = 1 := by
  refine ⟨fun always => ?_, by decide, by decide⟩
  exact absurd always.last.existing (by decide)

end Lifecycle

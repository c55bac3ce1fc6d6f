import RmwGurumdds.Graph.EntityQos

/-!
# The actual QoS of an endpoint

A profile is converted when an endpoint is created, and the policies of the endpoint can be read
back. What is read back should be what was asked for: each policy that the profile specifies, with
durations as far as DDS can hold them, and no endpoint at all where the conversion has no case for a
policy.

The conversion finds such a policy, but its callers do not look at how it ended and report success.
A depth is read back as it was given where it survives the way through 32 bits with a sign. Every
other policy is read back as requested.
-/

namespace Graph

open Wire Rmw Exec

/-! ## Reading back -/

/-- `static_cast<size_t>` of a depth. -/
def depthToSize (depth : BitVec 32) : Nat := (depth.signExtend 64).toNat

/-- The policies that both functions below convert. -/
def convertEntityQos (ddsQos : EntityPolicies) (qos : QosProfile) : QosProfile :=
  { qos with
    reliability := convertReliability ddsQos.reliability
    durability := convertDurability ddsQos.durability
    deadline := convertDeadline ddsQos.deadline
    liveliness := convertLiveliness ddsQos.liveliness
    livelinessLeaseDuration := convertLivelinessLeaseDuration ddsQos.liveliness
    history := convertHistory ddsQos.history
    depth := depthToSize ddsQos.history.depth }

/-- `rmw_subscription_get_actual_qos` of a subscription that has a reader, over what DDS yields as
the QoS of the reader and whether it finalizes the copy. -/
def rmwSubscriptionGetActualQos (ddsQos : Option EntityPolicies) (finalized : Bool) :
    EStateM String QosProfile Unit := do
  match ddsQos with
  | none => throw "subscription can't get data reader qos policies"
  | some ddsQos =>
    modify (convertEntityQos ddsQos)
    if !finalized then throw "failed to finalize datareader qos"

/-- `rmw_publisher_get_actual_qos` of a publisher that has a writer. -/
def rmwPublisherGetActualQos (ddsQos : Option DataWriterQos) (finalized : Bool) :
    EStateM String QosProfile Unit := do
  match ddsQos with
  | none => throw "publisher can't get data writer qos policies"
  | some ddsQos =>
    modify fun qos => { convertEntityQos ddsQos.toEntityPolicies qos with
      lifespan := convertLifespan (some ddsQos.lifespan) }
    if !finalized then throw "failed to finalize datawriter qos"

/-! ## What is asked of the conversion -/

/-- `rmw_time_total_nsec`: it saturates. -/
def totalNsec (time : RmwTime) : Nat :=
  min (time.sec.toNat * 10 ^ 9 + time.nsec.toNat) (2 ^ 63 - 1)

/-- What the other packages document: times are equal if they are as long, and a clamped time fits a
DDS duration. -/
structure QosLibrary.Documented (lib : QosLibrary) : Prop where
  equal : ∀ t u, lib.rmwTimeEqual t u = true ↔ totalNsec t = totalNsec u
  clamped : ∀ t, (lib.clampRmwTimeToDdsTime t).sec.toNat < 2 ^ 31 ∧
    (lib.clampRmwTimeToDdsTime t).nsec.toNat < 2 ^ 32

/-- A duration as far as DDS can hold it. -/
def QosLibrary.held (lib : QosLibrary) (time : RmwTime) : RmwTime :=
  if lib.rmwTimeEqual time .infinite then .infinite else lib.clampRmwTimeToDdsTime time

/-- Every policy is one that the conversion has a case for. -/
structure Handled (profile : QosProfile) : Prop where
  history : profile.history ≠ .unknown
  reliability : profile.reliability ≠ .unknown ∧ profile.reliability ≠ .bestAvailable
  durability : profile.durability ≠ .unknown ∧ profile.durability ≠ .bestAvailable
  liveliness : profile.liveliness ≠ .unknown ∧ profile.liveliness ≠ .bestAvailable

/-- Each policy that a profile specifies is read back as requested. -/
structure ReadBack (lib : QosLibrary) (requested actual : QosProfile) : Prop where
  history : requested.history ≠ .systemDefault → actual.history = requested.history
  depth : requested.depth ≠ 0 → actual.depth = requested.depth
  reliability : requested.reliability ≠ .systemDefault →
    actual.reliability = requested.reliability
  durability : requested.durability ≠ .systemDefault → actual.durability = requested.durability
  deadline : requested.deadline ≠ durationUnspecified →
    actual.deadline = lib.held requested.deadline
  liveliness : requested.liveliness ≠ .systemDefault → actual.liveliness = requested.liveliness
  leaseDuration : requested.livelinessLeaseDuration ≠ durationUnspecified →
    actual.livelinessLeaseDuration = lib.held requested.livelinessLeaseDuration

/-- A reader's QoS is refused or applied in full: `result` is what the conversion returned, with the
policies it left. -/
def AppliedToReader (lib : QosLibrary) (profile : QosProfile) (result : Bool × EntityPolicies) :
    Prop :=
  (¬ Handled profile → result.1 = false) ∧
    (result.1 = true → ∀ was actual,
      rmwSubscriptionGetActualQos (some result.2) true was = .ok () actual →
      ReadBack lib profile actual)

/-- And a writer's, which has a lifespan besides. -/
def AppliedToWriter (lib : QosLibrary) (profile : QosProfile) (result : Bool × DataWriterQos) :
    Prop :=
  (¬ Handled profile → result.1 = false) ∧
    (result.1 = true → ∀ was actual,
      rmwPublisherGetActualQos (some result.2) true was = .ok () actual →
      ReadBack lib profile actual ∧ (profile.lifespan ≠ durationUnspecified →
        actual.lifespan = lib.held profile.lifespan))

/-! ## The conditions -/

/-- A depth that 32 bits with a sign hold, or that is negative as such and extended again. -/
def DepthFits (depth : Nat) : Prop := depth < 2 ^ 31 ∨ 2 ^ 64 - 2 ^ 31 ≤ depth ∧ depth < 2 ^ 64

/-- The duration that a time asks for, over the one that is there. -/
def durationOver (lib : QosLibrary) (time : RmwTime) (was : DdsDuration) : DdsDuration :=
  if !isTimeUnspecified lib time then rmwTimeToDds lib time else was

/-- No duration is taken for an infinite one, unless it is. -/
def Told (lib : QosLibrary) (time : RmwTime) : Prop :=
  lib.clampRmwTimeToDdsTime time = { sec := 0x7fffffff, nsec := 0x7fffffff } →
    time = durationUnspecified ∨ lib.rmwTimeEqual time .infinite = true

/-- A profile that can be read back from a reader. -/
structure Applicable (lib : QosLibrary) (profile : QosProfile) : Prop where
  handled : Handled profile
  depth : DepthFits profile.depth
  deadline : Told lib profile.deadline
  leaseDuration : Told lib profile.livelinessLeaseDuration

theorem depthFits_iff {depth : Nat} :
    (depth ≠ 0 → depthToSize (BitVec.ofNat 32 depth) = depth) ↔ DepthFits depth := by
  have extended : depthToSize (BitVec.ofNat 32 depth) =
      if depth % 2 ^ 32 < 2 ^ 31 then depth % 2 ^ 32 else depth % 2 ^ 32 + (2 ^ 64 - 2 ^ 32) := by
    rw [depthToSize, BitVec.toNat_signExtend]
    simp only [BitVec.toNat_setWidth, BitVec.toNat_ofNat, BitVec.msb_eq_decide, decide_eq_true_eq]
    split
    · rw [if_neg (by omega)]
      omega
    · rw [if_pos (by omega)]
      omega
  rw [extended, DepthFits]
  constructor
  · intro same
    by_cases zero : depth = 0
    · omega
    · have := same zero
      split at this
      · omega
      · omega
  · rintro (small | ⟨large, fits⟩) -
    · rw [if_pos (by omega)]
      omega
    · rw [if_neg (by omega)]
      omega

section Durations

variable {lib : QosLibrary}

theorem isTimeUnspecified_iff (documented : lib.Documented) {time : RmwTime} :
    isTimeUnspecified lib time = true ↔ time = durationUnspecified := by
  rw [isTimeUnspecified, documented.equal]
  constructor
  · intro same
    have zero : totalNsec durationUnspecified = 0 := by decide
    rw [zero, totalNsec] at same
    have sec : time.sec = 0 := BitVec.eq_of_toNat_eq (show time.sec.toNat = 0 by omega)
    have nsec : time.nsec = 0 := BitVec.eq_of_toNat_eq (show time.nsec.toNat = 0 by omega)
    cases time
    simp only at sec nsec
    subst sec nsec
    rfl
  · rintro rfl
    rfl

/-- What is written of a clamped time is read back as it was, except the infinite duration. -/
theorem ddsDurationToRmw_of_fits {time : RmwTime} (sec : time.sec.toNat < 2 ^ 31)
    (nsec : time.nsec.toNat < 2 ^ 32) :
    ddsDurationToRmw { sec := time.sec.setWidth 32, nanosec := time.nsec.setWidth 32 } =
      if time = { sec := 0x7fffffff, nsec := 0x7fffffff } then .infinite else time := by
  have sec_back : (time.sec.setWidth 32).signExtend 64 = time.sec := by
    apply BitVec.eq_of_toNat_eq
    rw [BitVec.toNat_signExtend]
    simp only [BitVec.toNat_setWidth, BitVec.msb_eq_decide, decide_eq_true_eq]
    rw [if_neg (by omega)]
    omega
  have nsec_back : (time.nsec.setWidth 32).setWidth 64 = time.nsec := by
    apply BitVec.eq_of_toNat_eq
    simp only [BitVec.toNat_setWidth]
    omega
  have infinite : time.sec.setWidth 32 = DdsDuration.infinite.sec ∧
      time.nsec.setWidth 32 = DdsDuration.infinite.nanosec ↔
      time = { sec := 0x7fffffff, nsec := 0x7fffffff } := by
    constructor
    · rintro ⟨sec_eq, nsec_eq⟩
      rw [sec_eq] at sec_back
      rw [nsec_eq] at nsec_back
      cases time
      simp only at sec_back nsec_back
      subst sec_back nsec_back
      rfl
    · rintro rfl
      exact ⟨rfl, rfl⟩
  unfold ddsDurationToRmw
  simp only [infinite, sec_back, nsec_back]

/-- **A duration that is specified is read back as far as DDS can hold it, exactly when it is not
taken for the infinite one.** -/
theorem told_iff (documented : lib.Documented) {time : RmwTime} {was : DdsDuration} :
    (time ≠ durationUnspecified →
      ddsDurationToRmw (durationOver lib time was) = lib.held time) ↔ Told lib time := by
  by_cases unspecified : time = durationUnspecified
  · exact iff_of_true (fun specified => absurd unspecified specified) fun _ => .inl unspecified
  have specified : isTimeUnspecified lib time = false :=
    Bool.eq_false_iff.mpr fun h => unspecified ((isTimeUnspecified_iff documented).mp h)
  rw [durationOver, specified, Bool.not_false, if_pos rfl]
  by_cases infinite : lib.rmwTimeEqual time .infinite = true
  · have written : rmwTimeToDds lib time = .infinite := if_pos infinite
    rw [written, QosLibrary.held, if_pos infinite]
    exact iff_of_true (fun _ => rfl) fun _ => .inr infinite
  · obtain ⟨sec, nsec⟩ := documented.clamped time
    have written : rmwTimeToDds lib time = _ := if_neg infinite
    rw [written, ddsDurationToRmw_of_fits sec nsec, QosLibrary.held, if_neg infinite]
    constructor
    · intro same taken
      have read := same unspecified
      rw [if_pos taken, taken] at read
      exact absurd read (by decide)
    · intro told _
      exact if_neg fun taken => (told taken).elim unspecified infinite

end Durations

/-! ## What the conversion writes -/

/-- The kind of history that a policy asks for, over the one that is there. -/
def historyKindOver : HistoryPolicy → HistoryKind → HistoryKind
  | .keepLast, _ => .keepLast
  | .keepAll, _ => .keepAll
  | .systemDefault, was | .unknown, was => was

/-- The kind of reliability that a policy asks for. -/
def reliabilityKindOver : ReliabilityPolicy → ReliabilityKind → ReliabilityKind
  | .bestEffort, _ => .bestEffort
  | .reliable, _ => .reliable
  | .systemDefault, was | .unknown, was | .bestAvailable, was => was

/-- The kind of durability that a policy asks for. -/
def durabilityKindOver : DurabilityPolicy → DurabilityKind → DurabilityKind
  | .transientLocal, _ => .transientLocal
  | .volatile, _ => .volatile
  | .systemDefault, was | .unknown, was | .bestAvailable, was => was

/-- The kind of liveliness that a policy asks for. -/
def livelinessKindOver : LivelinessPolicy → LivelinessKind → LivelinessKind
  | .automatic, _ => .automatic
  | .manualByTopic, _ => .manualByTopic
  | .systemDefault, was | .unknown, was | .bestAvailable, was => was

/-- The resource limits that a depth and a kind of history lead to. -/
def resourceLimitsOver (depth : Nat) (history : HistoryPolicy) (was : ResourceLimits) :
    ResourceLimits :=
  if depth ≠ 0 then
    { maxSamples := BitVec.ofNat 32 depth
      maxInstances := 1
      maxSamplesPerInstance := BitVec.ofNat 32 depth }
  else if history = .keepAll then
    { maxSamples := 4096, maxInstances := 1, maxSamplesPerInstance := 4096 }
  else was

section Conversion

variable {lib : QosLibrary} {profile : QosProfile}

theorem setHistory_run {history : HistoryPolicy} (handled : history ≠ .unknown)
    (qos : EntityPolicies) : setHistory history qos =
      .ok () { qos with
        history := { qos.history with kind := historyKindOver history qos.history.kind } } := by
  cases history with
  | unknown => exact absurd rfl handled
  | systemDefault | keepLast | keepAll => rfl

theorem setReliability_run {reliability : ReliabilityPolicy}
    (handled : reliability ≠ .unknown ∧ reliability ≠ .bestAvailable) (qos : EntityPolicies) :
    setReliability reliability qos =
      .ok () { qos with reliability := reliabilityKindOver reliability qos.reliability } := by
  cases reliability with
  | unknown => exact absurd rfl handled.1
  | bestAvailable => exact absurd rfl handled.2
  | systemDefault | reliable | bestEffort => rfl

theorem setDurability_run {durability : DurabilityPolicy}
    (handled : durability ≠ .unknown ∧ durability ≠ .bestAvailable) (qos : EntityPolicies) :
    setDurability durability qos =
      .ok () { qos with durability := durabilityKindOver durability qos.durability } := by
  cases durability with
  | unknown => exact absurd rfl handled.1
  | bestAvailable => exact absurd rfl handled.2
  | systemDefault | transientLocal | volatile => rfl

theorem setDepth_run (depth : Nat) (history : HistoryPolicy) (qos : EntityPolicies) :
    setDepth depth history qos = .ok () { qos with
      history := { qos.history with
        depth := if depth ≠ 0 then BitVec.ofNat 32 depth else qos.history.depth }
      resourceLimits := resourceLimitsOver depth history qos.resourceLimits } := by
  unfold setDepth resourceLimitsOver
  split
  · rfl
  · split
    · rfl
    · rfl

theorem setDeadline_run (deadline : RmwTime) (qos : EntityPolicies) :
    setDeadline lib deadline qos =
      .ok () { qos with deadline := durationOver lib deadline qos.deadline } := by
  unfold setDeadline durationOver
  split
  · rfl
  · rfl

theorem setLiveliness_run {liveliness : LivelinessPolicy}
    (handled : liveliness ≠ .unknown ∧ liveliness ≠ .bestAvailable) (qos : EntityPolicies) :
    setLiveliness liveliness qos =
      .ok () { qos with liveliness := { qos.liveliness with
        kind := livelinessKindOver liveliness qos.liveliness.kind } } := by
  cases liveliness with
  | unknown => exact absurd rfl handled.1
  | bestAvailable => exact absurd rfl handled.2
  | systemDefault | automatic | manualByTopic => rfl

theorem setLeaseDuration_run (leaseDuration : RmwTime) (qos : EntityPolicies) :
    setLeaseDuration lib leaseDuration qos = .ok () { qos with liveliness := { qos.liveliness with
      leaseDuration := durationOver lib leaseDuration qos.liveliness.leaseDuration } } := by
  unfold setLeaseDuration durationOver
  split
  · rfl
  · rfl

/-- **A profile that is handled is written policy by policy over what was there.** -/
theorem entityQosFromProfile_of_handled (handled : Handled profile) (qos : EntityPolicies) :
    entityQosFromProfile lib profile qos = { qos with
      history := {
        kind := historyKindOver profile.history qos.history.kind
        depth := if profile.depth ≠ 0 then BitVec.ofNat 32 profile.depth else qos.history.depth }
      reliability := reliabilityKindOver profile.reliability qos.reliability
      durability := durabilityKindOver profile.durability qos.durability
      resourceLimits := resourceLimitsOver profile.depth profile.history qos.resourceLimits
      deadline := durationOver lib profile.deadline qos.deadline
      liveliness := {
        kind := livelinessKindOver profile.liveliness qos.liveliness.kind
        leaseDuration :=
          durationOver lib profile.livelinessLeaseDuration qos.liveliness.leaseDuration } } := by
  unfold entityQosFromProfile setEntityQosFromProfileGeneric
  rw [bind_ok (setHistory_run handled.history _),
    bind_ok (setReliability_run handled.reliability _),
    bind_ok (setDurability_run handled.durability _), bind_ok (setDepth_run _ _ _),
    bind_ok (setDeadline_run _ _), bind_ok (setLiveliness_run handled.liveliness _),
    setLeaseDuration_run]

/-! ## What is read back of it -/

theorem convertHistory_over {history : HistoryPolicy} {was : HistoryKind} {depth : BitVec 32}
    (handled : history ≠ .unknown) (specified : history ≠ .systemDefault) :
    convertHistory { kind := historyKindOver history was, depth } = history := by
  cases history with
  | unknown => exact absurd rfl handled
  | systemDefault => exact absurd rfl specified
  | keepLast | keepAll => rfl

theorem convertReliability_over {reliability : ReliabilityPolicy} {was : ReliabilityKind}
    (handled : reliability ≠ .unknown ∧ reliability ≠ .bestAvailable)
    (specified : reliability ≠ .systemDefault) :
    convertReliability (reliabilityKindOver reliability was) = reliability := by
  cases reliability with
  | unknown => exact absurd rfl handled.1
  | bestAvailable => exact absurd rfl handled.2
  | systemDefault => exact absurd rfl specified
  | reliable | bestEffort => rfl

theorem convertDurability_over {durability : DurabilityPolicy} {was : DurabilityKind}
    (handled : durability ≠ .unknown ∧ durability ≠ .bestAvailable)
    (specified : durability ≠ .systemDefault) :
    convertDurability (durabilityKindOver durability was) = durability := by
  cases durability with
  | unknown => exact absurd rfl handled.1
  | bestAvailable => exact absurd rfl handled.2
  | systemDefault => exact absurd rfl specified
  | transientLocal | volatile => rfl

theorem convertLiveliness_over {liveliness : LivelinessPolicy} {was : LivelinessKind}
    {leaseDuration : DdsDuration} (handled : liveliness ≠ .unknown ∧ liveliness ≠ .bestAvailable)
    (specified : liveliness ≠ .systemDefault) :
    convertLiveliness { kind := livelinessKindOver liveliness was, leaseDuration } =
      liveliness := by
  cases liveliness with
  | unknown => exact absurd rfl handled.1
  | bestAvailable => exact absurd rfl handled.2
  | systemDefault => exact absurd rfl specified
  | automatic | manualByTopic => rfl

/-- Of a profile that is handled, the depth and the durations decide. -/
theorem readBack_iff (documented : lib.Documented) (handled : Handled profile)
    (qos : EntityPolicies) (was : QosProfile) :
    ReadBack lib profile (convertEntityQos (entityQosFromProfile lib profile qos) was) ↔
      Applicable lib profile := by
  have depth_read : (profile.depth ≠ 0 →
      depthToSize (if profile.depth ≠ 0 then BitVec.ofNat 32 profile.depth
        else qos.history.depth) = profile.depth) ↔ DepthFits profile.depth := by
    rw [← depthFits_iff]
    exact forall_congr' fun specified => by rw [if_pos specified]
  rw [entityQosFromProfile_of_handled handled]
  constructor
  · intro read
    exact ⟨handled, depth_read.mp read.depth, (told_iff documented).mp read.deadline,
      (told_iff documented).mp read.leaseDuration⟩
  · intro applicable
    exact {
      history := convertHistory_over handled.history
      depth := depth_read.mpr applicable.depth
      reliability := convertReliability_over handled.reliability
      durability := convertDurability_over handled.durability
      deadline := (told_iff documented).mpr applicable.deadline
      liveliness := convertLiveliness_over handled.liveliness
      leaseDuration := (told_iff documented).mpr applicable.leaseDuration }

/-- The policies of readers say nothing about the lifespan. -/
theorem readBack_lifespan {actual : QosProfile} {lifespan : RmwTime} :
    ReadBack lib profile { actual with lifespan } ↔ ReadBack lib profile actual :=
  ⟨fun read => ⟨read.history, read.depth, read.reliability, read.durability, read.deadline,
      read.liveliness, read.leaseDuration⟩,
    fun read => ⟨read.history, read.depth, read.reliability, read.durability, read.deadline,
      read.liveliness, read.leaseDuration⟩⟩

theorem appliedToReader_iff (documented : lib.Documented) (typeHash : TypeHash)
    (qos : EntityPolicies) :
    AppliedToReader lib profile (getDatareaderQos lib profile typeHash qos) ↔
      Applicable lib profile := by
  constructor
  · rintro ⟨refused, applied⟩
    have handled : Handled profile := by
      by_contra unhandled
      exact absurd (refused unhandled) (by simp [getDatareaderQos])
    exact (readBack_iff documented handled qos profile).mp (applied rfl profile _ rfl)
  · intro applicable
    refine ⟨fun unhandled => absurd applicable.handled unhandled, ?_⟩
    intro _ was actual read
    cases read
    exact (readBack_iff documented applicable.handled qos was).mpr applicable

theorem appliedToWriter_iff (documented : lib.Documented) (typeHash : TypeHash)
    (qos : DataWriterQos) :
    AppliedToWriter lib profile (getDatawriterQos lib profile typeHash qos) ↔
      Applicable lib profile ∧ Told lib profile.lifespan := by
  constructor
  · rintro ⟨refused, applied⟩
    have handled : Handled profile := by
      by_contra unhandled
      exact absurd (refused unhandled) (by simp [getDatawriterQos])
    obtain ⟨read, lifespan⟩ := applied rfl profile _ rfl
    exact ⟨(readBack_iff documented handled qos.toEntityPolicies profile).mp
      (readBack_lifespan.mp read), (told_iff documented).mp lifespan⟩
  · rintro ⟨applicable, told⟩
    refine ⟨fun unhandled => absurd applicable.handled unhandled, ?_⟩
    intro _ was actual read
    cases read
    have others := readBack_iff documented applicable.handled qos.toEntityPolicies was
    exact ⟨readBack_lifespan.mpr (others.mpr applicable), (told_iff documented).mpr told⟩

end Conversion

/-- **QoS is refused or applied in full exactly for the profiles that the conversion handles** and
whose depth and durations survive the way through DDS. -/
theorem qos_applied_iff (lib : QosLibrary) (documented : lib.Documented) (profile : QosProfile)
    (typeHash : TypeHash) :
    (∀ qos : EntityPolicies,
      AppliedToReader lib profile (getDatareaderQos lib profile typeHash qos) ↔
        Applicable lib profile) ∧
    ∀ qos : DataWriterQos,
      AppliedToWriter lib profile (getDatawriterQos lib profile typeHash qos) ↔
        Applicable lib profile ∧ Told lib profile.lifespan :=
  ⟨appliedToReader_iff documented typeHash, appliedToWriter_iff documented typeHash⟩

section Sample

/-- Times and clamping as they are documented, and no hash. -/
def documentedLibrary : QosLibrary where
  rmwTimeEqual t u := totalNsec t == totalNsec u
  clampRmwTimeToDdsTime t :=
    if t.sec.toNat < 2 ^ 31 ∧ t.nsec.toNat < 2 ^ 32 then t
    else { sec := 0x7fffffff, nsec := 0xffffffff }
  encodeTypeHashForUserDataQos _ := none

theorem documentedLibrary_documented : documentedLibrary.Documented where
  equal _ _ := beq_iff_eq
  clamped t := by
    simp only [documentedLibrary]
    split
    · assumption
    · decide

/-- A profile with a deadline of one second and a depth of five. -/
def deadlineProfile : QosProfile where
  history := .keepLast
  depth := 5
  reliability := .bestEffort
  durability := .systemDefault
  deadline := { sec := 1, nsec := 0 }
  lifespan := .infinite
  liveliness := .automatic
  livelinessLeaseDuration := durationUnspecified
  avoidRosNamespaceConventions := false

/-- The policies of a reader before the conversion. -/
def initialPolicies : EntityPolicies where
  history := { kind := .keepLast, depth := 1 }
  reliability := .reliable
  durability := .volatile
  resourceLimits := { maxSamples := 8192, maxInstances := 4096, maxSamplesPerInstance := 8192 }
  deadline := .infinite
  liveliness := { kind := .automatic, leaseDuration := .infinite }
  userData := { value := [], size := 0 }

theorem qos_applied_iff_deadline :
    AppliedToReader documentedLibrary deadlineProfile
        (getDatareaderQos documentedLibrary deadlineProfile .zero initialPolicies) ↔
      Applicable documentedLibrary deadlineProfile :=
  (qos_applied_iff documentedLibrary documentedLibrary_documented deadlineProfile .zero).1
    initialPolicies

/-- A profile that asks for the best available reliability is accepted, and its reader stays as
reliable as it was. -/
theorem qos_bestAvailable_accepted :
    ¬ AppliedToReader documentedLibrary { deadlineProfile with reliability := .bestAvailable }
      (getDatareaderQos documentedLibrary { deadlineProfile with reliability := .bestAvailable }
        .zero initialPolicies) := by
  rintro ⟨refused, -⟩
  have unhandled : ¬ Handled { deadlineProfile with reliability := .bestAvailable } :=
    fun handled => handled.reliability.2 rfl
  exact absurd (refused unhandled) (by simp [getDatareaderQos])

end Sample

end Graph

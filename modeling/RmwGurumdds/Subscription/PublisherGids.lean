import RmwGurumdds.Subscription.SubscriberInfo

/-!
# Who published a message

A publisher has the gid that DDS tells of its writer, and a message that is taken carries the gid of
the writer it came from. Both are copies of the same sixteen bytes in structs of the user's, who
asks `rmw_compare_gids_equal` whether they are equal, to know the publisher's messages.

The bytes are equal exactly if the writer is the same. What is compared is where the structs are.
-/

namespace Subscription

open Rmw Store

/-! ## The functions -/

/-- An implementation identifier: the string of this implementation, or another one. -/
inductive Implementation where
  | gurumdds
  | other
deriving DecidableEq, Repr

/-- `rmw_gid_t`. -/
structure GidStruct where
  implementationIdentifier : Implementation
  data : Gid

/-- `entity_get_gid`, over what `dds_Entity_get_guid` yields. -/
def entityGetGid (guid : Option Guid) (gid : GidStruct) : GidStruct :=
  match guid with
  | some guid => { implementationIdentifier := .gurumdds, data := guidToGid guid }
  | none => gid

/-- `PublisherInfo`, as far as its gid goes. -/
structure PublisherInfo (ω : Type) where
  topicWriter : ω
  publisherGid : GidStruct

/-- A gid that was not filled in. -/
def GidStruct.zero : GidStruct where
  implementationIdentifier := .other
  data := Vector.replicate 16 0

/-- What `create_publisher` makes of a writer. -/
def createPublisherInfo {ω : Type} (entityGetGuid : ω → Option Guid) (topicWriter : ω) :
    PublisherInfo ω where
  topicWriter := topicWriter
  publisherGid := entityGetGid (entityGetGuid topicWriter) .zero

/-- The structs of a user, by their addresses. -/
abbrev GidMemory := Nat → GidStruct

/-- `rmw_get_gid_for_publisher` of a publisher of this implementation; its data may be null. -/
def rmwGetGidForPublisher {ω : Type} (publisherInfo : Option (PublisherInfo ω)) (gid : Nat)
    (memory : GidMemory) : Except String GidMemory :=
  match publisherInfo with
  | none => .error "publisher info handle is null"
  | some publisherInfo =>
    .ok fun address => if address = gid then publisherInfo.publisherGid else memory address

/-- The `publisher_gid` that `take` fills in. -/
def MessageInfo.gidStruct (messageInfo : MessageInfo) : GidStruct where
  implementationIdentifier := .gurumdds
  data := messageInfo.publisherGid

/-- The returns of `rmw_compare_gids_equal` that are no result. -/
inductive CompareFailure where
  | invalidArgument
  | incorrectRmwImplementation
deriving DecidableEq, Repr

/-- `rmw_compare_gids_equal`: the arguments may be null, and so may where the result goes. -/
def rmwCompareGidsEqual (memory : GidMemory) (gid1 gid2 : Option Nat) (hasResult : Bool) :
    Except CompareFailure Bool := do
  let some gid1 := gid1 | throw .invalidArgument
  if (memory gid1).implementationIdentifier ≠ .gurumdds then throw .incorrectRmwImplementation
  let some gid2 := gid2 | throw .invalidArgument
  if (memory gid2).implementationIdentifier ≠ .gurumdds then throw .incorrectRmwImplementation
  if !hasResult then throw .invalidArgument
  return gid1 == gid2

/-! ## What is compared -/

/-- Writers, and what DDS tells about them. -/
structure DdsWriters (ω : Type) where
  guid : ω → Guid
  /-- `dds_Entity_get_guid`. -/
  entityGetGuid : ω → Option Guid
  /-- The writer that a publication handle belongs to. -/
  writerOf : Nat → ω
  /-- `dds_DataReader_get_guid_from_publication_handle`. -/
  guidFromPublicationHandle : Nat → Option Gid

/-- DDS tells every GUID, and no two writers have the same. -/
structure DdsWriters.Documented {ω : Type} (dds : DdsWriters ω) : Prop where
  distinct : Function.Injective dds.guid
  entity : ∀ w, dds.entityGetGuid w = some (dds.guid w)
  handle : ∀ h, dds.guidFromPublicationHandle h = some (guidToGid (dds.guid (dds.writerOf h)))

/-- A comparison tells whether the publisher's writer published the message. -/
def Tells (result : Except CompareFailure Bool) (published : Prop) : Prop :=
  ∃ equal, result = .ok equal ∧ (equal = true ↔ published)

section Comparison

variable {ω α : Type} {dds : DdsWriters ω} {info : SubscriberInfo α} {sample : TopicSample α}
  {messageInfo : MessageInfo} {fails : Bool} {memory : GidMemory} {gid1 gid2 : Nat}

/-- Structs of this implementation are compared by their addresses. -/
theorem rmwCompareGidsEqual_eq (own1 : (memory gid1).implementationIdentifier = .gurumdds)
    (own2 : (memory gid2).implementationIdentifier = .gurumdds) :
    rmwCompareGidsEqual memory (some gid1) (some gid2) true = .ok (gid1 == gid2) := by
  simp [rmwCompareGidsEqual, own1, own2]
  rfl

theorem rmwGetGidForPublisher_own {publisherInfo : PublisherInfo ω} {memory' : GidMemory}
    (got : rmwGetGidForPublisher (some publisherInfo) gid1 memory = .ok memory') :
    memory' gid1 = publisherInfo.publisherGid := by
  cases got
  exact if_pos rfl

theorem createPublisherInfo_gid (documented : dds.Documented) (w : ω) :
    (createPublisherInfo dds.entityGetGuid w).publisherGid =
      { implementationIdentifier := .gurumdds, data := guidToGid (dds.guid w) } := by
  simp only [createPublisherInfo, documented.entity, entityGetGid]

/-- A message carries the GUID of the writer it came from. -/
theorem taken_gid (documented : dds.Documented)
    (next : info.topicReader.takeNextSample.1 = some sample)
    (taken : (rmwTakeWithInfo dds.guidFromPublicationHandle fails info).2.messageInfo =
      some messageInfo) :
    messageInfo.publisherGid = guidToGid (dds.guid (dds.writerOf sample.publicationHandle)) := by
  cases fails with
  | true => cases taken
  | false =>
    simp only [rmwTakeWithInfo, take, next, tookSample, Bool.false_eq_true, if_false] at taken
    split at taken
    · cases taken
      simp [TopicSample.messageInfo, documented.handle]
    · cases taken

/-- **The bytes of the two gids are equal exactly if the publisher's writer published the
message.** -/
theorem gid_data_eq_iff (documented : dds.Documented) (w : ω)
    (next : info.topicReader.takeNextSample.1 = some sample)
    (taken : (rmwTakeWithInfo dds.guidFromPublicationHandle fails info).2.messageInfo =
      some messageInfo) :
    (createPublisherInfo dds.entityGetGuid w).publisherGid.data = messageInfo.gidStruct.data ↔
      w = dds.writerOf sample.publicationHandle := by
  have carried : messageInfo.gidStruct.data = _ := taken_gid documented next taken
  rw [createPublisherInfo_gid documented, carried, guidToGid_inj, documented.distinct.eq_iff]

end Comparison

/-- **A publisher's own messages are not recognised as such.** Wherever the gid of a publisher and
the info of a message are stored, the comparison tells whether the publisher's writer published the
message exactly if the two are one struct, or it did not. -/
theorem compareGids_tells_iff {ω α : Type} (dds : DdsWriters ω) (documented : dds.Documented)
    (w : ω) (info : SubscriberInfo α) (sample : TopicSample α)
    (next : info.topicReader.takeNextSample.1 = some sample) (fails : Bool)
    (messageInfo : MessageInfo)
    (taken : (rmwTakeWithInfo dds.guidFromPublicationHandle fails info).2.messageInfo =
      some messageInfo)
    (before memory : GidMemory) (gid1 gid2 : Nat)
    (got : rmwGetGidForPublisher (some (createPublisherInfo dds.entityGetGuid w)) gid1 before =
      .ok memory)
    (stored : memory gid2 = messageInfo.gidStruct) :
    Tells (rmwCompareGidsEqual memory (some gid1) (some gid2) true)
        (w = dds.writerOf sample.publicationHandle) ↔
      gid1 = gid2 ∨ w ≠ dds.writerOf sample.publicationHandle := by
  have first := rmwGetGidForPublisher_own got
  have own1 : (memory gid1).implementationIdentifier = .gurumdds := by
    rw [first, createPublisherInfo_gid documented]
  have own2 : (memory gid2).implementationIdentifier = .gurumdds := by
    rw [stored]
    rfl
  rw [rmwCompareGidsEqual_eq own1 own2]
  constructor
  · rintro ⟨equal, ⟨⟩, tells⟩
    by_cases published : w = dds.writerOf sample.publicationHandle
    · exact .inl (beq_iff_eq.mp (tells.mpr published))
    · exact .inr published
  · intro condition
    refine ⟨_, rfl, beq_iff_eq.trans ⟨?_, ?_⟩⟩
    · -- One struct holds one gid.
      rintro rfl
      rw [← gid_data_eq_iff documented w next taken, ← first, stored]
    · intro published
      exact condition.elim id fun unpublished => absurd published unpublished

section Sample

/-- Two writers that are told apart by the prefix of their GUIDs. -/
def twoWriters : DdsWriters Bool where
  guid w := { guidPrefix := Vector.replicate 12 (if w then 1 else 2), entityId := .replicate 4 0 }
  entityGetGuid w := some
    { guidPrefix := Vector.replicate 12 (if w then 1 else 2), entityId := .replicate 4 0 }
  writerOf h := h == 1
  guidFromPublicationHandle h := some (guidToGid
    { guidPrefix := Vector.replicate 12 (if h == 1 then 1 else 2), entityId := .replicate 4 0 })

theorem twoWriters_documented : twoWriters.Documented where
  distinct := by
    intro w w' same
    have first := congrArg (fun guid : Guid => guid.guidPrefix.toList.head?) same
    cases w <;> cases w' <;> simp [twoWriters] at first ⊢
  entity _ := rfl
  handle _ := rfl

/-- A message of the first of them. -/
def firstWriterSample : TopicSample String where
  message := "hello"
  info := { SampleInfoEx.zero with validData := true }
  publicationHandle := 1

/-- A subscription to which it came. -/
def firstWriterInfo : SubscriberInfo String where
  topicReader := { samples := Marked.push [] firstWriterSample, notifies := false }
  mask := false
  callback := none
  userData := 0

/-- The info it is taken with. -/
def firstWriterMessageInfo : MessageInfo :=
  firstWriterSample.messageInfo twoWriters.guidFromPublicationHandle

/-- A publisher's gid at one address, and this info's at all others. -/
def publisherAndInfo (w : Bool) : GidMemory := fun address =>
  if address = 0 then (createPublisherInfo twoWriters.entityGetGuid w).publisherGid
  else firstWriterMessageInfo.gidStruct

theorem compareGids_tells_iff_otherWriter :
    Tells (rmwCompareGidsEqual (publisherAndInfo false) (some 0) (some 1) true)
        (false = twoWriters.writerOf firstWriterSample.publicationHandle) ↔
      0 = 1 ∨ false ≠ twoWriters.writerOf firstWriterSample.publicationHandle :=
  compareGids_tells_iff twoWriters twoWriters_documented false firstWriterInfo firstWriterSample
    rfl false firstWriterMessageInfo rfl (fun _ => firstWriterMessageInfo.gidStruct)
    (publisherAndInfo false) 0 1 rfl rfl

/-- The writer of a message is said not to have published it. -/
theorem ownMessage_not_recognised :
    twoWriters.writerOf firstWriterSample.publicationHandle = true ∧
      ¬ Tells (rmwCompareGidsEqual (publisherAndInfo true) (some 0) (some 1) true)
        (true = twoWriters.writerOf firstWriterSample.publicationHandle) := by
  refine ⟨rfl, ?_⟩
  rintro ⟨equal, compared, tells⟩
  have unequal : rmwCompareGidsEqual (publisherAndInfo true) (some 0) (some 1) true = .ok false :=
    rfl
  cases unequal.symm.trans compared
  exact absurd (tells.mpr rfl) (by decide)

end Sample

end Subscription

import RmwGurumdds.Events.EventInfo
import RmwGurumdds.Rmw.Sample
import RmwGurumdds.Store.Marked

/-!
# Messages of a subscription

A subscription is told of new messages by a callback, and takes them one at a time. Its reader in
DDS keeps the samples that arrived with a mark for those that were read. A read marks all samples
that were not read, and that is how they are counted; a sample is taken if it is the first one that
was not read.

The messages are of any type. Which calls of DDS fail is told by the caller of each function.
-/

namespace Subscription

open Rmw Events Store

variable {α : Type}

/-- `dds_ReturnCode_t`, as far as these functions tell codes apart. -/
inductive DdsReturnCode where
  | ok
  | noData
  | error
  | timeout
  | other
deriving DecidableEq, Repr

/-- `check_dds_ret_code`. -/
def checkDdsRetCode : DdsReturnCode → RmwRet
  | .ok => .ok
  | .error => .error
  | .timeout => .timeout
  | .noData | .other => .error

/-- A sample of a topic: the message, and what comes with it. -/
structure TopicSample (α : Type) where
  message : α
  info : SampleInfoEx
  publicationHandle : Nat

/-- `dds_DataReader`: its samples, marked if they were read, and whether its listener is called when
data are available. -/
structure DataReader (α : Type) where
  samples : Marked (TopicSample α)
  notifies : Bool

/-- `SubscriberInfo`, as far as messages go. The bit of `mask` is `dds_DATA_AVAILABLE_STATUS`. -/
structure SubscriberInfo (α : Type) where
  topicReader : DataReader α
  mask : Bool
  callback : Option Callback
  userData : UserData

/-- A subscription that was just made. -/
def SubscriberInfo.create : SubscriberInfo α where
  topicReader := { samples := [], notifies := false }
  mask := false
  callback := none
  userData := 0

/-- The samples that were not read. -/
def SubscriberInfo.unread (info : SubscriberInfo α) : List (TopicSample α) :=
  info.topicReader.samples.unmarked

/-! ## Counting -/

/-- `dds_DataReader_raw_read` of all samples that were not read. -/
def rawRead (fails : Bool) (reader : DataReader α) :
    DdsReturnCode × List (TopicSample α) × DataReader α :=
  if fails then (.error, [], reader)
  else if reader.samples.unmarked.isEmpty then (.noData, [], reader)
  else (.ok, reader.samples.unmarked, { reader with samples := reader.samples.markAll })

/-- What `count_unread` returns, the message it sets, and the reader it leaves. -/
structure Counted (α : Type) where
  count : Nat
  errorMsg : Option String
  topicReader : DataReader α

/-- `dds_DataReader_raw_return_loan`, after which the count stands. -/
def returnLoan (fails : Bool) (count : Nat) (topicReader : DataReader α) : Counted α where
  count := count
  errorMsg := if fails then some "failed to read raw data from DDS reader" else none
  topicReader := topicReader

/-- `count_unread`. -/
def countUnread (readFails loanFails : Bool) (reader : DataReader α) : Counted α :=
  match rawRead readFails reader with
  | (.ok, samples, reader) => returnLoan loanFails samples.length reader
  | (.noData, _, reader) => returnLoan loanFails 0 reader
  | (_, _, reader) =>
    { count := 0, errorMsg := "failed to read raw data from DDS reader", topicReader := reader }

/-- `SubscriberInfo::on_data_available`: the subscription it leaves, and the calls it makes. -/
def SubscriberInfo.onDataAvailable (readFails loanFails : Bool) (info : SubscriberInfo α) :
    SubscriberInfo α × List Call :=
  match info.callback with
  | none => (info, [])
  | some callback =>
    let counted := countUnread readFails loanFails info.topicReader
    ({ info with topicReader := counted.topicReader },
      [{ callback, userData := info.userData, count := counted.count }])

/-- `dds_DataReader_set_listener`. -/
def SubscriberInfo.setListener (info : SubscriberInfo α) (rc : DdsReturnCode) :
    SubscriberInfo α × RmwRet :=
  (if rc = .ok then { info with topicReader.notifies := info.mask } else info, checkDdsRetCode rc)

/-- `rmw_subscription_set_on_new_message_callback`: the subscription it leaves, the calls it makes,
and how it ends. -/
def rmwSubscriptionSetOnNewMessageCallback (readFails loanFails : Bool) (rc : DdsReturnCode)
    (info : SubscriberInfo α) (userData : UserData) :
    Option Callback → SubscriberInfo α × List Call × RmwRet
  | some callback =>
    let counted := countUnread readFails loanFails info.topicReader
    let set := SubscriberInfo.setListener
      { topicReader := counted.topicReader, mask := true, callback := some callback, userData } rc
    (set.1, if 0 < counted.count then [{ callback, userData, count := counted.count }] else [],
      set.2)
  | none =>
    let set := SubscriberInfo.setListener
      { info with mask := false, callback := none, userData := 0 } rc
    (set.1, [], set.2)

/-! ## Taking -/

/-- `rmw_message_info_t`. -/
structure MessageInfo where
  sourceTimestamp : Int
  receivedTimestamp : Int
  publicationSequenceNumber : BitVec 64
  receptionSequenceNumber : BitVec 64
  publisherGid : Gid

/-- `RMW_MESSAGE_INFO_SEQUENCE_NUMBER_UNSUPPORTED`. -/
def sequenceNumberUnsupported : BitVec 64 := BitVec.allOnes 64

/-- The info of a sample. `guidOf` is `dds_DataReader_get_guid_from_publication_handle`; the gid
stays zero if it fails. -/
def TopicSample.messageInfo (guidOf : Nat → Option Gid) (sample : TopicSample α) : MessageInfo where
  sourceTimestamp := sample.info.sourceTimestamp.toNanoseconds
  receivedTimestamp := sample.info.receptionTimestamp.toNanoseconds
  publicationSequenceNumber := ddsSnToRosSn sample.info.seq
  receptionSequenceNumber := sequenceNumberUnsupported
  publisherGid := (guidOf sample.publicationHandle).getD (Vector.replicate 16 0)

/-- How a call that takes ends. What it does not fill in is nothing. -/
structure Took (α : Type) where
  ret : RmwRet
  errorMsg : Option String
  taken : Bool
  message : Option α
  messageInfo : Option MessageInfo

/-- Nothing is taken. -/
def Took.nothing (ret : RmwRet) (errorMsg : Option String) : Took α where
  ret := ret
  errorMsg := errorMsg
  taken := false
  message := none
  messageInfo := none

/-- `dds_DataReader_take_next_sample_w_info_ex`, where it does not fail. -/
def DataReader.takeNextSample (reader : DataReader α) : Option (TopicSample α) × DataReader α :=
  (reader.samples.pop.1, { reader with samples := reader.samples.pop.2 })

/-- `take`, once DDS has given a sample or has none. `wantsInfo` says whether `message_info` is not
null. A sample without valid data was not taken. -/
def tookSample (guidOf : Nat → Option Gid) (wantsInfo : Bool) : Option (TopicSample α) → Took α
  | none => .nothing .ok none
  | some sample =>
    if sample.info.validData then
      { ret := .ok
        errorMsg := none
        taken := true
        message := some sample.message
        messageInfo := if wantsInfo then some (sample.messageInfo guidOf) else none }
    else .nothing .ok none

/-- `take`. -/
def take (guidOf : Nat → Option Gid) (fails wantsInfo : Bool) (info : SubscriberInfo α) :
    SubscriberInfo α × Took α :=
  if fails then (info, .nothing .error "failed to take data")
  else
    ({ info with topicReader := info.topicReader.takeNextSample.2 },
      tookSample guidOf wantsInfo info.topicReader.takeNextSample.1)

/-- `rmw_take`. -/
def rmwTake (guidOf : Nat → Option Gid) (fails : Bool) (info : SubscriberInfo α) :
    SubscriberInfo α × Took α :=
  take guidOf fails false info

/-- `rmw_take_with_info`. -/
def rmwTakeWithInfo (guidOf : Nat → Option Gid) (fails : Bool) (info : SubscriberInfo α) :
    SubscriberInfo α × Took α :=
  take guidOf fails true info

end Subscription

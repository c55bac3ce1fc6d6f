import RmwGurumdds.Rmw.Gid

/-!
# Samples and requests

A request is known by the identifier of the client that sent it and by that client's sequence
number. DDS carries the two with a sample, in the fields of its extended information: the identifier
as a GUID, and the number with its two 32-bit words swapped. What goes in comes out again
(`requestId_describe`).
-/

namespace Rmw

open Wire

/-! ## Sequence numbers -/

/-- `ros_sn_to_dds_sn`. -/
def rosSnToDdsSn (snRos : BitVec 64) : BitVec 64 :=
  ((snRos &&& 0xFFFFFFFF00000000#64) >>> 32) ||| ((snRos &&& 0x00000000FFFFFFFF#64) <<< 32)

/-- `dds_sn_to_ros_sn`. -/
def ddsSnToRosSn (snDds : BitVec 64) : BitVec 64 :=
  ((snDds &&& 0x00000000FFFFFFFF#64) <<< 32) ||| ((snDds &&& 0xFFFFFFFF00000000#64) >>> 32)

theorem lowMask_getLsbD : ∀ i < 64, (0x00000000FFFFFFFF#64).getLsbD i = decide (i < 32) := by
  decide

theorem highMask_getLsbD : ∀ i < 64, (0xFFFFFFFF00000000#64).getLsbD i = decide (32 ≤ i) := by
  decide

/-- A bit of a word goes to the other word. -/
theorem rosSnToDdsSn_getLsbD (sn : BitVec 64) {i : Nat} (h : i < 64) :
    (rosSnToDdsSn sn).getLsbD i = if i < 32 then sn.getLsbD (i + 32) else sn.getLsbD (i - 32) := by
  rw [rosSnToDdsSn, BitVec.getLsbD_or, BitVec.getLsbD_ushiftRight, BitVec.getLsbD_shiftLeft,
    BitVec.getLsbD_and, BitVec.getLsbD_and]
  by_cases low : i < 32
  · rw [if_pos low, highMask_getLsbD _ (by omega), Nat.add_comm]
    simp [low]
  · rw [if_neg low, lowMask_getLsbD _ (by omega), BitVec.getLsbD_of_ge sn (32 + i) (by omega)]
    simp only [Bool.false_and, Bool.false_or, h, low, decide_true, decide_false, Bool.not_false,
      Bool.true_and]
    rw [decide_eq_true (by omega), Bool.and_true]

/-- The two conversions are one exchange of words. -/
theorem ddsSnToRosSn_eq (sn : BitVec 64) : ddsSnToRosSn sn = rosSnToDdsSn sn := BitVec.or_comm ..

/-- A sequence number survives the way through a DDS sample. -/
@[simp] theorem ddsSnToRosSn_rosSnToDdsSn (sn : BitVec 64) :
    ddsSnToRosSn (rosSnToDdsSn sn) = sn := by
  rw [ddsSnToRosSn_eq]
  apply BitVec.eq_of_getLsbD_eq
  intro i h
  rw [rosSnToDdsSn_getLsbD _ h]
  split
  · rw [rosSnToDdsSn_getLsbD _ (by omega), if_neg (by omega), Nat.add_sub_cancel]
  · rw [rosSnToDdsSn_getLsbD _ (by omega), if_pos (by omega), Nat.sub_add_cancel (by omega)]

/-! ## Samples -/

/-- `dds_Time_t`. -/
structure DdsTime where
  sec : Int
  nanosec : Nat
deriving DecidableEq, Repr

/-- The nanoseconds a timestamp of the interface counts. -/
def DdsTime.toNanoseconds (t : DdsTime) : Int := t.sec * 1000000000 + t.nanosec

/-- `dds_SampleInfoEx`, as far as the middleware reads and writes it. -/
structure SampleInfoEx where
  validData : Bool
  sourceTimestamp : DdsTime
  receptionTimestamp : DdsTime
  seq : BitVec 64
  srcGuid : Guid
deriving DecidableEq

/-- `dds_SampleInfoEx sampleinfo_ex{}`. -/
def SampleInfoEx.zero : SampleInfoEx where
  validData := false
  sourceTimestamp := { sec := 0, nanosec := 0 }
  receptionTimestamp := { sec := 0, nanosec := 0 }
  seq := 0
  srcGuid := { guidPrefix := Vector.replicate 12 0, entityId := Vector.replicate 4 0 }

/-- A sample as a writer is given it. -/
structure Sample where
  payload : List Byte
  info : SampleInfoEx
deriving DecidableEq

/-- What a reader answers when it is asked for one sample. -/
inductive RawTake where
  | noData
  | error
  | sample (data : Option (List Byte)) (info : SampleInfoEx)
deriving DecidableEq

/-! ## Requests -/

/-- `rmw_request_id_t`. -/
structure RequestId where
  writerGuid : Gid
  sequenceNumber : BitVec 64
deriving DecidableEq

/-- `rmw_service_info_t`. -/
structure RmwServiceInfo where
  sourceTimestamp : Int
  receivedTimestamp : Int
  requestId : RequestId
deriving DecidableEq

/-- The information of a sample that belongs to a request. -/
def RequestId.describe (id : RequestId) (sourceTimestamp : DdsTime) : SampleInfoEx :=
  { SampleInfoEx.zero with
    sourceTimestamp
    seq := rosSnToDdsSn id.sequenceNumber
    srcGuid := rosGuidToDdsGuid id.writerGuid }

/-- The request the information of a sample names. -/
def SampleInfoEx.requestId (info : SampleInfoEx) : RequestId where
  writerGuid := ddsGuidToRosGuid info.srcGuid
  sequenceNumber := ddsSnToRosSn info.seq

/-- **A sample names the request it was written for.** -/
@[simp] theorem requestId_describe (id : RequestId) (sourceTimestamp : DdsTime) :
    (id.describe sourceTimestamp).requestId = id := by
  simp [RequestId.describe, SampleInfoEx.requestId]

end Rmw

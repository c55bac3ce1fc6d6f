import RmwGurumdds.Wire.Bytes

/-!
# Global identifiers

A DDS endpoint has a `Guid`: twelve bytes that name its participant and four that name the entity in
it. The middleware interface sees the same sixteen bytes as a `Gid`, and copies them back and forth.
The copies lose nothing.
-/

namespace Rmw

open Wire

/-- `dds_GUID_t`. -/
structure Guid where
  guidPrefix : Vector Byte 12
  entityId : Vector Byte 4
deriving DecidableEq

/-- `rmw_gid_t`, and any other copy of the sixteen bytes. -/
abbrev Gid := Vector Byte 16

/-- `guid_to_gid`. -/
def guidToGid (guid : Guid) : Gid := guid.guidPrefix ++ guid.entityId

/-- `ros_guid_to_dds_guid`. -/
def rosGuidToDdsGuid (guidRos : Gid) : Guid where
  guidPrefix := guidRos.extract 0 12
  entityId := guidRos.extract 12 16

/-- `dds_guid_to_ros_guid`. -/
def ddsGuidToRosGuid (guidDds : Guid) : Gid := guidDds.guidPrefix ++ guidDds.entityId

/-- A client's identifier survives the way through a DDS sample. -/
@[simp] theorem ddsGuidToRosGuid_rosGuidToDdsGuid (gid : Gid) :
    ddsGuidToRosGuid (rosGuidToDdsGuid gid) = gid := by
  apply Vector.toArray_inj.mp
  show (gid.toArray.extract 0 12) ++ (gid.toArray.extract 12 16) = gid.toArray
  rw [Array.extract_append_extract]
  simp

/-- The first twelve bytes name the participant. -/
theorem guidToGid_take (guid : Guid) :
    (guidToGid guid).toList.take 12 = guid.guidPrefix.toList := by
  rw [guidToGid, Vector.toList_append, List.take_left' guid.guidPrefix.length_toList]

theorem guidToGid_inj {guid guid' : Guid} : guidToGid guid = guidToGid guid' ↔ guid = guid' := by
  constructor
  · intro same
    obtain ⟨front, back⟩ := guid
    obtain ⟨front', back'⟩ := guid'
    have lists := congrArg Vector.toList same
    rw [guidToGid, guidToGid, Vector.toList_append, Vector.toList_append] at lists
    obtain ⟨fronts, backs⟩ := List.append_inj lists (by simp)
    rw [Guid.mk.injEq]
    exact ⟨Vector.toList_inj.mp fronts, Vector.toList_inj.mp backs⟩
  · rintro rfl
    rfl

end Rmw

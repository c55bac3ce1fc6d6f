import RmwGurumdds.Names.TopicNames
import RmwGurumdds.Names.TypeNames
import RmwGurumdds.Text.Access

/-!
# Demangling names from the network

Names come from other participants and may be anything. The functions of `namespace_prefix.cpp` and
`demangle.cpp` are given here again with each access to a character or a part of a string as the
source makes it, so that an access that fails is seen. Where none fails, a type's name and those of
topics and services come out as was said of them before (`demangleIfRosType_ok` and its neighbours).

Two accesses can fail. The last character of a type name is read before anything is known about the
name, and an empty one has none. The character behind a prefix is read with a check, and a name that
is only the prefix has none.
-/

namespace Names.Checked

open Text

/-- `ros_prefixes`. -/
def rosPrefixes : List String :=
  [rosTopicPrefix, rosServiceRequesterPrefix, rosServiceResponsePrefix]

/-- `resolve_prefix`. -/
def resolvePrefix (name pre : String) : Except Fault String := do
  if rfindFrom (pre ++ "/").toList name.toList 0 = some 0 then
    let rest ← substrFrom name.toList pre.toList.length
    return String.ofList rest
  else return ""

/-- The loop over the prefixes: the first that a name begins with and that a slash follows. -/
def findPrefix (topicName : List Char) : List String → Except Fault (Option String)
  | [] => return none
  | pre :: prefixes => do
    if rfindFrom pre.toList topicName 0 = some 0 then
      let behind ← charAt topicName pre.toList.length
      if behind = '/' then return some pre else findPrefix topicName prefixes
    else findPrefix topicName prefixes

/-- `get_ros_prefix_if_exists`. -/
def getRosPrefixIfExists (topicName : String) : Except Fault String := do
  let found ← findPrefix topicName.toList rosPrefixes
  return found.getD ""

/-- `strip_ros_prefix_if_exists`. -/
def stripRosPrefixIfExists (topicName : String) : Except Fault String := do
  match ← findPrefix topicName.toList rosPrefixes with
  | some pre =>
    let rest ← substrFrom topicName.toList pre.toList.length
    return String.ofList rest
  | none => return topicName

/-- `demangle_if_ros_topic`. -/
def demangleIfRosTopic (topicName : String) : Except Fault String :=
  stripRosPrefixIfExists topicName

/-- `demangle_if_ros_type`. -/
def demangleIfRosType (ddsTypeString : String) : Except Fault String := do
  let s := ddsTypeString.toList
  let substringPosition := find "dds_::".toList s
  let last ← subscript '\x00' s (sizeSub s.length 1)
  match substringPosition with
  | some position =>
    if last = '_' then
      let typeNamespace ← substr s 0 position
      let start := position + "dds_::".toList.length
      let typeName ← substr s start (sizeSub (sizeSub s.length 1) start)
      return String.ofList (replaceColons typeNamespace ++ typeName)
    else return ddsTypeString
  | none => return ddsTypeString

/-- `demangle_ros_topic_from_topic`. -/
def demangleRosTopicFromTopic (topicName : String) : Except Fault String :=
  resolvePrefix topicName rosTopicPrefix

/-- `_demangle_service_from_topic`. -/
def demangleServiceFromTopicOf (pre topicName suffix : String) : Except Fault String := do
  let serviceName ← resolvePrefix topicName pre
  if serviceName = "" then return ""
  else
    match rfind suffix.toList serviceName.toList with
    | some position =>
      if sizeSub (sizeSub serviceName.toList.length position) suffix.toList.length ≠ 0 then
        return ""
      else
        let stem ← substr serviceName.toList 0 position
        return String.ofList stem
    | none => return ""

/-- `demangle_service_from_topic`. -/
def demangleServiceFromTopic (topicName : String) : Except Fault String := do
  let demangledTopic ← demangleServiceFromTopicOf rosServiceResponsePrefix topicName "Reply"
  if demangledTopic ≠ "" then return demangledTopic
  else demangleServiceFromTopicOf rosServiceRequesterPrefix topicName "Request"

/-- `demangle_service_type_only`. -/
def demangleServiceTypeOnly (ddsTypeName : String) : Except Fault String := do
  let s := ddsTypeName.toList
  match find "dds_::".toList s with
  | none => return ""
  | some nsPosition =>
    match suffixPosition s ["_Response_".toList, "_Request_".toList] none with
    | none => return ""
    | some position =>
      let typeNamespace ← substr s 0 nsPosition
      let start := nsPosition + "dds_::".toList.length
      let typeName ← substr s start (sizeSub position start)
      return String.ofList (replaceColons typeNamespace ++ typeName)

/-! ## Accesses that do not fail -/

section Accesses

variable {s pat : List Char} {position : Nat}

/-- An occurrence ends within the string. -/
theorem end_le_of_prefix (h : pat <+: s.drop position) (nonempty : pat ≠ []) :
    position + pat.length ≤ s.length := by
  have fits := h.length_le
  have pos := List.length_pos_iff.mpr nonempty
  rw [List.length_drop] at fits
  omega

theorem resolvePrefix_ok (name pre : String) :
    resolvePrefix name pre = .ok (Names.resolvePrefix name pre) := by
  unfold resolvePrefix Names.resolvePrefix
  split
  · rename_i begins
    have occurs : pre.toList ++ "/".toList <+: name.toList := by
      rwa [rfindFrom_zero_iff, String.toList_append] at begins
    have fits := occurs.length_le
    rw [List.length_append] at fits
    rw [substrFrom_ok (by omega)]
    rfl
  · rfl

theorem demangleRosTopicFromTopic_ok (name : String) :
    demangleRosTopicFromTopic name = .ok (Names.demangleRosTopicFromTopic name) :=
  resolvePrefix_ok name rosTopicPrefix

theorem demangleServiceFromTopicOf_ok (pre name : String) {suffix : String}
    (suffixed : suffix ≠ "") : demangleServiceFromTopicOf pre name suffix =
      .ok (Names.demangleServiceFromTopicOf pre name suffix) := by
  unfold demangleServiceFromTopicOf Names.demangleServiceFromTopicOf
  rw [resolvePrefix_ok]
  show (if _ then _ else _) = _
  split
  · rename_i unresolved
    simp only [unresolved, if_true]
    rfl
  · rename_i resolved
    simp only [resolved, if_false]
    cases found : rfind suffix.toList (Names.resolvePrefix name pre).toList with
    | none => rfl
    | some position =>
      have fits := end_le_of_prefix (prefix_of_rfind found) (toList_ne_nil suffixed)
      simp only
      have inner := @sizeSub_of_le (Names.resolvePrefix name pre).toList.length position (by omega)
      rw [inner, sizeSub_of_le (by omega)]
      split
      · rfl
      · rw [substr_ok (Nat.zero_le _)]
        rfl

theorem demangleServiceFromTopic_ok (name : String) :
    demangleServiceFromTopic name = .ok (Names.demangleServiceFromTopic name) := by
  unfold demangleServiceFromTopic Names.demangleServiceFromTopic demangleServiceReplyFromTopic
  rw [demangleServiceFromTopicOf_ok _ _ (by decide), demangleServiceFromTopicOf_ok _ _ (by decide)]
  exact (apply_ite Except.ok _ _ _).symm

/-- A name that ends in an underscore goes on behind the marker. -/
theorem marker_before_last (h : "dds_::".toList <+: s.drop position) (nonempty : s ≠ [])
    (last : s.getLast nonempty = '_') : position + "dds_::".toList.length < s.length := by
  have fits := end_le_of_prefix h (by decide)
  by_contra ends
  have whole := eq_take_append_of_prefix h (by omega)
  have colon : s.getLast? = some ':' := by
    rw [whole]
    simp
  rw [List.getLast?_eq_some_getLast nonempty, last] at colon
  exact absurd colon (by decide)

/-- A type name that is not empty has a last character, and every other access is within it. -/
theorem demangleIfRosType_ok {name : String} (nonempty : name ≠ "") :
    demangleIfRosType name = .ok (Names.demangleIfRosType name) := by
  have chars := toList_ne_nil nonempty
  unfold demangleIfRosType Names.demangleIfRosType
  simp only [subscript_last chars, List.getLast?_eq_some_getLast chars, Option.some.injEq]
  cases found : find "dds_::".toList name.toList with
  | none => rfl
  | some position =>
    have occurs := prefix_of_find found
    have fits := end_le_of_prefix occurs (by decide)
    show (if _ then _ else _) = _
    by_cases last : name.toList.getLast chars = '_'
    · have before := marker_before_last occurs chars last
      have inner := @sizeSub_of_le name.toList.length 1 (by omega)
      rw [if_pos last, inner, sizeSub_of_le (by omega), substr_ok (by omega), substr_ok fits]
      simp only [last, if_true]
      rfl
    · simp only [last, if_false]
      rfl

/-- Behind a prefix that is not the whole name there is a character. -/
theorem findPrefix_safe {topicName : String} {prefixes : List String} (h : topicName ∉ prefixes) :
    ∃ found, findPrefix topicName.toList prefixes = .ok found ∧
      ∀ pre ∈ found, pre.toList <+: topicName.toList := by
  induction prefixes with
  | nil => exact ⟨none, rfl, nofun⟩
  | cons pre prefixes ih =>
    obtain ⟨found, rest, begins⟩ := ih fun mem => h (.tail _ mem)
    unfold findPrefix
    split
    · rename_i starts
      have occurs := rfindFrom_zero_iff.mp starts
      have longer : pre.toList.length < topicName.toList.length := by
        refine lt_of_le_of_ne occurs.length_le fun same => h ?_
        rw [String.toList_inj.mp (occurs.eq_of_length same)]
        exact List.mem_cons_self
      rw [charAt_ok longer]
      by_cases slash : topicName.toList.get ⟨pre.toList.length, longer⟩ = '/'
      · refine ⟨some pre, if_pos slash, ?_⟩
        rintro _ ⟨⟩
        exact occurs
      · exact ⟨found, (if_neg slash).trans rest, begins⟩
    · exact ⟨found, rest, begins⟩

theorem getRosPrefixIfExists_safe {topicName : String} (h : topicName ∉ rosPrefixes) :
    Safe (getRosPrefixIfExists topicName) := by
  obtain ⟨found, run, -⟩ := findPrefix_safe h
  unfold getRosPrefixIfExists
  rw [run]
  exact ⟨_, rfl⟩

theorem stripRosPrefixIfExists_safe {topicName : String} (h : topicName ∉ rosPrefixes) :
    Safe (stripRosPrefixIfExists topicName) := by
  obtain ⟨found, run, begins⟩ := findPrefix_safe h
  unfold stripRosPrefixIfExists
  rw [run]
  cases found with
  | none => exact ⟨_, rfl⟩
  | some pre =>
    have occurs := begins pre rfl
    show Safe (substrFrom _ _ >>= _)
    rw [substrFrom_ok occurs.length_le]
    exact ⟨_, rfl⟩

theorem demangleServiceTypeOnly_safe (name : String) : Safe (demangleServiceTypeOnly name) := by
  unfold demangleServiceTypeOnly
  cases marked : find "dds_::".toList name.toList with
  | none => simp only [marked]; exact ⟨_, rfl⟩
  | some nsPosition =>
    have inside := end_le_of_prefix (prefix_of_find marked) (by decide)
    simp only [marked]
    cases suffixPosition name.toList ["_Response_".toList, "_Request_".toList] none with
    | none => exact ⟨_, rfl⟩
    | some position =>
      simp only
      rw [substr_ok (by omega), substr_ok inside]
      exact ⟨_, rfl⟩

end Accesses

/-! ## All of them -/

/-- The functions that take a name from the network. -/
def demanglers : List (String → Except Fault String) :=
  [demangleIfRosTopic, stripRosPrefixIfExists, getRosPrefixIfExists, demangleIfRosType,
    demangleRosTopicFromTopic, demangleServiceFromTopic, demangleServiceTypeOnly]

/-- **Demangling is safe on exactly the names that are neither empty nor only a prefix.** -/
theorem demanglers_safe_iff (name : String) :
    (∀ demangle ∈ demanglers, Safe (demangle name)) ↔ name ∉ ["", "rt", "rq", "rr"] := by
  constructor
  · intro safe mem
    have type := safe demangleIfRosType (by simp [demanglers])
    have topic := safe demangleIfRosTopic (by simp [demanglers])
    have bare : ∀ pre ∈ rosPrefixes, demangleIfRosTopic pre = .error .outOfRange := by decide
    rcases List.mem_cons.mp mem with rfl | mem
    · exact not_safe_error _ type
    · rw [bare name mem] at topic
      exact not_safe_error _ topic
  · intro h demangle mem
    have nonempty : name ≠ "" := fun empty => h (empty ▸ List.mem_cons_self)
    have longer : name ∉ rosPrefixes := fun mem => h (.tail _ mem)
    simp only [demanglers, List.mem_cons, List.not_mem_nil, or_false] at mem
    rcases mem with rfl | rfl | rfl | rfl | rfl | rfl | rfl
    · exact stripRosPrefixIfExists_safe longer
    · exact stripRosPrefixIfExists_safe longer
    · exact getRosPrefixIfExists_safe longer
    · exact ⟨_, demangleIfRosType_ok nonempty⟩
    · exact ⟨_, demangleRosTopicFromTopic_ok name⟩
    · exact ⟨_, demangleServiceFromTopic_ok name⟩
    · exact demangleServiceTypeOnly_safe name

/-- The empty type name is read outside, and a topic with the name of a prefix makes `at` throw. -/
theorem demanglers_unsafe : ¬ Safe (demangleIfRosType "") ∧ ¬ Safe (demangleIfRosTopic "rt") ∧
    ¬ ∀ name, ∀ demangle ∈ demanglers, Safe (demangle name) := by
  have outside : demangleIfRosType "" = .error .undefined := by decide
  have thrown : demangleIfRosTopic "rt" = .error .outOfRange := by decide
  refine ⟨?_, ?_, ?_⟩
  · rw [outside]
    exact not_safe_error _
  · rw [thrown]
    exact not_safe_error _
  · intro all
    have safe := all "rt" demangleIfRosTopic (by simp [demanglers])
    rw [thrown] at safe
    exact not_safe_error _ safe

end Names.Checked

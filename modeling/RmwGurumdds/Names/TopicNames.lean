import RmwGurumdds.Text.Search

/-!
# Topic names

A ROS name becomes the name of a DDS topic by a prefix, which tells topics, requests and replies of
services apart, and for a service by a suffix. `namespace_prefix.cpp` and `demangle.cpp` take such
names apart again, looking for the prefix where the name begins and for the last occurrence of the
suffix; what is not of the kind they are for becomes the empty string.

A string is the list of its characters. The warnings that are logged are left out.
-/

namespace Names

/-! ## Mangling -/

/-- `ros_topic_prefix`. -/
def rosTopicPrefix : String := "rt"

/-- `ros_service_requester_prefix`. -/
def rosServiceRequesterPrefix : String := "rq"

/-- `ros_service_response_prefix`. -/
def rosServiceResponsePrefix : String := "rr"

/-- `create_topic_name`. -/
def createTopicName (pre topicName suffix : String) (avoidRosNamespaceConventions : Bool) :
    String :=
  if avoidRosNamespaceConventions then topicName ++ suffix else pre ++ topicName ++ suffix

/-! ## Demangling -/

/-- `resolve_prefix`. -/
def resolvePrefix (name pre : String) : String :=
  if Text.rfindFrom (pre ++ "/").toList name.toList 0 = some 0 then
    String.ofList (name.toList.drop pre.toList.length)
  else ""

/-- `demangle_ros_topic_from_topic`. -/
def demangleRosTopicFromTopic (topicName : String) : String :=
  resolvePrefix topicName rosTopicPrefix

/-- `_demangle_service_from_topic`. -/
def demangleServiceFromTopicOf (pre topicName suffix : String) : String :=
  let serviceName := resolvePrefix topicName pre
  if serviceName = "" then ""
  else
    match Text.rfind suffix.toList serviceName.toList with
    | some suffixPosition =>
      if serviceName.toList.length - suffixPosition - suffix.toList.length ≠ 0 then ""
      else String.ofList (serviceName.toList.take suffixPosition)
    | none => ""

/-- `demangle_service_request_from_topic`. -/
def demangleServiceRequestFromTopic (topicName : String) : String :=
  demangleServiceFromTopicOf rosServiceRequesterPrefix topicName "Request"

/-- `demangle_service_reply_from_topic`. -/
def demangleServiceReplyFromTopic (topicName : String) : String :=
  demangleServiceFromTopicOf rosServiceResponsePrefix topicName "Reply"

/-- `demangle_service_from_topic`. -/
def demangleServiceFromTopic (topicName : String) : String :=
  let demangledTopic := demangleServiceReplyFromTopic topicName
  if demangledTopic ≠ "" then demangledTopic else demangleServiceRequestFromTopic topicName

/-! ## What demangling accepts -/

/-- A name that starts with a slash. -/
def Absolute (name : String) : Prop := name.toList.head? = some '/'

instance (name : String) : Decidable (Absolute name) :=
  inferInstanceAs (Decidable (name.toList.head? = some '/'))

section Demangling

variable {t n m pre suffix : String}

theorem absolute_iff : Absolute n ↔ ∃ rest, n.toList = '/' :: rest := by
  unfold Absolute
  cases n.toList with
  | nil => simp
  | cons c rest => simp

theorem Absolute.ne_empty (h : Absolute n) : n ≠ "" := by
  rintro rfl
  exact absurd h (by decide)

theorem Absolute.append (h : Absolute n) : Absolute (n ++ m) := by
  obtain ⟨rest, slash⟩ := absolute_iff.mp h
  refine absolute_iff.mpr ⟨rest ++ m.toList, ?_⟩
  rw [String.toList_append, slash, List.cons_append]

theorem Absolute.of_append (h : Absolute (n ++ m)) (nonempty : n ≠ "") : Absolute n := by
  unfold Absolute at h ⊢
  rw [String.toList_append] at h
  cases chars : n.toList with
  | nil => exact absurd (String.toList_inj.mp chars) nonempty
  | cons c rest =>
    rw [chars] at h
    exact h

theorem toList_ne_nil (h : n ≠ "") : n.toList ≠ [] := fun chars => h (String.toList_inj.mp chars)

/-- What has the prefix and starts with a slash behind it is resolved, and nothing else. -/
theorem resolvePrefix_iff (nonempty : n ≠ "") :
    resolvePrefix t pre = n ↔ Absolute n ∧ t = pre ++ n := by
  have prefixed : Text.rfindFrom (pre ++ "/").toList t.toList 0 = some 0 ↔
      pre.toList ++ "/".toList <+: t.toList := by
    rw [Text.rfindFrom_zero_iff, String.toList_append]
  unfold resolvePrefix
  constructor
  · intro resolved
    split at resolved
    · rename_i begins
      obtain ⟨rest, split⟩ := prefixed.mp begins
      rw [← split, List.append_assoc, List.drop_left] at resolved
      obtain rfl := resolved
      refine ⟨absolute_iff.mpr ⟨rest, by simp⟩, String.toList_inj.mp ?_⟩
      rw [String.toList_append, String.toList_ofList, ← split, List.append_assoc]
    · exact absurd resolved.symm nonempty
  · rintro ⟨absolute, rfl⟩
    obtain ⟨rest, slash⟩ := absolute_iff.mp absolute
    have begins : pre.toList ++ "/".toList <+: (pre ++ n).toList := by
      refine ⟨rest, ?_⟩
      rw [String.toList_append, slash]
      simp
    rw [if_pos (prefixed.mpr begins), String.toList_append, List.drop_left, String.ofList_toList]

/-- What has the prefix and the suffix and starts with a slash between them is demangled, and
nothing else. -/
theorem demangleServiceFromTopicOf_iff (suffixed : suffix ≠ "") (nonempty : n ≠ "") :
    demangleServiceFromTopicOf pre t suffix = n ↔ Absolute n ∧ t = pre ++ n ++ suffix := by
  unfold demangleServiceFromTopicOf
  constructor
  · intro demangled
    by_cases unresolved : resolvePrefix t pre = ""
    · simp only [unresolved, if_true] at demangled
      exact absurd demangled.symm nonempty
    · obtain ⟨absolute, whole⟩ := (resolvePrefix_iff unresolved).mp rfl
      simp only [unresolved, if_false] at demangled
      cases found : Text.rfind suffix.toList (resolvePrefix t pre).toList with
      | none =>
        simp only [found] at demangled
        exact absurd demangled.symm nonempty
      | some position =>
        simp only [found] at demangled
        split at demangled
        · exact absurd demangled.symm nonempty
        · rename_i last
          have split : resolvePrefix t pre = n ++ suffix := by
            rw [← demangled]
            refine String.toList_inj.mp ?_
            rw [String.toList_append, String.toList_ofList]
            exact Text.eq_take_append_of_prefix (Text.prefix_of_rfind found) (not_not.mp last)
          rw [split] at absolute whole
          exact ⟨absolute.of_append nonempty, whole.trans (String.append_assoc ..).symm⟩
  · rintro ⟨absolute, whole⟩
    have resolved : resolvePrefix t pre = n ++ suffix :=
      (resolvePrefix_iff absolute.append.ne_empty).mpr
        ⟨absolute.append, whole.trans (String.append_assoc ..)⟩
    have found : Text.rfind suffix.toList (n ++ suffix).toList = some n.toList.length := by
      rw [String.toList_append]
      exact Text.rfind_append (toList_ne_nil suffixed)
    have last : (n ++ suffix).toList.length - n.toList.length - suffix.toList.length = 0 := by
      rw [String.toList_append, List.length_append]
      omega
    simp only [resolved, absolute.append.ne_empty, if_false, found, last, ne_eq, not_true_eq_false]
    rw [String.toList_append, List.take_left, String.ofList_toList]

end Demangling

/-! ## The kinds of topics -/

/-- What a topic is for. -/
inductive TopicKind where
  | topic
  | request
  | reply
deriving DecidableEq, Repr

/-- The topic that a name becomes under ROS conventions. -/
def TopicKind.mangle : TopicKind → String → String
  | .topic, name => createTopicName rosTopicPrefix name "" false
  | .request, name => createTopicName rosServiceRequesterPrefix name "Request" false
  | .reply, name => createTopicName rosServiceResponsePrefix name "Reply" false

/-- The function that demangles topics of a kind. -/
def TopicKind.demangle : TopicKind → String → String
  | .topic => demangleRosTopicFromTopic
  | .request => demangleServiceRequestFromTopic
  | .reply => demangleServiceReplyFromTopic

/-- The prefix of a kind. -/
def TopicKind.pre : TopicKind → String
  | .topic => rosTopicPrefix
  | .request => rosServiceRequesterPrefix
  | .reply => rosServiceResponsePrefix

/-- The suffix of a kind. -/
def TopicKind.suffix : TopicKind → String
  | .topic => ""
  | .request => "Request"
  | .reply => "Reply"

section Kinds

variable {kind other : TopicKind} {t n m : String}

theorem mangle_eq : kind.mangle n = kind.pre ++ n ++ kind.suffix := by
  cases kind <;> rfl

/-- No topic is of two kinds. -/
theorem mangle_ne (h : kind ≠ other) : kind.mangle n ≠ other.mangle m := by
  intro same
  have chars := congrArg (fun s : String => s.toList.take 2) same
  simp only [mangle_eq, String.toList_append, List.append_assoc] at chars
  revert chars
  cases kind <;> cases other <;>
    simp [TopicKind.pre, rosTopicPrefix, rosServiceRequesterPrefix, rosServiceResponsePrefix] at h ⊢

/-- **A kind's function demangles the topics of the kind, and nothing else.** -/
theorem demangle_iff (nonempty : n ≠ "") :
    kind.demangle t = n ↔ Absolute n ∧ t = kind.mangle n := by
  rw [mangle_eq]
  cases kind with
  | topic =>
    rw [show TopicKind.topic.pre ++ n ++ TopicKind.topic.suffix = rosTopicPrefix ++ n from
      String.append_empty]
    exact resolvePrefix_iff nonempty
  | request => exact demangleServiceFromTopicOf_iff (by decide) nonempty
  | reply => exact demangleServiceFromTopicOf_iff (by decide) nonempty

theorem demangle_mangle (h : Absolute n) : kind.demangle (kind.mangle n) = n :=
  (demangle_iff h.ne_empty).mpr ⟨h, rfl⟩

theorem demangle_other (h : kind ≠ other) : kind.demangle (other.mangle n) = "" := by
  by_contra nonempty
  exact mangle_ne h ((demangle_iff nonempty).mp rfl).2.symm

/-- Requests and replies of services are both demangled. -/
theorem demangleServiceFromTopic_iff (nonempty : n ≠ "") :
    demangleServiceFromTopic t = n ↔
      Absolute n ∧ (t = TopicKind.request.mangle n ∨ t = TopicKind.reply.mangle n) := by
  have request := @demangle_iff .request t n nonempty
  have reply := @demangle_iff .reply t n nonempty
  unfold demangleServiceFromTopic
  by_cases replied : demangleServiceReplyFromTopic t = ""
  · rw [if_neg (not_not_intro replied)]
    refine request.trans (and_congr_right fun absolute => (or_iff_left fun same => ?_).symm)
    exact absolute.ne_empty ((reply.mpr ⟨absolute, same⟩).symm.trans replied)
  · rw [if_pos replied]
    have whole : t = TopicKind.reply.mangle _ := ((demangle_iff replied).mp rfl).2
    refine reply.trans (and_congr_right fun _ => (or_iff_right fun same => ?_).symm)
    exact mangle_ne (by decide) (same.symm.trans whole)

end Kinds

/-- **Demangling is exactly the inverse of mangling**, for each kind of topic and for services. -/
theorem demangle_inverse :
    (∀ kind : TopicKind, ∀ n, Absolute n → kind.demangle (kind.mangle n) = n) ∧
    (∀ n, Absolute n → demangleServiceFromTopic (TopicKind.request.mangle n) = n ∧
      demangleServiceFromTopic (TopicKind.reply.mangle n) = n) ∧
    (∀ kind other : TopicKind, kind ≠ other → ∀ n, Absolute n →
      kind.demangle (other.mangle n) = "") ∧
    (∀ n, Absolute n → demangleServiceFromTopic (TopicKind.topic.mangle n) = "") ∧
    (∀ kind : TopicKind, ∀ t n, n ≠ "" → kind.demangle t = n →
      Absolute n ∧ t = kind.mangle n) ∧
    ∀ t n, n ≠ "" → demangleServiceFromTopic t = n →
      Absolute n ∧ (t = TopicKind.request.mangle n ∨ t = TopicKind.reply.mangle n) := by
  refine ⟨fun kind n absolute => demangle_mangle absolute, fun n absolute => ⟨?_, ?_⟩,
    fun kind other differ n _ => demangle_other differ, fun n _ => ?_,
    fun kind t n nonempty => (demangle_iff nonempty).mp,
    fun t n nonempty => (demangleServiceFromTopic_iff nonempty).mp⟩
  · exact (demangleServiceFromTopic_iff absolute.ne_empty).mpr ⟨absolute, .inl rfl⟩
  · exact (demangleServiceFromTopic_iff absolute.ne_empty).mpr ⟨absolute, .inr rfl⟩
  · by_contra nonempty
    rcases ((demangleServiceFromTopic_iff nonempty).mp rfl).2 with same | same
    · exact mangle_ne (by decide) same
    · exact mangle_ne (by decide) same

/-- A service whose name has both suffixes. -/
theorem demangle_inverse_replyRequest :
    TopicKind.request.demangle "rq/ReplyRequestRequest" = "/ReplyRequest" ∧
      demangleServiceFromTopic "rq/ReplyRequestRequest" = "/ReplyRequest" ∧
      TopicKind.reply.demangle "rq/ReplyRequestRequest" = "" :=
  ⟨demangle_inverse.1 .request "/ReplyRequest" (by decide),
    (demangle_inverse.2.1 "/ReplyRequest" (by decide)).1,
    demangle_inverse.2.2.1 .reply .request (by decide) "/ReplyRequest" (by decide)⟩

end Names

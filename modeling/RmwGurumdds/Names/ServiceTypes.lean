import RmwGurumdds.Names.TypeNames

/-!
# Which names are those of service types

A peer announces a type by name, and the name is listed as a service type where
`demangle_service_type_only` makes something of it. The names it is for have a grammar: a namespace,
the first `dds_::`, a name, and one of the two suffixes. Everything else should become the empty
string.

The loop over the suffixes keeps where it found the last one, at the end or not, and this is all
that is judged behind it. A name with `_Request_` inside is taken for that of a service type, and
cut off there.
-/

namespace Names

/-- A name of the grammar. -/
structure ServiceTypeName (s ns name : String) : Prop where
  whole : s = ns ++ "dds_::" ++ name ++ "_Request_" ∨ s = ns ++ "dds_::" ++ name ++ "_Response_"
  first : ∀ before behind, s = before ++ "dds_::" ++ behind → ns.length ≤ before.length

/-- A namespace with slashes in place of double colons. -/
def slashed (ns : String) : String := String.ofList (replaceColons ns.toList)

/-- A name of the grammar is taken to its namespace and name, any other to the empty string. -/
def JudgedRightly (s : String) : Prop :=
  (∀ ns name, ServiceTypeName s ns name → demangleServiceTypeOnly s = slashed ns ++ name) ∧
    ((∀ ns name, ¬ ServiceTypeName s ns name) → demangleServiceTypeOnly s = "")

/-- There is no `dds_::`, or one of the suffixes at the end, or no `_Request_` at all; or what is
left before the last `_Request_` is only `dds_::`. -/
def NoInnerRequest (s : String) : Prop :=
  ¬ "dds_::".toList <:+: s.toList ∨ "_Request_".toList <:+ s.toList ∨
    "_Response_".toList <:+ s.toList ∨ ¬ "_Request_".toList <:+: s.toList ∨
    ∃ rest, s = "dds_::_Request_" ++ rest ∧
      ¬ "_Request_".toList <:+: "Request_".toList ++ rest.toList

section Suffixes

variable {s ns name rest stem suffix : List Char}

/-- A suffix at the end lies behind the `dds_::`, since it has no colon. -/
theorem exists_name_of_suffix (h : ns ++ "dds_::".toList ++ rest = stem ++ suffix)
    (free : ':' ∉ suffix) :
    ∃ name, rest = name ++ suffix ∧ stem = ns ++ "dds_::".toList ++ name := by
  rcases List.append_eq_append_iff.mp h with ⟨name, stem_eq, rest_eq⟩ | ⟨beyond, marker, suffix_eq⟩
  · exact ⟨name, rest_eq, stem_eq⟩
  · rcases List.eq_nil_or_concat beyond with rfl | ⟨beyond, last, rfl⟩
    · rw [List.append_nil] at marker
      exact ⟨[], suffix_eq.symm, by rw [marker, List.append_nil]⟩
    · -- The marker ends in a colon, which would be in the suffix.
      have colon : last = ':' := by
        have ends := congrArg List.getLast? marker
        simp at ends
        exact ends.symm
      refine absurd ?_ free
      rw [suffix_eq, colon]
      simp

/-- The loop, where the first suffix does not end the name. -/
theorem suffixPosition_of_not_response (h : ¬ "_Response_".toList <:+ s) :
    suffixPosition s ["_Response_".toList, "_Request_".toList] none =
      Text.rfind "_Request_".toList s := by
  have last (position : Option Nat) : suffixPosition s ["_Request_".toList] position =
      Text.rfind "_Request_".toList s := by
    cases found : Text.rfind "_Request_".toList s with
    | none => simp only [suffixPosition, found]
    | some here => simp only [suffixPosition, found, ite_self]
  obtain ⟨position, next⟩ := @suffixPosition_of_not s "_Response_".toList
    ["_Request_".toList] none fun stem same => h ⟨stem, same.symm⟩
  exact next.trans (last position)

/-! ## Names of the grammar -/

/-- The first `dds_::` of a string is where a search finds it. -/
theorem first_iff {s ns rest : String} (whole : s = ns ++ "dds_::" ++ rest) :
    (∀ before behind, s = before ++ "dds_::" ++ behind → ns.length ≤ before.length) ↔
      Text.find "dds_::".toList s.toList = some ns.toList.length := by
  have chars : s.toList = ns.toList ++ ("dds_::".toList ++ rest.toList) := by
    rw [whole, String.toList_append, String.toList_append, List.append_assoc]
  rw [Text.find_eq_some_iff]
  constructor
  · intro first
    refine ⟨?_, by simp [chars], ?_⟩
    · rw [chars, List.drop_left]
      exact List.prefix_append _ _
    · rintro i lt ⟨behind, occurs⟩
      have split : s = String.ofList (s.toList.take i) ++ "dds_::" ++ String.ofList behind := by
        refine String.toList_inj.mp ?_
        simp only [String.toList_append, String.toList_ofList, List.append_assoc]
        rw [occurs, List.take_append_drop]
      have le := first _ _ split
      simp only [← String.length_toList, String.toList_ofList, List.length_take] at le
      omega
  · rintro ⟨-, -, first⟩ before behind split
    by_contra later
    refine first before.toList.length ?_ ?_
    · simpa only [String.length_toList, Nat.not_le] using later
    · rw [split, String.toList_append, String.toList_append, List.append_assoc, List.drop_left]
      exact List.prefix_append _ _

theorem suffix_cases {s ns name : String} (h : ServiceTypeName s ns name) :
    ∃ suffix, (suffix = "_Request_" ∨ suffix = "_Response_") ∧
      s = ns ++ "dds_::" ++ (name ++ suffix) := by
  rcases h.whole with whole | whole
  · exact ⟨"_Request_", .inl rfl, by rw [whole, String.append_assoc]⟩
  · exact ⟨"_Response_", .inr rfl, by rw [whole, String.append_assoc]⟩

/-- The loop finds a suffix that ends the name. -/
theorem suffixPosition_of_suffix {suffix : String}
    (known : suffix = "_Request_" ∨ suffix = "_Response_") (stem : List Char) :
    suffixPosition (stem ++ suffix.toList) ["_Response_".toList, "_Request_".toList] none =
      some stem.length := by
  rcases known with rfl | rfl
  · rw [suffixPosition_of_not_response fun ⟨_, same⟩ => request_ne_response same.symm]
    exact Text.rfind_append (by decide)
  · exact suffixPosition_append (by decide)

/-- **A name of the grammar is taken to its namespace and name.** -/
theorem demangle_of_grammar {s ns name : String} (h : ServiceTypeName s ns name) :
    demangleServiceTypeOnly s = slashed ns ++ name := by
  obtain ⟨suffix, known, whole⟩ := suffix_cases h
  have marked := (first_iff whole).mp h.first
  have chars : s.toList = ns.toList ++ "dds_::".toList ++ name.toList ++ suffix.toList := by
    rw [whole]
    simp only [String.toList_append, List.append_assoc]
  have found := suffixPosition_of_suffix known (ns.toList ++ "dds_::".toList ++ name.toList)
  rw [← chars] at found
  rw [demangleServiceTypeOnly_eq marked found]
  have place : (ns.toList ++ "dds_::".toList ++ name.toList).length =
      ns.toList.length + 6 + name.toList.length := by
    simp only [List.length_append]
    rfl
  have rest : s.toList.drop (ns.toList.length + 6) = name.toList ++ suffix.toList := by
    rw [chars, ← List.drop_drop]
    simp only [List.append_assoc, List.drop_left]
    rfl
  have start : s.toList.take ns.toList.length = ns.toList := by
    rw [chars]
    simp only [List.append_assoc, List.take_left]
  rw [place, if_neg (by omega), rest, start, Nat.add_sub_cancel_left, List.take_left]
  refine String.toList_inj.mp ?_
  simp [slashed]

/-- What has the marker and ends in a suffix is of the grammar. -/
theorem grammar_of_suffix {s suffix : String} {position : Nat}
    (known : suffix = "_Request_" ∨ suffix = "_Response_")
    (marked : Text.find "dds_::".toList s.toList = some position)
    (ends : suffix.toList <:+ s.toList) : ∃ ns name, ServiceTypeName s ns name := by
  obtain ⟨stem, whole⟩ := ends
  obtain ⟨occurs, le, -⟩ := Text.find_eq_some_iff.mp marked
  obtain ⟨rest, marker⟩ := occurs
  have split : s.toList.take position ++ "dds_::".toList ++ rest = stem ++ suffix.toList := by
    rw [List.append_assoc, marker, List.take_append_drop, whole]
  have free : ':' ∉ suffix.toList := by
    rcases known with rfl | rfl
    · decide
    · decide
  obtain ⟨name, -, rfl⟩ := exists_name_of_suffix split free
  have spelled : s = String.ofList (s.toList.take position) ++ "dds_::" ++
      (String.ofList name ++ suffix) := by
    refine String.toList_inj.mp (whole.symm.trans ?_)
    simp only [String.toList_append, String.toList_ofList, List.append_assoc]
  refine ⟨String.ofList (s.toList.take position), String.ofList name, ?_, ?_⟩
  · rw [← String.append_assoc] at spelled
    rcases known with rfl | rfl
    · exact .inl spelled
    · exact .inr spelled
  · rw [first_iff spelled, marked, String.toList_ofList, List.length_take, min_eq_left le]

/-- Whatever is of the grammar ends in a suffix. -/
theorem suffix_of_grammar {s ns name : String} (h : ServiceTypeName s ns name) :
    "_Request_".toList <:+ s.toList ∨ "_Response_".toList <:+ s.toList := by
  rcases h.whole with whole | whole
  · left
    rw [whole, String.toList_append]
    exact List.suffix_append _ _
  · right
    rw [whole, String.toList_append]
    exact List.suffix_append _ _

/-! ## Other names -/

theorem replaceColons_eq_nil {s : List Char} : replaceColons s = [] ↔ s = [] := by
  constructor
  · intro empty
    cases s with
    | nil => rfl
    | cons c s =>
      unfold replaceColons Text.replaceAll at empty
      rw [Text.replaceFrom] at empty
      split at empty
      · exact absurd empty (by simp)
      · exact absurd empty (by simp)
  · rintro rfl
    rfl

theorem drop_marker : ("dds_::".toList ++ rest).drop 6 = rest := rfl

/-- A `_Request_` does not begin inside a `dds_::`. -/
theorem request_behind_marker {place : Nat}
    (h : "_Request_".toList <+: ("dds_::".toList ++ rest).drop place) : 6 ≤ place := by
  by_contra inside
  rcases place with _ | _ | _ | _ | _ | _ | place
  case succ => omega
  all_goals simp at h

/-- What is left of a name with `_Request_` inside is nothing only where the name starts with
`dds_::_Request_`. -/
theorem demangle_inner_eq_empty_iff {s : String} {position place : Nat}
    (marked : Text.find "dds_::".toList s.toList = some position)
    (unanswered : ¬ "_Response_".toList <:+ s.toList)
    (found : Text.rfind "_Request_".toList s.toList = some place) :
    demangleServiceTypeOnly s = "" ↔ position = 0 ∧ place = 6 := by
  have searched := (suffixPosition_of_not_response unanswered).trans found
  obtain ⟨⟨rest, marker⟩, -, -⟩ := Text.find_eq_some_iff.mp marked
  have requested := Text.prefix_of_rfind found
  rw [demangleServiceTypeOnly_eq marked searched, ← String.toList_inj, String.toList_ofList]
  constructor
  · intro empty
    obtain ⟨before, between⟩ := List.append_eq_nil_iff.mp empty
    have start : position = 0 := by
      rcases List.take_eq_nil_iff.mp (replaceColons_eq_nil.mp before) with zero | nothing
      · exact zero
      · rw [nothing, List.drop_nil] at marker
        exact absurd marker (by simp)
    subst start
    rw [List.drop_zero] at marker
    rw [← marker] at requested between
    have behind := request_behind_marker requested
    rw [if_neg (by omega), Nat.zero_add, drop_marker] at between
    rcases List.take_eq_nil_iff.mp between with none_between | nothing
    · exact ⟨rfl, by omega⟩
    · have short := requested.length_le
      rw [nothing, List.length_drop] at short
      simp at short
      omega
  · rintro ⟨rfl, rfl⟩
    rw [if_neg (by omega), List.take_zero]
    rfl

/-- Such a name, and none behind it. -/
theorem position_zero_iff {s : String} {position place : Nat}
    (marked : Text.find "dds_::".toList s.toList = some position)
    (found : Text.rfind "_Request_".toList s.toList = some place) :
    position = 0 ∧ place = 6 ↔ ∃ rest, s = "dds_::_Request_" ++ rest ∧
      ¬ "_Request_".toList <:+: "Request_".toList ++ rest.toList := by
  have request_ne : "_Request_".toList ≠ [] := by decide
  constructor
  · rintro ⟨rfl, rfl⟩
    obtain ⟨behind, marker⟩ := Text.prefix_of_find marked
    obtain ⟨occurs, last⟩ := (Text.rfind_eq_some_iff request_ne).mp found
    rw [List.drop_zero] at marker
    rw [← marker] at occurs last
    obtain ⟨rest, request⟩ := occurs
    have behind_eq : "_Request_".toList ++ rest = behind := request.trans drop_marker
    refine ⟨String.ofList rest, ?_, ?_⟩
    · refine String.toList_inj.mp ?_
      rw [← marker, ← behind_eq]
      simp
    · rw [String.toList_ofList (l := rest)]
      rw [← behind_eq] at last
      exact last
  · rintro ⟨rest, rfl, only⟩
    have chars : ("dds_::_Request_" ++ rest).toList =
        "dds_::".toList ++ ("_Request_".toList ++ rest.toList) := by
      rw [String.toList_append]
      rfl
    rw [chars] at marked found
    have first := Text.find_eq_zero (List.prefix_append "dds_::".toList
      ("_Request_".toList ++ rest.toList))
    have last : Text.rfind "_Request_".toList
        ("dds_::".toList ++ ("_Request_".toList ++ rest.toList)) = some 6 :=
      (Text.rfind_eq_some_iff request_ne).mpr ⟨List.prefix_append _ rest.toList, only⟩
    exact ⟨Option.some.inj (marked.symm.trans first), Option.some.inj (found.symm.trans last)⟩

end Suffixes

/-- **Exactly the names of the grammar are demangled, but for those with `_Request_` inside.** -/
theorem demangleServiceTypeOnly_judgedRightly_iff (s : String) :
    JudgedRightly s ↔ NoInnerRequest s := by
  cases marked : Text.find "dds_::".toList s.toList with
  | none =>
    have unmarked := Text.find_eq_none_iff.mp marked
    refine iff_of_true ⟨fun ns name h => demangle_of_grammar h, fun _ => ?_⟩ (.inl unmarked)
    simp only [demangleServiceTypeOnly, marked]
  | some position =>
    have here : "dds_::".toList <:+: s.toList := by
      by_contra unmarked
      cases marked.symm.trans (Text.find_eq_none_iff.mpr unmarked)
    by_cases request : "_Request_".toList <:+ s.toList
    · refine iff_of_true ⟨fun ns name h => demangle_of_grammar h, fun nowhere => ?_⟩
        (.inr (.inl request))
      obtain ⟨ns, name, h⟩ := grammar_of_suffix (.inl rfl) marked request
      exact absurd h (nowhere ns name)
    by_cases response : "_Response_".toList <:+ s.toList
    · refine iff_of_true ⟨fun ns name h => demangle_of_grammar h, fun nowhere => ?_⟩
        (.inr (.inr (.inl response)))
      obtain ⟨ns, name, h⟩ := grammar_of_suffix (.inr rfl) marked response
      exact absurd h (nowhere ns name)
    have ungrammatical (ns name : String) : ¬ ServiceTypeName s ns name := fun h =>
      (suffix_of_grammar h).elim request response
    have rightly : JudgedRightly s ↔ demangleServiceTypeOnly s = "" :=
      ⟨fun h => h.2 ungrammatical, fun empty =>
        ⟨fun ns name h => absurd h (ungrammatical ns name), fun _ => empty⟩⟩
    rw [rightly]
    cases found : Text.rfind "_Request_".toList s.toList with
    | none =>
      refine iff_of_true ?_ (.inr (.inr (.inr (.inl (Text.rfind_eq_none_iff.mp found)))))
      have searched := (suffixPosition_of_not_response response).trans found
      simp only [demangleServiceTypeOnly, marked, searched]
    | some place =>
      have inner : "_Request_".toList <:+: s.toList := by
        by_contra outside
        cases found.symm.trans (Text.rfind_eq_none_iff.mpr outside)
      rw [demangle_inner_eq_empty_iff marked response found, position_zero_iff marked found]
      unfold NoInnerRequest
      simp only [here, request, response, inner, not_true_eq_false, false_or]

/-- A name with `_Request_` inside is listed as that of a service type. -/
theorem demangleServiceTypeOnly_innerRequest :
    ¬ JudgedRightly "p::srv::dds_::T_Request_Extra" := by
  rintro ⟨-, others⟩
  have ungrammatical (ns name : String) :
      ¬ ServiceTypeName "p::srv::dds_::T_Request_Extra" ns name := fun h => by
    have ends := suffix_of_grammar h
    revert ends
    decide
  have listed : demangleServiceTypeOnly "p::srv::dds_::T_Request_Extra" = "p/srv/T" := by decide
  exact absurd (listed.symm.trans (others ungrammatical)) (by decide)

end Names

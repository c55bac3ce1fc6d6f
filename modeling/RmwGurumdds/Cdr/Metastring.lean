import RmwGurumdds.Cdr.Introspection
import RmwGurumdds.Names.TypeNames
import RmwGurumdds.Text.Splits

/-!
# Metastrings

The text that tells DDS what a type looks like. A structure has a head with its name, its type and
the number of its members, and then the members without anything that closes them; an array has a
prefix with its name and its size, and its elements have none.

Where a type is not known, at any depth, `parse_struct` ends with an empty
string, and all the way up each level does (`parseStruct_ne_empty_iff`); `create_metastring` puts
two characters in front of it, and what it returns is not empty (`metastring_rejects_iff`).
-/

namespace Cdr

open Names

/-! ## The text -/

/-- The letter of a type. -/
def TypeId.letter : TypeId → Option Char
  | .float => some 'f'
  | .double => some 'd'
  | .char | .octet | .uint8 | .int8 => some 'B'
  | .wchar => some 'w'
  | .boolean => some 'z'
  | .uint16 => some 'S'
  | .int16 => some 's'
  | .uint32 => some 'I'
  | .int32 => some 'i'
  | .uint64 => some 'L'
  | .int64 => some 'l'
  | .string => some '\''
  | .wstring => some 'W'
  | .message | .longDouble | .other _ => none

def MessageMember.name : MessageMember → String
  | .mk name _ _ _ _ _ => name

/-- The name an element is written with. -/
def MessageMember.label (member : MessageMember) : Option String :=
  if member.isArray then none else some member.name

/-- What is written in front of the elements of an array. -/
def MessageMember.arrayPrefix (member : MessageMember) : String :=
  if member.isArray then
    if 0 < member.arraySize then
      if !member.isUpperBound then
        "[(name=" ++ member.name ++ "_,dimension=" ++ toString member.arraySize ++ ")"
      else "<(name=" ++ member.name ++ "_,maximum=" ++ toString member.arraySize ++ ")"
    else "<(name=" ++ member.name ++ "_)"
  else ""

/-- What is written of an element that is not a structure. -/
def elementText (letter : Char) (label : Option String) : String :=
  String.singleton letter ++ "(" ++ (label.elim "" fun name => "name=" ++ name ++ "_") ++ ")"

/-- What is written in front of the members of a structure. -/
def structHead (ns name : String) (memberCount : Nat) (fieldName : Option String) : String :=
  "\x7b(" ++ (fieldName.elim "" fun name => "name=" ++ name ++ "_,") ++ "type=" ++
    createTypeNameOf (some ⟨ns, name⟩) ++ ",member=" ++ toString memberCount ++ ")"

mutual

/-- `parse_struct`. -/
def MessageMembers.parseStruct : MessageMembers → Option String → String
  | .nullptr, _ => ""
  | .mk ns name ms, fieldName =>
    match parseMembers ms with
    | none => ""
    | some members => structHead ns name ms.length fieldName ++ members

/-- The loop over the members. There is nothing where it returns an empty string. -/
def parseMembers : List MessageMember → Option String
  | [] => some ""
  | m :: ms =>
    match m.parse with
    | none => none
    | some member => (parseMembers ms).map (member ++ ·)

/-- The body of the loop. -/
def MessageMember.parse : MessageMember → Option String
  | .mk name typeId isArray arraySize isUpperBound members =>
    let member := MessageMember.mk name typeId isArray arraySize isUpperBound members
    if typeId = .message then
      let innerMetastring := members.parseStruct member.label
      if innerMetastring = "" then none else some (member.arrayPrefix ++ innerMetastring)
    else typeId.letter.map fun letter => member.arrayPrefix ++ elementText letter member.label

end

/-- `create_metastring`, of the members of either language. -/
def MessageMembers.createMetastring : MessageMembers → String
  | .nullptr => ""
  | .mk ns name ms => "!1" ++ (MessageMembers.mk ns name ms).parseStruct none

theorem MessageMember.parse_eq (m : MessageMember) :
    m.parse =
      if m.typeId = .message then
        if m.members.parseStruct m.label = "" then none
        else some (m.arrayPrefix ++ m.members.parseStruct m.label)
      else m.typeId.letter.map fun letter => m.arrayPrefix ++ elementText letter m.label := by
  cases m
  rfl

/-! ## What is known -/

/-- `parse_struct` knows the type. -/
def TypeId.known (typeId : TypeId) : Bool := typeId = .message || typeId.letter.isSome

/-- Every member, at any depth, is of a known type, and every nested description is there. -/
def MessageMembers.known (d : MessageMembers) : Bool := d.all fun m => m.typeId.known

theorem kind_message_iff {m : MessageMember} : m.kind = .message ↔ m.typeId = .message := by
  unfold MessageMember.kind
  cases m.typeId <;> simp [TypeId.kind]

theorem structHead_ne_empty (ns name : String) (memberCount : Nat) (fieldName : Option String)
    (members : String) : structHead ns name memberCount fieldName ++ members ≠ "" := by
  intro empty
  have chars := congrArg String.toList empty
  unfold structHead at chars
  simp only [String.toList_append, List.append_assoc] at chars
  cases chars

theorem parseMembers_isSome_iff {ms : List MessageMember} :
    (parseMembers ms).isSome = true ↔ ∀ m ∈ ms, m.parse.isSome = true := by
  induction ms with
  | nil => exact iff_of_true rfl fun m mem => absurd mem List.not_mem_nil
  | cons m ms ih =>
    rw [List.forall_mem_cons, ← ih, parseMembers]
    cases m.parse with
    | none => exact iff_of_false Bool.false_ne_true fun h => Bool.false_ne_true h.1
    | some member =>
      rw [Option.isSome_map]
      exact (and_iff_right rfl).symm

/-- **A structure has a text exactly if every member is known**, at every depth. -/
theorem parseStruct_ne_empty_iff (d : MessageMembers) :
    ∀ fieldName, d.parseStruct fieldName ≠ "" ↔ d.known = true := by
  induction d using MessageMembers.induct
    (Q := fun m => m.parse.isSome = true ↔ m.all (fun m => m.typeId.known) = true) with
  | null => exact fun _ => iff_of_false (fun h => h rfl) Bool.false_ne_true
  | mk ns name ms ih =>
    intro fieldName
    have members : (parseMembers ms).isSome = true ↔
        membersAll (fun m => m.typeId.known) ms = true :=
      parseMembers_isSome_iff.trans ((forall₂_congr ih).trans membersAll_iff.symm)
    show _ ↔ membersAll (fun m => m.typeId.known) ms = true
    rw [← members, MessageMembers.parseStruct]
    cases parseMembers ms with
    | none => exact iff_of_false (fun h => h rfl) Bool.false_ne_true
    | some members => exact iff_of_true (structHead_ne_empty _ _ _ _ _) rfl
  | member m ih =>
    rw [MessageMember.parse_eq, MessageMember.all_eq, Bool.and_eq_true]
    by_cases message : m.typeId = .message
    · have inner : m.members.all (fun m => m.typeId.known) = true ↔
          m.members.parseStruct m.label ≠ "" := (ih m.label).symm
      have here : m.typeId.known = true := by rw [message]; rfl
      rw [if_pos message, if_pos (kind_message_iff.mpr message), inner, and_iff_right here]
      by_cases empty : m.members.parseStruct m.label = ""
      · rw [if_pos empty]
        exact iff_of_false Bool.false_ne_true fun h => h empty
      · rw [if_neg empty]
        exact iff_of_true rfl empty
    · have here : m.typeId.known = m.typeId.letter.isSome := by
        unfold TypeId.known
        rw [decide_eq_false message, Bool.false_or]
      rw [if_neg message, if_neg fun kind => message (kind_message_iff.mp kind), here,
        Option.isSome_map, and_iff_left rfl]

/-! ## Rejecting a type -/

/-- **What is returned is not empty exactly if there is a description at all.** -/
theorem createMetastring_ne_empty_iff (d : MessageMembers) :
    d.createMetastring ≠ "" ↔ d ≠ .nullptr := by
  cases d with
  | nullptr => exact iff_of_false (fun h => h rfl) fun h => h rfl
  | mk ns name ms =>
    refine iff_of_true (fun empty => ?_) fun null => by cases null
    have chars := congrArg String.toList empty
    unfold MessageMembers.createMetastring at chars
    rw [String.toList_append] at chars
    cases chars

/-- `create_type_name` fails for the null handle only. -/
theorem createTypeNameOf_ne_empty (members : MessageNames) :
    createTypeNameOf (some members) ≠ "" := by
  intro empty
  have length := congrArg String.length empty
  rw [createTypeNameOf, String.length_append, show "_".length = 1 from rfl] at length
  exact Nat.succ_ne_zero _ length

/-- The names in a description, for `create_type_name`. -/
def MessageMembers.names : MessageMembers → Option MessageNames
  | .nullptr => none
  | .mk ns name _ => some ⟨ns, name⟩

/-- `create_metastring`. -/
def createMetastring (members : MessageMembers) : TypesupportIdentifier → String
  | .introspectionC | .introspectionCpp => members.createMetastring
  | .other => ""

/-- `create_service_metastring`, of the members of a service. -/
def createServiceMetastring (members : Option (MessageMembers × MessageMembers)) :
    TypesupportIdentifier → String × String
  | .introspectionC | .introspectionCpp =>
    match members with
    | none => ("", "")
    | some (requestMembers, responseMembers) =>
      (requestMembers.createMetastring, responseMembers.createMetastring)
  | .other => ("", "")

/-- `create_publisher` and `create_subscription` go on to register the type. -/
def admitted (members : MessageMembers) (identifier : TypesupportIdentifier) : Bool :=
  !decide (createTypeName members.names identifier = "") &&
    !decide (createMetastring members identifier = "")

/-- `rmw_create_service` and `rmw_create_client` go on to register the two types. -/
def serviceAdmitted (members : Option (MessageMembers × MessageMembers))
    (identifier : TypesupportIdentifier) : Bool :=
  let serviceTypeName :=
    createServiceTypeName (members.map fun pair => ⟨pair.1.names, pair.2.names⟩) identifier
  let serviceMetastring := createServiceMetastring members identifier
  !(decide (serviceTypeName.1 = "") || decide (serviceTypeName.2 = "")) &&
    !(decide (serviceMetastring.1 = "") || decide (serviceMetastring.2 = ""))

/-- **A type that is not known is rejected**: what is returned for it is empty, and no entity goes
on to register it, alone or as one of the two types of a service. -/
structure MessageMembers.Rejected (d : MessageMembers) : Prop where
  metastring : d.createMetastring ≠ "" ↔ d.known = true
  message : ∀ identifier, admitted d identifier = true → d.known = true
  request : ∀ response identifier,
    serviceAdmitted (some (d, response)) identifier = true → d.known = true
  response : ∀ request identifier,
    serviceAdmitted (some (request, d)) identifier = true → d.known = true

section Admission

variable {d request response : MessageMembers} {identifier : TypesupportIdentifier}

/-- The text of a type that is registered is not empty. -/
theorem ne_empty_of_admitted (h : admitted d identifier = true) : d.createMetastring ≠ "" := by
  unfold admitted at h
  rw [Bool.and_eq_true, Bool.not_eq_true', Bool.not_eq_true', decide_eq_false_iff_not,
    decide_eq_false_iff_not] at h
  cases identifier with
  | other => exact absurd rfl h.2
  | _ => exact h.2

/-- The texts of the two types of a service are not empty. -/
theorem ne_empty_of_serviceAdmitted
    (h : serviceAdmitted (some (request, response)) identifier = true) :
    request.createMetastring ≠ "" ∧ response.createMetastring ≠ "" := by
  unfold serviceAdmitted at h
  rw [Bool.and_eq_true, Bool.not_eq_true', Bool.not_eq_true', Bool.or_eq_false_iff,
    Bool.or_eq_false_iff, decide_eq_false_iff_not, decide_eq_false_iff_not,
    decide_eq_false_iff_not, decide_eq_false_iff_not] at h
  cases identifier with
  | other => exact absurd rfl h.2.1
  | _ => exact h.2

end Admission

/-- **When a type that is not known is rejected.** For every description, exactly if it is known
after all, or is the null handle. -/
theorem metastring_rejects_iff (d : MessageMembers) :
    d.Rejected ↔ d.known = true ∨ d = .nullptr := by
  constructor
  · intro rejected
    by_cases null : d = .nullptr
    · exact .inr null
    · exact .inl (rejected.metastring.mp ((createMetastring_ne_empty_iff d).mpr null))
  · intro condition
    have known (nonempty : d.createMetastring ≠ "") : d.known = true :=
      condition.resolve_right ((createMetastring_ne_empty_iff d).mp nonempty)
    have nonempty (known : d.known = true) : d.createMetastring ≠ "" := by
      rw [createMetastring_ne_empty_iff]
      rintro rfl
      exact Bool.false_ne_true known
    exact ⟨⟨known, nonempty⟩, fun _ admitted => known (ne_empty_of_admitted admitted),
      fun _ _ admitted => known (ne_empty_of_serviceAdmitted admitted).1,
      fun _ _ admitted => known (ne_empty_of_serviceAdmitted admitted).2⟩

/-- A message with a long double in it has a text of two characters, and its type is registered. -/
theorem longDouble_admitted :
    ¬ (MessageMembers.mk "pkg::msg" "Wide" [.mk "x" .longDouble false 0 false .nullptr]).Rejected ∧
    (MessageMembers.mk "pkg::msg" "Wide"
      [.mk "x" .longDouble false 0 false .nullptr]).createMetastring = "!1" ∧
    admitted (.mk "pkg::msg" "Wide" [.mk "x" .longDouble false 0 false .nullptr])
      .introspectionCpp = true := by
  refine ⟨fun rejected => ?_, rfl, ?_⟩
  · have known := rejected.metastring.mp fun empty => by cases congrArg String.toList empty
    exact Bool.false_ne_true known
  · unfold admitted
    rw [Bool.and_eq_true, Bool.not_eq_true', Bool.not_eq_true', decide_eq_false_iff_not,
      decide_eq_false_iff_not]
    exact ⟨createTypeNameOf_ne_empty _, fun empty => by cases congrArg String.toList empty⟩

end Cdr

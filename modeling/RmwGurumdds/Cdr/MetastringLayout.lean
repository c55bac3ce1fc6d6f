import RmwGurumdds.Cdr.Metastring

/-!
# The layout a metastring stands for

Two descriptions with the same metastring have the same members in the same order, with the same
names, kinds and shapes, and so in every nested message (`metastring_determines`).

Nothing closes a structure, and the elements of an array have no names. What a text says is read
from its front: the first character of a member tells an array or a sequence from an element, a name
ends at the first character no name has, and a head says how many members follow.
-/

namespace Cdr

open Names Text

/-! ## The same layout -/

/-- The kind of an element. Four types are one kind. -/
def TypeId.elementKind : TypeId → TypeId
  | .char | .octet | .uint8 | .int8 => .uint8
  | typeId => typeId

/-- What holds the elements of a member. -/
inductive Shape where
  | scalar
  | array (size : Nat)
  | boundedSequence (bound : Nat)
  | unboundedSequence
deriving DecidableEq, Repr

def MessageMember.shape (member : MessageMember) : Shape :=
  if member.isArray then
    if 0 < member.arraySize then
      if !member.isUpperBound then .array member.arraySize else .boundedSequence member.arraySize
    else .unboundedSequence
  else .scalar

mutual

/-- The members are alike, one after another. -/
inductive MessageMembers.Alike : MessageMembers → MessageMembers → Prop
  | mk {ns name ns' name' : String} {ms ms' : List MessageMember}
      (members : List.Forall₂ MessageMember.Alike ms ms') :
      MessageMembers.Alike (.mk ns name ms) (.mk ns' name' ms')

/-- The name, the kind and the shape are the same, and nested messages are alike. -/
inductive MessageMember.Alike : MessageMember → MessageMember → Prop
  | mk {m m' : MessageMember} (name : m.name = m'.name)
      (kind : m.typeId.elementKind = m'.typeId.elementKind) (shape : m.shape = m'.shape)
      (members : m.typeId = .message → MessageMembers.Alike m.members m'.members) :
      MessageMember.Alike m m'

end

/-! ## Names -/

/-- A letter, a digit, an underscore or a colon. -/
def nameChar (c : Char) : Bool := c.isAlphanum || c = '_' || c = ':'

/-- A text of such characters. -/
def nameText (s : String) : Bool := s.toList.all nameChar

mutual

/-- The names of types and members are texts of such characters, at any depth. -/
def MessageMembers.named : MessageMembers → Bool
  | .nullptr => true
  | .mk ns name ms => nameText ns && nameText name && membersNamed ms

def membersNamed : List MessageMember → Bool
  | [] => true
  | m :: ms => m.named && membersNamed ms

def MessageMember.named : MessageMember → Bool
  | .mk name typeId _ _ _ members => nameText name && (!decide (typeId = .message) || members.named)

end

theorem membersNamed_iff {ms : List MessageMember} :
    membersNamed ms = true ↔ ∀ m ∈ ms, m.named = true := by
  induction ms with
  | nil => exact iff_of_true rfl fun _ h => absurd h List.not_mem_nil
  | cons m ms ih => rw [membersNamed, Bool.and_eq_true, ih, List.forall_mem_cons]

theorem MessageMember.named_iff {m : MessageMember} :
    m.named = true ↔ nameText m.name = true ∧ (m.typeId = .message → m.members.named = true) := by
  cases m with
  | mk name typeId isArray arraySize isUpperBound members =>
    show (nameText name && (!decide (typeId = .message) || members.named)) = true ↔
      nameText name = true ∧ (typeId = .message → members.named = true)
    rw [Bool.and_eq_true, Bool.or_eq_true, Bool.not_eq_true', decide_eq_false_iff_not,
      ← imp_iff_not_or]

/-- What ends a name or a number. -/
def Stop (c : Char) : Prop := c = ',' ∨ c = ')'

theorem not_stop_of_nameChar {c : Char} (h : nameChar c = true) : ¬ Stop c := by
  rintro (rfl | rfl) <;> exact Bool.false_ne_true h

theorem not_stop_of_nameText {s : String} (h : nameText s = true) : ∀ c ∈ s.toList, ¬ Stop c :=
  fun c mem => not_stop_of_nameChar (List.all_eq_true.mp h c mem)

/-- Replacing underscores adds nothing but colons. -/
theorem mem_replaceUnderscores {s : List Char} {pos : Nat} {c : Char} :
    c ∈ replaceUnderscores s pos → c ∈ s ∨ c = ':' := by
  induction s, pos using replaceUnderscores.induct with
  | case1 s start pos found ih =>
    rw [replaceUnderscores, found]
    intro mem
    rcases ih mem with mem | colon
    · rw [replacePair, List.mem_append, List.mem_append] at mem
      rcases mem with (mem | mem) | mem
      · exact .inl (List.mem_of_mem_take mem)
      · exact .inr (by simpa using mem)
      · exact .inl (List.mem_of_mem_drop mem)
    · exact .inr colon
  | case2 s start missing =>
    rw [replaceUnderscores, missing]
    exact .inl

/-- The name of a type is a name. -/
theorem nameText_createTypeNameOf {ns name : String} (hns : nameText ns = true)
    (hname : nameText name = true) : nameText (createTypeNameOf (some ⟨ns, name⟩)) = true := by
  have replaced : (replaceUnderscores ns.toList 0).all nameChar = true := by
    rw [List.all_eq_true]
    intro c mem
    rcases mem_replaceUnderscores mem with mem | rfl
    · exact List.all_eq_true.mp hns c mem
    · rfl
  have middle : "dds_::".toList.all nameChar = true := by decide
  have last : "_".toList.all nameChar = true := by decide
  have colons : "::".toList.all nameChar = true := by decide
  unfold nameText at hname ⊢
  rw [createTypeNameOf]
  split
  · simp only [String.toList_append, String.toList_ofList, List.all_append, replaced, hname, middle,
      last, colons, Bool.and_self]
  · simp only [String.toList_append, List.all_append, hname, middle, last, Bool.and_true]
    rfl

/-! ## The parts of the text -/

section Parts

variable {s s' n n' : String} {c c' : Char}

/-- A text that ends at a comma or at a bracket. -/
theorem splits_text (hs : nameText s = true) (hs' : nameText s' = true) (hc : Stop c)
    (hc' : Stop c') : Splits (s.toList ++ [c]) (s'.toList ++ [c']) (s = s' ∧ c = c') :=
  (Splits.token (not_stop_of_nameText hs) (not_stop_of_nameText hs') hc hc').mono
    (And.imp_left String.toList_inj.mp)

/-- A name with an underscore behind it. -/
theorem splits_name (hn : nameText n = true) (hn' : nameText n' = true) (hc : Stop c)
    (hc' : Stop c') :
    Splits (n.toList ++ ('_' :: [c])) (n'.toList ++ ('_' :: [c'])) (n = n' ∧ c = c') := by
  have underscored {s : String} (named : nameText s = true) :
      nameText (s ++ String.singleton '_') = true := by
    unfold nameText at named ⊢
    rw [String.toList_append, List.all_append, named]
    rfl
  have split := splits_text (underscored hn) (underscored hn') hc hc'
  rw [String.toList_append, String.toList_append, List.append_assoc, List.append_assoc] at split
  refine split.mono (And.imp_left fun same => String.toList_inj.mp ?_)
  have chars := congrArg String.toList same
  rw [String.toList_append, String.toList_append] at chars
  exact List.append_cancel_right chars

/-- A number. -/
theorem splits_number {k k' : Nat} :
    Splits ((toString k).toList ++ [')']) ((toString k').toList ++ [')']) (k = k') := by
  have digits (k : Nat) : (toString k).toList = Nat.toDigits 10 k := by
    rw [Nat.toString_eq_repr, Nat.toList_repr]
  have free (k : Nat) : ∀ a ∈ Nat.toDigits 10 k, ¬ Stop a := by
    rintro a mem (rfl | rfl) <;>
      exact Bool.false_ne_true (Nat.isDigit_of_mem_toDigits (by decide) (by decide) mem)
  rw [digits, digits]
  refine (Splits.token (free k) (free k') (.inr rfl) (.inr rfl)).mono fun same => ?_
  rw [← @Nat.ofDigitChars_ten_toDigits k, same.1, Nat.ofDigitChars_ten_toDigits]

end Parts

/-! ## Prefixes -/

namespace Shape

/-- What a prefix begins with. -/
def bracket : Shape → Char
  | .array _ => '['
  | _ => '<'

/-- What ends the name in a prefix. -/
def stop : Shape → Char
  | .array _ | .boundedSequence _ => ','
  | _ => ')'

/-- What is behind the name in a prefix. -/
def size : Shape → List Char
  | .array size => "dimension=".toList ++ ((toString size).toList ++ [')'])
  | .boundedSequence bound => "maximum=".toList ++ ((toString bound).toList ++ [')'])
  | _ => []

theorem bracket_eq (s : Shape) : s.bracket = '[' ∨ s.bracket = '<' := by
  cases s with
  | array _ => exact .inl rfl
  | _ => exact .inr rfl

theorem stop_stop (s : Shape) : Stop s.stop := by
  cases s with
  | array _ | boundedSequence _ => exact .inl rfl
  | scalar | unboundedSequence => exact .inr rfl

/-- Behind the same beginning, the sizes tell the shapes apart. -/
theorem splits_size : ∀ {s s' : Shape}, s ≠ .scalar → s' ≠ .scalar → s.bracket = s'.bracket →
    s.stop = s'.stop → Splits s.size s'.size (s = s')
  | .scalar, _, h, _, _, _ | _, .scalar, _, h, _, _ => absurd rfl h
  | .array _, .array _, _, _, _, _ => (splits_number.prepend _).mono (congrArg Shape.array)
  | .boundedSequence _, .boundedSequence _, _, _, _, _ =>
    (splits_number.prepend _).mono (congrArg Shape.boundedSequence)
  | .unboundedSequence, .unboundedSequence, _, _, _, _ => Splits.same.mono fun _ => rfl
  | .array _, .boundedSequence _, _, _, h, _ | .array _, .unboundedSequence, _, _, h, _ =>
    absurd h (show '[' ≠ '<' by decide)
  | .boundedSequence _, .array _, _, _, h, _ | .unboundedSequence, .array _, _, _, h, _ =>
    absurd h (show '<' ≠ '[' by decide)
  | .boundedSequence _, .unboundedSequence, _, _, _, h => absurd h (show ',' ≠ ')' by decide)
  | .unboundedSequence, .boundedSequence _, _, _, _, h => absurd h (show ')' ≠ ',' by decide)

end Shape

namespace MessageMember

variable {m m' : MessageMember}

theorem shape_scalar_iff : m.shape = .scalar ↔ m.isArray = false := by
  unfold shape
  split
  · rename_i array
    refine iff_of_false ?_ (by rw [array]; exact Bool.noConfusion)
    split
    · split <;> exact Shape.noConfusion
    · exact Shape.noConfusion
  · rename_i scalar
    exact iff_of_true rfl (Bool.eq_false_of_not_eq_true scalar)

/-- The prefix of an array: the name is between what the shape says. -/
theorem arrayPrefix_array (array : m.isArray = true) :
    m.arrayPrefix.toList =
      [m.shape.bracket] ++ ("(name=".toList ++
        ((m.name.toList ++ ['_', m.shape.stop]) ++ m.shape.size)) := by
  unfold arrayPrefix shape
  rw [if_pos array, if_pos array]
  split
  · split <;> simp only [String.toList_append, List.append_assoc] <;> rfl
  · simp only [String.toList_append, List.append_assoc]
    rfl

/-- Two prefixes tell the names and the shapes apart. -/
theorem splits_arrayPrefix (array : m.isArray = true) (array' : m'.isArray = true)
    (named : nameText m.name = true) (named' : nameText m'.name = true) :
    Splits m.arrayPrefix.toList m'.arrayPrefix.toList (m.name = m'.name ∧ m.shape = m'.shape) := by
  have nonscalar {m : MessageMember} (array : m.isArray = true) : m.shape ≠ .scalar := fun scalar =>
    Bool.false_ne_true ((shape_scalar_iff.mp scalar).symm.trans array)
  rw [arrayPrefix_array array, arrayPrefix_array array']
  have bracket : Splits [m.shape.bracket] [m'.shape.bracket] _ := Splits.single
  have name := splits_name named named' m.shape.stop_stop m'.shape.stop_stop
  refine (bracket.append fun brackets => (name.append fun names => Shape.splits_size
    (nonscalar array) (nonscalar array') brackets names.2).prepend _).mono ?_
  exact fun whole => ⟨whole.2.1.1, whole.2.2⟩

end MessageMember

/-! ## Elements and heads -/

/-- The kind a letter stands for. -/
def letterKind : Char → TypeId
  | 'f' => .float
  | 'd' => .double
  | 'w' => .wchar
  | 'z' => .boolean
  | 'S' => .uint16
  | 's' => .int16
  | 'I' => .uint32
  | 'i' => .int32
  | 'L' => .uint64
  | 'l' => .int64
  | '\'' => .string
  | 'W' => .wstring
  | _ => .uint8

theorem TypeId.elementKind_of_letter {typeId : TypeId} {letter : Char}
    (h : typeId.letter = some letter) : typeId.elementKind = letterKind letter := by
  cases typeId <;> cases h <;> rfl

/-- A letter is not what a structure, an array or a sequence begins with. -/
theorem TypeId.letter_ne {typeId : TypeId} {letter : Char} (h : typeId.letter = some letter) :
    letter ≠ '{' ∧ letter ≠ '[' ∧ letter ≠ '<' := by
  cases typeId <;> cases h <;> decide

section Labels

variable {label label' : Option String}

/-- Two elements that are both labelled, or both not. -/
theorem splits_elementText {letter letter' : Char} (both : label.isSome = label'.isSome)
    (named : ∀ n ∈ label, nameText n = true) (named' : ∀ n ∈ label', nameText n = true) :
    Splits (elementText letter label).toList (elementText letter' label').toList
      (letter = letter' ∧ label = label') := by
  unfold elementText
  simp only [String.toList_append, String.toList_singleton, List.append_assoc]
  cases label with
  | none =>
    cases label' with
    | none => exact Splits.single.append fun _ => Splits.same.mono fun _ => rfl
    | some n' => cases both
  | some n =>
    cases label' with
    | none => cases both
    | some n' =>
      have bracket : Stop ')' := .inr rfl
      have name := splits_name (named n rfl) (named' n' rfl) bracket bracket
      refine Splits.single.append fun _ => Splits.prepend "(".toList ?_
      simp only [Option.elim, String.toList_append, List.append_assoc]
      exact (name.mono fun same => congrArg some same.1).prepend "name=".toList

/-- Two heads that are both labelled, or both not. -/
theorem splits_structHead {ns ns' name name' : String} {memberCount memberCount' : Nat}
    (both : label.isSome = label'.isSome) (named : ∀ n ∈ label, nameText n = true)
    (named' : ∀ n ∈ label', nameText n = true) (type : nameText ns = true ∧ nameText name = true)
    (type' : nameText ns' = true ∧ nameText name' = true) :
    Splits (structHead ns name memberCount label).toList
      (structHead ns' name' memberCount' label').toList
      (label = label' ∧ memberCount = memberCount') := by
  have comma : Stop ',' := .inl rfl
  have typeName := splits_text (nameText_createTypeNameOf type.1 type.2)
    (nameText_createTypeNameOf type'.1 type'.2) comma comma
  have count : Splits _ _ (memberCount = memberCount') := splits_number.prepend "member=".toList
  have rest := ((typeName.append fun _ => count).mono And.right).prepend "type=".toList
  unfold structHead
  simp only [String.toList_append, List.append_assoc] at rest ⊢
  refine Splits.prepend "\x7b(".toList ?_
  cases label with
  | none =>
    cases label' with
    | none => exact rest.mono fun same => ⟨rfl, same⟩
    | some n' => cases both
  | some n =>
    cases label' with
    | none => cases both
    | some n' =>
      have name := splits_name (named n rfl) (named' n' rfl) comma comma
      simp only [Option.elim, String.toList_append, List.append_assoc]
      refine Splits.prepend "name=".toList ?_
      have split := name.append fun _ => rest
      simp only [List.append_assoc] at split
      exact split.mono fun same => ⟨congrArg some same.1.1, same.2⟩

end Labels

/-! ## Members and structures -/

/-- What is written behind the prefix. -/
def MessageMember.element (m : MessageMember) : String :=
  if m.typeId = .message then m.members.parseStruct m.label
  else m.typeId.letter.elim "" fun letter => elementText letter m.label

section Members

variable {m m' : MessageMember}

theorem MessageMember.known_iff :
    m.all (fun m => m.typeId.known) = true ↔
      m.typeId.known = true ∧ (m.typeId = .message → m.members.known = true) := by
  rw [MessageMember.all_eq, Bool.and_eq_true]
  by_cases message : m.typeId = .message
  · rw [if_pos (kind_message_iff.mpr message)]
    exact and_congr_right fun _ => (imp_iff_right message).symm
  · rw [if_neg fun kind => message (kind_message_iff.mp kind)]
    exact and_congr_right fun _ => iff_of_true rfl fun h => absurd h message

/-- A type that is known and is no message has a letter. -/
theorem TypeId.letter_of_known {typeId : TypeId} (known : typeId.known = true)
    (message : typeId ≠ .message) : ∃ letter, typeId.letter = some letter := by
  unfold TypeId.known at known
  rw [decide_eq_false message, Bool.false_or] at known
  exact Option.isSome_iff_exists.mp known

/-- A known member is its prefix and its element. -/
theorem MessageMember.parse_of_known (known : m.all (fun m => m.typeId.known) = true) :
    m.parse = some (m.arrayPrefix ++ m.element) := by
  obtain ⟨here, nested⟩ := MessageMember.known_iff.mp known
  rw [MessageMember.parse_eq, MessageMember.element]
  by_cases message : m.typeId = .message
  · rw [if_pos message, if_pos message,
      if_neg ((parseStruct_ne_empty_iff _ _).mpr (nested message))]
  · obtain ⟨letter, found⟩ := TypeId.letter_of_known here message
    rw [if_neg message, if_neg message, found]
    rfl

/-- The members of a known structure stand one after another. -/
theorem parseMembers_of_known {ms : List MessageMember}
    (known : ∀ m ∈ ms, m.all (fun m => m.typeId.known) = true) :
    ∃ text, parseMembers ms = some text ∧
      text.toList = ms.flatMap fun m => m.arrayPrefix.toList ++ m.element.toList := by
  induction ms with
  | nil => exact ⟨"", rfl, rfl⟩
  | cons m ms ih =>
    obtain ⟨text, parsed, chars⟩ := ih fun m mem => known m (.tail _ mem)
    refine ⟨m.arrayPrefix ++ m.element ++ text, ?_, ?_⟩
    · rw [parseMembers, MessageMember.parse_of_known (known m List.mem_cons_self), parsed]
      rfl
    · rw [String.toList_append, String.toList_append, chars, List.flatMap_cons]

/-- A known structure is its head and its members. -/
theorem parseStruct_of_known {ns name : String} {ms : List MessageMember} {label : Option String}
    (known : ∀ m ∈ ms, m.all (fun m => m.typeId.known) = true) :
    ((MessageMembers.mk ns name ms).parseStruct label).toList =
      (structHead ns name ms.length label).toList ++
        ms.flatMap fun m => m.arrayPrefix.toList ++ m.element.toList := by
  obtain ⟨text, parsed, chars⟩ := parseMembers_of_known known
  rw [MessageMembers.parseStruct, parsed]
  exact String.toList_append.trans (congrArg _ chars)

/-- An element begins with its letter or with the bracket of a structure. -/
theorem MessageMember.element_begins (known : m.all (fun m => m.typeId.known) = true) :
    ∃ c rest, m.element.toList = c :: rest ∧ c ≠ '[' ∧ c ≠ '<' ∧
      (c = '{' ↔ m.typeId = .message) := by
  obtain ⟨here, nested⟩ := MessageMember.known_iff.mp known
  unfold MessageMember.element
  by_cases message : m.typeId = .message
  · rw [if_pos message]
    have inner := nested message
    revert inner
    cases m.members with
    | nullptr => exact fun inner => absurd inner Bool.false_ne_true
    | mk ns name ms =>
      intro inner
      rw [parseStruct_of_known (membersAll_iff.mp inner)]
      unfold structHead
      simp only [String.toList_append, List.append_assoc]
      exact ⟨'{', _, rfl, by decide, by decide, iff_of_true rfl message⟩
  · obtain ⟨letter, found⟩ := TypeId.letter_of_known here message
    obtain ⟨ne_brace, ne_array, ne_sequence⟩ := TypeId.letter_ne found
    rw [if_neg message, found]
    unfold elementText
    simp only [Option.elim, String.toList_append, String.toList_singleton, List.append_assoc]
    exact ⟨letter, _, rfl, ne_array, ne_sequence, iff_of_false ne_brace message⟩

end Members

/-! ## Reading a text from its front -/

/-- A description whose text is written and whose names are names. -/
structure MessageMembers.Written (d : MessageMembers) : Prop where
  known : d.known = true
  named : d.named = true

/-- The same of a member. -/
structure MessageMember.Written (m : MessageMember) : Prop where
  known : m.all (fun m => m.typeId.known) = true
  named : m.named = true

theorem MessageMember.Written.nested {m : MessageMember} (written : m.Written)
    (message : m.typeId = .message) : m.members.Written :=
  ⟨(MessageMember.known_iff.mp written.known).2 message,
    (MessageMember.named_iff.mp written.named).2 message⟩

theorem MessageMember.Written.label {m : MessageMember} (written : m.Written) :
    ∀ n ∈ m.label, nameText n = true := by
  intro n mem
  unfold MessageMember.label at mem
  split at mem
  · cases mem
  · obtain rfl := Option.some.inj mem
    exact (MessageMember.named_iff.mp written.named).1

theorem MessageMembers.Written.members {ns name : String} {ms : List MessageMember}
    (written : (MessageMembers.mk ns name ms).Written) :
    (nameText ns = true ∧ nameText name = true) ∧ ∀ m ∈ ms, m.Written := by
  have named : (nameText ns && nameText name && membersNamed ms) = true := written.named
  rw [Bool.and_eq_true, Bool.and_eq_true] at named
  exact ⟨named.1, fun m mem =>
    ⟨membersAll_iff.mp written.known m mem, membersNamed_iff.mp named.2 m mem⟩⟩

/-- The structures that begin two texts, both labelled or neither, are alike. -/
def Told (d d' : MessageMembers) : Prop :=
  ∀ label label' : Option String, label.isSome = label'.isSome →
    (∀ n ∈ label, nameText n = true) → (∀ n ∈ label', nameText n = true) →
    Splits (d.parseStruct label).toList (d'.parseStruct label').toList (label = label' ∧ d.Alike d')

section Front

variable {m m' : MessageMember}

/-- Elements are told apart when the messages nested in them are. -/
theorem splits_element (written : m.Written) (written' : m'.Written)
    (both : m.isArray = m'.isArray) (nested : m.typeId = .message → m'.typeId = .message →
      Told m.members m'.members) :
    Splits m.element.toList m'.element.toList
      (m.typeId.elementKind = m'.typeId.elementKind ∧ m.label = m'.label ∧
        (m.typeId = .message → m.members.Alike m'.members)) := by
  have labels : m.label.isSome = m'.label.isSome := by
    unfold MessageMember.label
    rw [both]
    split <;> rfl
  obtain ⟨c, rest, begins, -, -, brace⟩ := MessageMember.element_begins written.known
  obtain ⟨c', rest', begins', -, -, brace'⟩ := MessageMember.element_begins written'.known
  by_cases message : m.typeId = .message <;> by_cases message' : m'.typeId = .message
  · unfold MessageMember.element
    rw [if_pos message, if_pos message']
    refine (nested message message' _ _ labels written.label written'.label).mono fun told => ?_
    exact ⟨by rw [message, message'], told.1, fun _ => told.2⟩
  · rw [begins, begins']
    exact Splits.of_ne fun same => message' (brace'.mp (same ▸ brace.mpr message))
  · rw [begins, begins']
    exact Splits.of_ne fun same => message (brace.mp (same ▸ brace'.mpr message'))
  · obtain ⟨letter, found⟩ := TypeId.letter_of_known
      (MessageMember.known_iff.mp written.known).1 message
    obtain ⟨letter', found'⟩ := TypeId.letter_of_known
      (MessageMember.known_iff.mp written'.known).1 message'
    unfold MessageMember.element
    rw [if_neg message, if_neg message', found, found']
    refine (splits_elementText labels written.label written'.label).mono fun same => ?_
    refine ⟨?_, same.2, fun h => absurd h message⟩
    rw [TypeId.elementKind_of_letter found, TypeId.elementKind_of_letter found', same.1]

/-- What is written of a member. -/
def MessageMember.chars (m : MessageMember) : List Char :=
  m.arrayPrefix.toList ++ m.element.toList

theorem MessageMember.chars_scalar (scalar : m.isArray = false) : m.chars = m.element.toList := by
  unfold MessageMember.chars MessageMember.arrayPrefix
  rw [if_neg fun array => Bool.false_ne_true (scalar.symm.trans array)]
  rfl

/-- An array or a sequence is told from an element by its bracket. -/
theorem splits_array_scalar {P : Prop} (array : m.isArray = true) (scalar : m'.isArray = false)
    (written' : m'.Written) : Splits m.chars m'.chars P := by
  obtain ⟨c', rest', begins', ne_array, ne_sequence, -⟩ :=
    MessageMember.element_begins written'.known
  rw [MessageMember.chars_scalar scalar, begins', MessageMember.chars,
    MessageMember.arrayPrefix_array array]
  refine Splits.of_ne fun same => ?_
  rcases m.shape.bracket_eq with bracket | bracket
  · exact ne_array (same.symm.trans bracket)
  · exact ne_sequence (same.symm.trans bracket)

/-- Members are told apart when the messages nested in them are. -/
theorem splits_member (written : m.Written) (written' : m'.Written)
    (nested : m.typeId = .message → m'.typeId = .message → Told m.members m'.members) :
    Splits m.chars m'.chars (m.Alike m') := by
  cases array : m.isArray <;> cases array' : m'.isArray
  · have element := splits_element written written' (array.trans array'.symm) nested
    rw [MessageMember.chars_scalar array, MessageMember.chars_scalar array']
    refine element.mono fun told => .mk ?_ told.1 ?_ told.2.2
    · have labels := told.2.1
      unfold MessageMember.label at labels
      rw [array, array'] at labels
      exact Option.some.inj labels
    · rw [MessageMember.shape_scalar_iff.mpr array, MessageMember.shape_scalar_iff.mpr array']
  · exact (splits_array_scalar array' array written).symm
  · exact splits_array_scalar array array' written'
  · have element := splits_element written written' (array.trans array'.symm) nested
    have first := MessageMember.splits_arrayPrefix array array'
      (MessageMember.named_iff.mp written.named).1 (MessageMember.named_iff.mp written'.named).1
    exact (first.append fun _ => element).mono fun told =>
      .mk told.1.1 told.2.1 told.1.2 told.2.2.2

/-- **A structure can be read from the front of a text.** -/
theorem told (d : MessageMembers) : ∀ d', d.Written → d'.Written → Told d d' := by
  induction d using MessageMembers.induct
    (Q := fun m => ∀ m', m.Written → m'.Written → Splits m.chars m'.chars (m.Alike m')) with
  | null => exact fun _ written => absurd written.known Bool.false_ne_true
  | mk ns name ms ih =>
    intro d' written written' label label' both named named'
    cases d' with
    | nullptr => exact absurd written'.known Bool.false_ne_true
    | mk ns' name' ms' =>
      obtain ⟨type, members⟩ := written.members
      obtain ⟨type', members'⟩ := written'.members
      rw [parseStruct_of_known fun m mem => (members m mem).known,
        parseStruct_of_known fun m mem => (members' m mem).known]
      have head : Splits (structHead ns name ms.length label).toList
          (structHead ns' name' ms'.length label').toList _ :=
        splits_structHead both named named' type type'
      refine (head.append fun same => Splits.flatMap same.2 fun m mem m' mem' =>
        ih m mem m' (members m mem) (members' m' mem')).mono fun told => ?_
      exact ⟨told.1.1, .mk told.2⟩
  | member m ih m' written written' =>
    exact splits_member written written' fun message message' =>
      ih m'.members (written.nested message) (written'.nested message')

end Front

/-! ## The metastring -/

/-- **A metastring stands for one layout.** Of two descriptions whose names are names and whose
texts are written at every level, the metastrings are the same only if the descriptions are
alike. -/
theorem metastring_determines (d d' : MessageMembers) (named : d.named = true)
    (named' : d'.named = true) (written : d.parseStruct none ≠ "")
    (written' : d'.parseStruct none ≠ "") (same : d.createMetastring = d'.createMetastring) :
    d.Alike d' := by
  have known := (parseStruct_ne_empty_iff d none).mp written
  have known' := (parseStruct_ne_empty_iff d' none).mp written'
  have front := told d d' ⟨known, named⟩ ⟨known', named'⟩ none none rfl
    (fun n mem => absurd mem (Option.not_mem_none n))
    fun n mem => absurd mem (Option.not_mem_none n)
  have whole (d : MessageMembers) (known : d.known = true) :
      d.createMetastring.toList = "!1".toList ++ (d.parseStruct none).toList := by
    cases d with
    | nullptr => exact absurd known Bool.false_ne_true
    | mk ns name ms => exact String.toList_append
  have chars := congrArg String.toList same
  rw [whole d known, whole d' known'] at chars
  exact (front.prepend _).of_eq chars |>.2

/-- A byte and a character in nested messages are written alike. -/
theorem metastring_determines_bytes :
    (MessageMembers.mk "pkg::msg" "Outer" [.mk "ys" .message true 2 true
      (.mk "pkg::msg" "Inner" [.mk "x" .char false 0 false .nullptr])]).Alike
    (.mk "pkg::msg" "Outer" [.mk "ys" .message true 2 true
      (.mk "pkg::msg" "Inner" [.mk "x" .octet false 0 false .nullptr])]) :=
  metastring_determines _ _ (by decide) (by decide) ((parseStruct_ne_empty_iff _ _).mpr rfl)
    ((parseStruct_ne_empty_iff _ _).mpr rfl) rfl

end Cdr

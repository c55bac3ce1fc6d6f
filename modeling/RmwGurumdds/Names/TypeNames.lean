import RmwGurumdds.Text.Search

/-!
# Type names

The name of a ROS type in DDS: the package and the folder of the interface, then `dds_`, then the
type with an underscore behind it. The two languages write the namespace differently, as `p__f` and
as `p::f`; a loop makes the one into the other. `demangle.cpp` takes the name apart at the first
`dds_::`, and for a service at the last occurrence of one of two suffixes, of which the first that
ends the name is taken.

A string is the list of its characters. The warnings that are logged are left out.
-/

namespace Names

/-! ## Creation -/

/-- The identifier of a type support library. -/
inductive TypesupportIdentifier where
  | introspectionC
  | introspectionCpp
  | other
deriving DecidableEq, Repr

/-- The names in `MessageMembers`. -/
structure MessageNames where
  messageNamespace : String
  messageName : String
deriving DecidableEq, Repr

/-- The members of a service, by their names. -/
structure ServiceNames where
  requestMembers : Option MessageNames
  responseMembers : Option MessageNames
deriving DecidableEq, Repr

/-- `std::string::replace` of two characters. -/
def replacePair (s : List Char) (pos : Nat) (new : List Char) : List Char :=
  s.take pos ++ new ++ s.drop (pos + 2)

theorem count_replacePair {s new : List Char} {pos : Nat} {c : Char}
    (pair : [c, c] <+: s.drop pos) :
    (replacePair s pos new).count c + 2 = s.count c + new.count c := by
  obtain ⟨rest, split⟩ := pair
  have rest_eq : s.drop (pos + 2) = rest := by
    rw [← List.drop_drop, ← split]
    rfl
  have whole : s.count c = (s.take pos).count c + ((s.drop pos).count c) := by
    rw [← List.count_append, List.take_append_drop]
  rw [whole, ← split, replacePair, rest_eq]
  simp only [List.count_append, List.count_cons_self, List.count_nil]
  omega

/-- The loop of `create_type_name` over the occurrences of two underscores. Each is searched from
where the last one was. -/
def replaceUnderscores (messageNamespace : List Char) (pos : Nat) : List Char :=
  match _found : Text.findFrom ['_', '_'] messageNamespace pos with
  | some pos => replaceUnderscores (replacePair messageNamespace pos [':', ':']) pos
  | none => messageNamespace
termination_by messageNamespace.count '_'
decreasing_by
  have removed := @count_replacePair _ [':', ':'] _ _ (Text.prefix_of_findFrom _found)
  have none_added : [':', ':'].count '_' = 0 := by decide
  omega

/-- `create_type_name` over the members of either language. -/
def createTypeNameOf : Option MessageNames → String
  | none => ""
  | some members =>
    (if members.messageNamespace ≠ "" then
      String.ofList (replaceUnderscores members.messageNamespace.toList 0) ++ "::" else "") ++
      "dds_::" ++ members.messageName ++ "_"

/-- `create_type_name`. -/
def createTypeName (members : Option MessageNames) : TypesupportIdentifier → String
  | .introspectionC | .introspectionCpp => createTypeNameOf members
  | .other => ""

/-- `create_service_type_name`: the names of the request and of the response. -/
def createServiceTypeName (members : Option ServiceNames) : TypesupportIdentifier → String × String
  | .introspectionC | .introspectionCpp =>
    match members with
    | none => ("", "")
    | some members =>
      (createTypeNameOf members.requestMembers, createTypeNameOf members.responseMembers)
  | .other => ("", "")

/-! ## Demangling -/

/-- `std::regex_replace` of the double colons. -/
def replaceColons (typeNamespace : List Char) : List Char :=
  Text.replaceAll [':', ':'] ['/'] typeNamespace

/-- `demangle_if_ros_type`. -/
def demangleIfRosType (ddsTypeString : String) : String :=
  let s := ddsTypeString.toList
  match Text.find "dds_::".toList s with
  | some position =>
    if s.getLast? = some '_' then
      let start := position + "dds_::".toList.length
      String.ofList (replaceColons (s.take position) ++ (s.drop start).take (s.length - 1 - start))
    else ddsTypeString
  | none => ddsTypeString

/-- The loop of `demangle_service_type_only` over the suffixes: where the last one tried was found,
or the first one that ends the name. -/
def suffixPosition (s : List Char) : List (List Char) → Option Nat → Option Nat
  | [], position => position
  | suffix :: suffixes, _ =>
    match Text.rfind suffix s with
    | some position =>
      if s.length - position - suffix.length ≠ 0 then suffixPosition s suffixes (some position)
      else some position
    | none => suffixPosition s suffixes none

/-- `demangle_service_type_only`. -/
def demangleServiceTypeOnly (ddsTypeName : String) : String :=
  let s := ddsTypeName.toList
  match Text.find "dds_::".toList s with
  | none => ""
  | some nsPosition =>
    match suffixPosition s ["_Response_".toList, "_Request_".toList] none with
    | none => ""
    | some position =>
      let start := nsPosition + "dds_::".toList.length
      String.ofList (replaceColons (s.take nsPosition) ++
        -- the length of the substring wraps around
        if position < start then s.drop start else (s.drop start).take (position - start))

/-! ## Valid names -/

/-- The name of a package: letters, digits and single underscores, not ending in one. -/
structure PackageName (p : String) : Prop where
  chars : ∀ c ∈ p.toList, c.isAlphanum = true ∨ c = '_'
  single : Text.Apart '_' '_' p.toList
  last : p.toList.getLast? ≠ some '_'

/-- The folder of an interface: letters. -/
def FolderName (f : String) : Prop := ∀ c ∈ f.toList, c.isAlpha = true

/-- The namespace of the members in each language. -/
def messageNamespace (p f : String) : TypesupportIdentifier → String
  | .introspectionC => p ++ "__" ++ f
  | .introspectionCpp => p ++ "::" ++ f
  | .other => ""

/-- The name of a type in DDS. -/
def ddsTypeName (p f name : String) : String := p ++ "::" ++ f ++ "::" ++ "dds_::" ++ name ++ "_"

/-- The name of a type in ROS. -/
def rosTypeName (p f name : String) : String := p ++ "/" ++ f ++ "/" ++ name

section Creation

variable {p f name : String}

theorem PackageName.colon (h : PackageName p) : ':' ∉ p.toList := by
  intro mem
  rcases h.chars _ mem with letter | underscore
  · exact absurd letter (by decide)
  · exact absurd underscore (by decide)

theorem FolderName.colon (h : FolderName f) : ':' ∉ f.toList := fun mem =>
  absurd (h _ mem) (by decide)

theorem FolderName.underscore (h : FolderName f) : '_' ∉ f.toList := fun mem =>
  absurd (h _ mem) (by decide)

/-- Behind the name of a package, what does not begin with an underscore keeps underscores apart. -/
theorem PackageName.apart (h : PackageName p) {rest : List Char} (free : '_' ∉ rest) :
    Text.Apart '_' '_' (p.toList ++ rest) := by
  refine Text.apart_append.mpr ⟨h.single, Text.apart_of_notMem_left free, ?_⟩
  rintro a mem - - ⟨rfl, -⟩
  exact h.last mem

theorem replaceUnderscores_of_apart {s : List Char} {pos : Nat}
    (h : Text.Apart '_' '_' (s.drop pos)) : replaceUnderscores s pos = s := by
  have nothing : Text.findFrom ['_', '_'] s pos = none := by
    rw [Text.findFrom, Text.find_pair_of_apart h]
    rfl
  rw [replaceUnderscores]
  split
  · rename_i found
    exact nomatch nothing.symm.trans found
  · rfl

/-- The namespace of C becomes that of C++. -/
theorem replaceUnderscores_c (package : PackageName p) (folder : FolderName f) :
    replaceUnderscores (p.toList ++ '_' :: '_' :: f.toList) 0 =
      p.toList ++ ':' :: ':' :: f.toList := by
  have ends : Text.Apart '_' '_' (p.toList ++ ['_']) := by
    refine Text.apart_append.mpr ⟨package.single, List.isChain_singleton _, ?_⟩
    rintro a mem - - ⟨rfl, -⟩
    exact package.last mem
  have first : Text.findFrom ['_', '_'] (p.toList ++ '_' :: '_' :: f.toList) 0 =
      some p.toList.length := by
    rw [Text.findFrom, List.drop_zero,
      Text.find_pair_append (t := '_' :: '_' :: f.toList) ends ⟨f.toList, rfl⟩]
    rfl
  have replaced : replacePair (p.toList ++ '_' :: '_' :: f.toList) p.toList.length [':', ':'] =
      p.toList ++ ':' :: ':' :: f.toList := by
    simp [replacePair]
  rw [replaceUnderscores]
  split
  · rename_i position found
    obtain rfl := Option.some.inj (first.symm.trans found)
    rw [replaced]
    refine replaceUnderscores_of_apart (Text.apart_of_notMem_left ?_)
    rw [List.drop_left]
    simpa using folder.underscore
  · rename_i missing
    exact nomatch first.symm.trans missing

/-- The namespace of C++ is left as it is. -/
theorem replaceUnderscores_cpp (package : PackageName p) (folder : FolderName f) :
    replaceUnderscores (p.toList ++ ':' :: ':' :: f.toList) 0 =
      p.toList ++ ':' :: ':' :: f.toList := by
  refine replaceUnderscores_of_apart ?_
  rw [List.drop_zero]
  exact package.apart (by simpa using folder.underscore)

/-- **Both languages name a type alike.** -/
theorem createTypeNameOf_eq (package : PackageName p) (folder : FolderName f)
    {identifier : TypesupportIdentifier} (known : identifier ≠ .other) (name : String) :
    createTypeNameOf (some ⟨messageNamespace p f identifier, name⟩) = ddsTypeName p f name := by
  refine String.toList_inj.mp ?_
  cases identifier with
  | introspectionC =>
    simp [createTypeNameOf, messageNamespace, ddsTypeName, replaceUnderscores_c package folder]
  | introspectionCpp =>
    simp [createTypeNameOf, messageNamespace, ddsTypeName, replaceUnderscores_cpp package folder]
  | other => exact absurd rfl known

end Creation

section Demangling

variable {p f name : String}

/-- What comes before `dds_::`. -/
def namespaceChars (p f : String) : List Char :=
  p.toList ++ ':' :: ':' :: (f.toList ++ [':', ':'])

theorem ddsTypeName_toList : (ddsTypeName p f name).toList =
    namespaceChars p f ++ ("dds_::".toList ++ (name.toList ++ ['_'])) := by
  simp [ddsTypeName, namespaceChars]

/-- The first `dds_::` is the one that was put there. -/
theorem find_dds (package : PackageName p) (folder : FolderName f) :
    Text.find "dds_::".toList (ddsTypeName p f name).toList =
      some (namespaceChars p f).length := by
  rw [ddsTypeName_toList]
  refine Text.find_append (u := ['d', 'd', 's']) (v := [':']) (x := '_') (y := ':') ?_
    ⟨name.toList ++ ['_'], rfl⟩
  -- The package does not end in an underscore, and there is no other one.
  have behind : '_' ∉ ':' :: ':' :: (f.toList ++ [':', ':']) ++ ['d', 'd', 's'] := by
    simpa using folder.underscore
  have split : namespaceChars p f ++ (['d', 'd', 's'] ++ ['_']) =
      p.toList ++ (':' :: ':' :: (f.toList ++ [':', ':']) ++ ['d', 'd', 's'] ++ ['_']) := by
    simp [namespaceChars]
  rw [split]
  refine Text.apart_append.mpr ⟨Text.apart_of_notMem_right package.colon, ?_, ?_⟩
  · refine Text.apart_append.mpr
      ⟨Text.apart_of_notMem_left behind, List.isChain_singleton _, ?_⟩
    rintro a mem - - ⟨rfl, -⟩
    exact behind (List.mem_of_getLast? mem)
  · rintro a mem - - ⟨rfl, -⟩
    exact package.last mem

theorem take_ddsTypeName :
    (ddsTypeName p f name).toList.take (namespaceChars p f).length = namespaceChars p f := by
  rw [ddsTypeName_toList, List.take_left]

theorem drop_ddsTypeName :
    (ddsTypeName p f name).toList.drop ((namespaceChars p f).length + "dds_::".toList.length) =
      name.toList ++ ['_'] := by
  rw [ddsTypeName_toList, ← List.drop_drop, List.drop_left, List.drop_left]

theorem length_ddsTypeName : (ddsTypeName p f name).toList.length =
    (namespaceChars p f).length + "dds_::".toList.length + name.toList.length + 1 := by
  rw [ddsTypeName_toList]
  simp only [List.length_append, List.length_cons, List.length_nil]
  omega

/-- The colons become slashes. -/
theorem replaceColons_namespaceChars (package : PackageName p) (folder : FolderName f) :
    replaceColons (namespaceChars p f) = (p ++ "/" ++ f ++ "/").toList := by
  have ends {s : List Char} (free : ':' ∉ s) : Text.Apart ':' ':' (s ++ [':']) := by
    refine Text.apart_append.mpr
      ⟨Text.apart_of_notMem_left free, List.isChain_singleton _, ?_⟩
    rintro a mem - - ⟨rfl, -⟩
    exact free (List.mem_of_getLast? mem)
  unfold replaceColons namespaceChars
  rw [Text.replaceAll_pair_append (ends package.colon),
    Text.replaceAll_pair_append (ends folder.colon)]
  simp [Text.replaceAll, Text.replaceFrom]

/-- **The name of a type in DDS is taken back to that in ROS.** -/
theorem demangleIfRosType_ddsTypeName (package : PackageName p) (folder : FolderName f) :
    demangleIfRosType (ddsTypeName p f name) = rosTypeName p f name := by
  have last : (ddsTypeName p f name).toList.getLast? = some '_' := by
    rw [ddsTypeName_toList, ← List.append_assoc, ← List.append_assoc]
    exact List.getLast?_concat
  have length : (ddsTypeName p f name).toList.length - 1 -
      ((namespaceChars p f).length + "dds_::".toList.length) = name.toList.length := by
    rw [length_ddsTypeName]
    omega
  refine String.toList_inj.mp ?_
  simp only [demangleIfRosType, find_dds package folder, last, if_true, length, take_ddsTypeName,
    drop_ddsTypeName, List.take_left, String.toList_ofList,
    replaceColons_namespaceChars package folder]
  simp [rosTypeName]

/-! ### Services -/

/-- The loop goes past a suffix that does not end the name. -/
theorem suffixPosition_of_not {s suffix : List Char} {suffixes : List (List Char)}
    {position : Option Nat} (h : ∀ stem, s ≠ stem ++ suffix) :
    ∃ position', suffixPosition s (suffix :: suffixes) position =
      suffixPosition s suffixes position' := by
  cases found : Text.rfind suffix s with
  | none => exact ⟨none, by simp only [suffixPosition, found]⟩
  | some here =>
    have more : s.length - here - suffix.length ≠ 0 := fun last =>
      h _ (Text.eq_take_append_of_prefix (Text.prefix_of_rfind found) last)
    exact ⟨some here, by simp only [suffixPosition, found, if_pos more]⟩

/-- The loop stops at a suffix that ends the name. -/
theorem suffixPosition_append {stem suffix : List Char} {suffixes : List (List Char)}
    {position : Option Nat} (nonempty : suffix ≠ []) :
    suffixPosition (stem ++ suffix) (suffix :: suffixes) position = some stem.length := by
  have last : ¬ (stem ++ suffix).length - stem.length - suffix.length ≠ 0 := by
    rw [List.length_append]
    omega
  simp only [suffixPosition, Text.rfind_append nonempty, if_neg last]

/-- The name of a request does not end as that of a response does. -/
theorem request_ne_response {stem stem' : List Char} :
    stem ++ "_Request_".toList ≠ stem' ++ "_Response_".toList := by
  intro same
  have ends := congrArg (fun s : List Char => (s.reverse.take 3)) same
  simp at ends

/-- What stands before the suffix in the name of a message of a service. -/
def stemChars (p f name : String) : List Char :=
  namespaceChars p f ++ "dds_::".toList ++ name.toList

theorem ddsTypeName_suffix {suffix : String} : (ddsTypeName p f (name ++ suffix)).toList =
    stemChars p f name ++ (suffix ++ "_").toList := by
  simp [ddsTypeName_toList, stemChars]

/-- What is left of a name between the marker and where the suffix was found. -/
theorem demangleServiceTypeOnly_eq {s : String} {position place : Nat}
    (marked : Text.find "dds_::".toList s.toList = some position)
    (found : suffixPosition s.toList ["_Response_".toList, "_Request_".toList] none = some place) :
    demangleServiceTypeOnly s = String.ofList (replaceColons (s.toList.take position) ++
      if place < position + 6 then s.toList.drop (position + 6)
      else (s.toList.drop (position + 6)).take (place - (position + 6))) := by
  simp only [demangleServiceTypeOnly, marked, found]
  rfl

/-- What is left of a name without its suffix. -/
theorem demangleServiceTypeOnly_of (package : PackageName p) (folder : FolderName f)
    {suffix : String}
    (position : suffixPosition (ddsTypeName p f (name ++ suffix)).toList
      ["_Response_".toList, "_Request_".toList] none = some (stemChars p f name).length) :
    demangleServiceTypeOnly (ddsTypeName p f (name ++ suffix)) = rosTypeName p f name := by
  have length : (stemChars p f name).length =
      (namespaceChars p f).length + 6 + name.toList.length := by
    rw [stemChars, List.length_append, List.length_append]
    rfl
  have drop : (ddsTypeName p f (name ++ suffix)).toList.drop ((namespaceChars p f).length + 6) =
      (name ++ suffix).toList ++ ['_'] := drop_ddsTypeName
  rw [demangleServiceTypeOnly_eq (find_dds package folder) position, length, if_neg (by omega),
    Nat.add_sub_cancel_left, take_ddsTypeName, drop, replaceColons_namespaceChars package folder]
  refine String.toList_inj.mp ?_
  simp [rosTypeName]

/-- **The names of a service's messages are taken back to that of the service.** -/
theorem demangleServiceTypeOnly_ddsTypeName (package : PackageName p) (folder : FolderName f) :
    demangleServiceTypeOnly (ddsTypeName p f (name ++ "_Request")) = rosTypeName p f name ∧
      demangleServiceTypeOnly (ddsTypeName p f (name ++ "_Response")) = rosTypeName p f name := by
  constructor
  · refine demangleServiceTypeOnly_of package folder ?_
    rw [ddsTypeName_suffix]
    -- The suffix of a response may occur, but not at the end.
    obtain ⟨_, next⟩ := @suffixPosition_of_not (stemChars p f name ++ "_Request_".toList) _
      ["_Request_".toList] none fun stem => request_ne_response
    exact next.trans (suffixPosition_append (by decide))
  · refine demangleServiceTypeOnly_of package folder ?_
    rw [ddsTypeName_suffix]
    exact suffixPosition_append (by decide)

end Demangling

/-- **Type names agree across the languages and are demangled.** For a valid package and folder and
any type in it, the members of both languages give one name, which is taken back to the type in ROS,
and so are the names of the two messages of a service. -/
theorem typeNames_agree (p f name : String) (package : PackageName p) (folder : FolderName f) :
    createTypeName (some ⟨p ++ "__" ++ f, name⟩) .introspectionC =
        createTypeName (some ⟨p ++ "::" ++ f, name⟩) .introspectionCpp ∧
      (∀ identifier : TypesupportIdentifier, identifier ≠ .other →
        demangleIfRosType
          (createTypeName (some ⟨messageNamespace p f identifier, name⟩) identifier) =
            rosTypeName p f name) ∧
      ∀ identifier : TypesupportIdentifier, identifier ≠ .other →
        let names := createServiceTypeName
          (some {
            requestMembers := some ⟨messageNamespace p f identifier, name ++ "_Request"⟩
            responseMembers := some ⟨messageNamespace p f identifier, name ++ "_Response"⟩ })
          identifier
        demangleServiceTypeOnly names.1 = rosTypeName p f name ∧
          demangleServiceTypeOnly names.2 = rosTypeName p f name := by
  have named {identifier : TypesupportIdentifier} (known : identifier ≠ .other) (name : String) :=
    createTypeNameOf_eq package folder known name
  refine ⟨?_, fun identifier known => ?_, fun identifier known => ?_⟩
  · exact (@named .introspectionC (by decide) name).trans
      (@named .introspectionCpp (by decide) name).symm
  · have created : createTypeName (some ⟨messageNamespace p f identifier, name⟩) identifier =
        ddsTypeName p f name := by
      refine Eq.trans ?_ (named known name)
      cases identifier with
      | other => exact absurd rfl known
      | _ => rfl
    rw [created]
    exact demangleIfRosType_ddsTypeName package folder
  · have created : createServiceTypeName
        (some {
          requestMembers := some ⟨messageNamespace p f identifier, name ++ "_Request"⟩
          responseMembers := some ⟨messageNamespace p f identifier, name ++ "_Response"⟩ })
        identifier =
        (ddsTypeName p f (name ++ "_Request"), ddsTypeName p f (name ++ "_Response")) := by
      rw [← named known, ← named known]
      cases identifier with
      | other => exact absurd rfl known
      | _ => rfl
    rw [created]
    exact demangleServiceTypeOnly_ddsTypeName package folder

/-- A type with both suffixes in its name. -/
theorem typeNames_agree_responseRequest :
    demangleServiceTypeOnly (createServiceTypeName
        (some {
          requestMembers := some ⟨"my_pkg__srv", "X_Response_Y_Request_Request"⟩
          responseMembers := some ⟨"my_pkg__srv", "X_Response_Y_Request_Response"⟩ })
        .introspectionC).1 = "my_pkg/srv/X_Response_Y_Request" := by
  have chars : "my_pkg".toList.all (fun c => c.isAlphanum || c == '_') = true := by decide
  have package : PackageName "my_pkg" :=
    ⟨fun c mem => by simpa using List.all_eq_true.mp chars c mem, by decide, by decide⟩
  have folder : FolderName "srv" :=
    List.all_eq_true.mp (show "srv".toList.all Char.isAlpha = true by decide)
  exact ((typeNames_agree "my_pkg" "srv" "X_Response_Y_Request" package folder).2.2
    .introspectionC (by decide)).1

end Names

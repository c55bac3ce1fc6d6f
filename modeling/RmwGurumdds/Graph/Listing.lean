import Mathlib.Data.Set.Card
import RmwGurumdds.Graph.Convergence
import RmwGurumdds.Graph.Counts
import RmwGurumdds.Graph.Naming

/-!
# What the graph lists

A user asks a context for all topics, or all services, with their types. The graph cache goes
through its entries and takes each apart with the functions it is passed.

So what is listed are the names of the endpoints the context has entries of: of its own, those alive
that it was told of; of the others, once it has been told of everything, those that have a writer
and are alive, and those that ever had a reader (`names_listed_iff`). In particular services stay in
the lists of the other contexts when they are gone.
-/

namespace Graph

open Wire Rmw Store Exec Names

/-! ## The queries -/

/-- `rmw_names_and_types_t`: names, each with its types. -/
abbrev NamesAndTypes := List (String × List String)

/-- A name is listed with a type. -/
def NamesAndTypes.Lists (listed : NamesAndTypes) (name type : String) : Prop :=
  ∃ types, (name, types) ∈ listed ∧ type ∈ types

section Functions

variable {σ : Type} (getNamesAndTypes : Demangling → σ → RmwRet × NamesAndTypes)

end Functions

section Site

variable {ι σ : Type} [DecidableEq ι] (site : Site ι σ) (n : Network ι σ) (ms : List (Move ι))

/-- What a context `j` lists of the readers, or of the writers, of a context `i`. -/
def Site.Heard (j : ι) (isReader : Bool) (i : ι) (e : Endpoint) : Prop :=
  if i = j then e ∈ ((site.after n ms).session j).alive ∧ e.Told (site.range j)
  else if isReader then ∃ node, Move.call i (.create node e) ∈ ms
  else e ∈ ((site.after n ms).session i).alive

/-- A context has been told of everything. -/
def Site.Informed (j : ι) : Prop :=
  ∀ i, i ≠ j → ∀ isReader, ((site.after n ms).feed i isReader).CaughtUp j

/-- Nothing has been created, and no graph lists anything. -/
structure Site.Blank : Prop extends site.Fresh n where
  blank : ∀ j isReader gid, site.table n j isReader gid = none

/-- DDS gives a gid to one endpoint only. -/
def GivenOnce : Prop :=
  ∀ i node node' e f isReader gid, Move.call i (.create node e) ∈ ms →
    Move.call i (.create node' f) ∈ ms → e.gid isReader = some gid → f.gid isReader = some gid →
    e = f

end Site

section Entries

variable {own : Gid} {isReader : Bool} {gid : Gid} {info : EntityInfo} {ns : List News}

/-- What is held came at some point. -/
theorem exists_comes_of_held {drops : Bool}
    (entry : held own drops isReader gid ns = some info) :
    ∃ e, News.comes e ∈ ns ∧ e.gid isReader = some gid ∧ e.info own isReader = some info := by
  induction ns using List.reverseRecOn with
  | nil => cases entry
  | append_singleton ns news ih =>
    have earlier (entry : held own drops isReader gid ns = some info) :
        ∃ e, News.comes e ∈ ns ++ [news] ∧ e.gid isReader = some gid ∧
          e.info own isReader = some info := by
      obtain ⟨e, mem, has⟩ := ih entry
      exact ⟨e, List.mem_append_left _ mem, has⟩
    rw [held_concat] at entry
    cases news with
    | comes e =>
      rw [kept] at entry
      split at entry
      · rename_i has
        rcases Option.or_eq_some_iff.mp entry with before | ⟨-, told⟩
        · exact earlier before
        · exact ⟨e, by simp, has, told⟩
      · exact earlier entry
    | goes e =>
      rw [kept] at entry
      split at entry
      · cases entry
      · exact earlier entry

end Entries

section Site

variable {ι σ : Type} [DecidableEq ι] {site : Site ι σ} {n : Network ι σ} {ms : List (Move ι)}
  {i j : ι} {isReader : Bool} {gid : Gid}

/-- Under a gid that is nobody's there is what there was. -/
theorem Site.Fresh.table_foreign (fresh : site.Fresh n) (lawful : site.Lawful)
    (admits : site.AdmitsAll n ms) (foreign : ∀ i, ¬ site.Of i gid) :
    site.table (site.after n ms) j isReader gid = site.table n j isReader gid := by
  induction ms using List.reverseRecOn with
  | nil => rfl
  | append_singleton ms m ih =>
    obtain ⟨before, admitted⟩ := each_concat.mp admits
    have sound := (fresh.always_sound lawful before).last
    refine Eq.trans ?_ (ih before)
    rw [Site.after_concat]
    cases m with
    | call i c =>
      rcases eq_or_ne j i with rfl | ne
      · rw [Site.table, session_call]
        exact (sound.steps lawful admitted).others isReader gid (foreign j)
      · rw [Site.table, session_call_of_ne ne]
        rfl
    | deliver i table l =>
      cases next : ((site.after n ms).feed i table).next l with
      | none => simp [Site.step, next]
      | some news =>
        obtain ⟨known, side⟩ := sound.news i table news (Feed.next_mem next)
        obtain ⟨told, has⟩ := Option.isSome_iff_exists.mp side
        have done := sound.delivered lawful next known has
        rcases eq_or_ne j l with rfl | ne
        · rw [done.tables]
          split
          · rfl
          · refine Site.receive_of_ne ?_
            rintro rfl
            exact foreign i (known.gid table gid has).1
        · rw [Site.table, done.session j ne]
          rfl

/-- What is heard of is as it should be. -/
theorem Site.Fresh.known_of_heard (fresh : site.Fresh n) (lawful : site.Lawful)
    (admits : site.AdmitsAll n ms) {e : Endpoint} (heard : site.Heard n ms j isReader i e)
    (has : e.gid isReader = some gid) : site.Known i e := by
  have sound := (fresh.always_sound lawful admits).last
  rw [Site.Heard] at heard
  split at heard
  · rename_i here
    subst here
    exact sound.known i e heard.1
  · split at heard
    · obtain ⟨node, called⟩ := heard
      have mem := ((created_iff i isReader lawful fresh admits).1 e).mpr
        ⟨by simp [has], node, called⟩
      exact (sound.news i isReader _ mem).1
    · exact sound.known i e heard

/-- What is left of all news of a context: its writers that are alive, and every reader it had. -/
theorem Site.Fresh.held_iff (fresh : site.Fresh n) (lawful : site.Lawful)
    (admits : site.AdmitsAll n ms) (once : GivenOnce ms) (other : i ≠ j) {info : EntityInfo} :
    held (site.own i) (!isReader) isReader gid ((site.after n ms).feed i isReader).log =
        some info ↔
      ∃ e, site.Heard n ms j isReader i e ∧ e.gid isReader = some gid ∧
        e.info (site.own i) isReader = some info := by
  have sound := (fresh.always_sound lawful admits).last
  simp only [Site.Heard, if_neg other]
  cases isReader with
  | false =>
    simp only [Bool.false_eq_true, if_false, Bool.not_false]
    refine (sound.logged i false gid info).trans ?_
    simp only [Listed, true_and]
  | true =>
    simp only [if_true, Bool.not_true]
    have created := (created_iff i true lawful fresh admits).1
    constructor
    · intro entry
      obtain ⟨e, mem, has, said⟩ := exists_comes_of_held entry
      obtain ⟨-, node, called⟩ := (created e).mp mem
      exact ⟨e, ⟨node, called⟩, has, said⟩
    · rintro ⟨e, ⟨node, called⟩, has, said⟩
      have mem := (created e).mpr ⟨by simp [has], node, called⟩
      have some_ : (held (site.own i) false true gid
          ((site.after n ms).feed i true).log).isSome :=
        (held_isSome_iff fun f mem has =>
          ((sound.news i true _ mem).1.gid true gid has).2.2).mpr ⟨e, mem, has⟩
      obtain ⟨info', entry⟩ := Option.isSome_iff_exists.mp some_
      -- Whoever left the entry has the gid, and so it is the same reader.
      obtain ⟨f, mem', has', said'⟩ := exists_comes_of_held entry
      obtain ⟨-, node', called'⟩ := (created f).mp mem'
      obtain rfl := once i node node' e f true gid called called' has has'
      rw [entry, ← said, said']

variable (isReader gid) in
/-- **What an informed context has an entry of is what it has heard of**, as far as announcements
tell. -/
theorem Site.Blank.disclosed_iff (blank : site.Blank n) (lawful : site.Lawful)
    (admits : site.AdmitsAll n ms) (once : GivenOnce ms) (informed : site.Informed n ms j)
    (same : ∀ i, site.host i = site.host j) (info : EntityInfo) :
    (site.table (site.after n ms) j isReader gid).map EntityInfo.disclosed = some info ↔
      ∃ i e, site.Heard n ms j isReader i e ∧ e.gid isReader = some gid ∧
        (e.info (site.own i) isReader).map EntityInfo.disclosed = some info := by
  have fresh := blank.toFresh
  have sound := (fresh.always_sound lawful admits).last
  by_cases somebody : ∃ i, site.Of i gid
  · obtain ⟨i, of⟩ := somebody
    have alone : (∃ k e, site.Heard n ms j isReader k e ∧ e.gid isReader = some gid ∧
          (e.info (site.own k) isReader).map EntityInfo.disclosed = some info) ↔
        ∃ e, site.Heard n ms j isReader i e ∧ e.gid isReader = some gid ∧
          (e.info (site.own i) isReader).map EntityInfo.disclosed = some info := by
      constructor
      · rintro ⟨k, e, heard, has, said⟩
        have known := fresh.known_of_heard lawful admits heard has
        obtain rfl := lawful.of_unique (known.gid isReader gid has).1 of
        exact ⟨e, heard, has, said⟩
      · exact fun here => ⟨i, here⟩
    rw [alone]
    by_cases here : i = j
    · subst here
      simp only [Site.Heard, if_true, Option.map_eq_some_iff]
      constructor
      · rintro ⟨entry, there, rfl⟩
        obtain ⟨e, mem, told, has, said⟩ := (sound.mine i isReader gid entry of).mp there
        exact ⟨e, ⟨mem, told⟩, has, entry, said, rfl⟩
      · rintro ⟨e, ⟨mem, told⟩, has, entry, said, rfl⟩
        exact ⟨entry, (sound.mine i isReader gid entry of).mpr ⟨e, mem, told, has, said⟩, rfl⟩
    · have entries := sound.theirs i j isReader gid (Ne.symm here) (same i) of
      rw [(informed i here isReader).seen, Site.entry] at entries
      simp only [entries, Option.map_eq_some_iff, fresh.held_iff lawful admits once here]
      constructor
      · rintro ⟨entry, ⟨e, heard, has, said⟩, rfl⟩
        exact ⟨e, heard, has, entry, said, rfl⟩
      · rintro ⟨e, heard, has, entry, said, rfl⟩
        exact ⟨entry, ⟨e, heard, has, said⟩, rfl⟩
  · have nobody : ∀ i, ¬ site.Of i gid := not_exists.mp somebody
    rw [fresh.table_foreign lawful admits nobody, blank.blank, Option.map_none]
    refine iff_of_false (by simp) ?_
    rintro ⟨i, e, heard, has, -⟩
    exact nobody i ((fresh.known_of_heard lawful admits heard has).gid isReader gid has).1

variable (isReader gid) in
/-- The same of topics and types. -/
theorem Site.Blank.label_iff (blank : site.Blank n) (lawful : site.Lawful)
    (admits : site.AdmitsAll n ms) (once : GivenOnce ms) (informed : site.Informed n ms j)
    (same : ∀ i, site.host i = site.host j) (label : String × String) :
    (site.table (site.after n ms) j isReader gid).map EntityInfo.label = some label ↔
      ∃ i e, site.Heard n ms j isReader i e ∧ e.gid isReader = some gid ∧
        e.label isReader = some label := by
  have through (entry : Option EntityInfo) : entry.map EntityInfo.label = some label ↔
      ∃ info, entry.map EntityInfo.disclosed = some info ∧ info.label = label := by
    cases entry <;> simp
  rw [through]
  simp only [blank.disclosed_iff isReader gid lawful admits once informed same]
  constructor
  · rintro ⟨_, ⟨i, e, heard, has, said⟩, rfl⟩
    obtain ⟨entry, told, rfl⟩ := Option.map_eq_some_iff.mp said
    rw [EntityInfo.label_disclosed]
    exact ⟨i, e, heard, has, Endpoint.label_of_info told⟩
  · rintro ⟨i, e, heard, has, labelled⟩
    have known := blank.known_of_heard lawful admits heard has
    obtain ⟨info, said⟩ := Option.isSome_iff_exists.mp (known.gid isReader gid has).2.2
    refine ⟨info.disclosed, ⟨i, e, heard, has, by rw [said]; rfl⟩, ?_⟩
    exact Option.some.inj ((Endpoint.label_of_info said).symm.trans labelled)

/-- Only endpoints on ROS names with interface types are created. -/
def Conventional (ms : List (Move ι)) : Prop :=
  ∀ i node e, Move.call i (.create node e) ∈ ms → ∃ kind name type, e.On kind name type

/-- What is heard of was created. -/
theorem Site.Fresh.created_of_heard (fresh : site.Fresh n) (lawful : site.Lawful)
    (admits : site.AdmitsAll n ms) {e : Endpoint} (heard : site.Heard n ms j isReader i e) :
    ∃ node, Move.call i (.create node e) ∈ ms := by
  have alive := (created_iff i isReader lawful fresh admits).2
  rw [Site.Heard] at heard
  split at heard
  · rename_i here
    subst here
    exact alive e heard.1
  · split at heard
    · exact heard
    · exact alive e heard

/-- One topic is of one kind, and on one name. -/
theorem mangle_inj {kind other : TopicKind} {name name' : String} (absolute : Absolute name)
    (absolute' : Absolute name') :
    kind.mangle name = other.mangle name' ↔ kind = other ∧ name = name' := by
  constructor
  · intro same
    obtain rfl : kind = other := by
      by_contra differ
      exact mangle_ne differ same
    refine ⟨rfl, ?_⟩
    exact (demangle_mangle absolute).symm.trans
      ((congrArg kind.demangle same).trans (demangle_mangle absolute'))
  · rintro ⟨rfl, rfl⟩
    rfl

/-- An endpoint of a kind has the topic of what the kind reads, or writes. -/
theorem Endpoint.On.label_eq {e : Endpoint} {kind : EndpointKind} {name : String}
    {type : Interface} (on : e.On kind name type) {what : TopicKind}
    (side : kind.side isReader = some what) : ∃ identifier : TypesupportIdentifier,
      identifier ≠ .other ∧
        e.label isReader = some (what.mangle name, type.typeOn identifier what) := by
  obtain ⟨identifier, known, labels⟩ := on.label
  exact ⟨identifier, known, by rw [labels, side, Option.map_some]⟩

omit [DecidableEq ι] in
/-- Who has a topic under ROS conventions is of the kind that has it. -/
theorem Conventional.on_topic (conventional : Conventional ms) {what : TopicKind}
    {kind : EndpointKind}
    (only : ∀ other : EndpointKind, other.side isReader = some what ↔ other = kind) {name : String}
    (absolute : Absolute name) {node : RmwNode} {e : Endpoint}
    (called : Move.call i (.create node e) ∈ ms) {typeName : String}
    (labelled : e.label isReader = some (what.mangle name, typeName)) :
    ∃ type, e.On kind name type := by
  obtain ⟨kind', name', type, on⟩ := conventional i node e called
  obtain ⟨identifier, -, labels⟩ := on.label
  obtain ⟨what', side, topic⟩ := Option.map_eq_some_iff.mp ((labels isReader).symm.trans labelled)
  obtain ⟨rfl, rfl⟩ := (mangle_inj on.absolute absolute).mp (congrArg Prod.fst topic)
  obtain rfl := (only kind').mp side
  exact ⟨type, on⟩

/-- What is counted on a topic under ROS conventions, where endpoints of one kind have it. -/
theorem Site.Blank.count_eq (blank : site.Blank n) (lawful : site.Lawful)
    (admits : site.AdmitsAll n ms) (once : GivenOnce ms) (informed : site.Informed n ms j)
    (same : ∀ i, site.host i = site.host j) (conventional : Conventional ms)
    {getCount : Bool → String → σ → Nat} (counts : site.cc.CountsBy getCount)
    {what : TopicKind} {kind : EndpointKind}
    (only : ∀ other : EndpointKind, other.side isReader = some what ↔ other = kind) {name : String}
    (absolute : Absolute name) :
    getCount isReader (what.mangle name) ((site.after n ms).session j).ctx.commonCtx =
      {gid | ∃ i e type, site.Heard n ms j isReader i e ∧ e.gid isReader = some gid ∧
        e.On kind name type}.ncard := by
  rw [counts]
  congr 1
  ext gid
  have entries (label : String × String) :=
    blank.label_iff isReader gid lawful admits once informed same label
  have topics : topicOf (site.cc.graphCache.tables ((site.after n ms).session j).ctx.commonCtx)
        isReader gid = some (what.mangle name) ↔
      ∃ typeName, (site.table (site.after n ms) j isReader gid).map EntityInfo.label =
        some (what.mangle name, typeName) := by
    rw [topicOf, Site.table]
    cases site.cc.graphCache.tables ((site.after n ms).session j).ctx.commonCtx isReader gid with
    | none => simp
    | some info => simp [EntityInfo.label]
  rw [Set.mem_ofPred_eq, topics, Set.mem_ofPred_eq]
  simp only [entries]
  constructor
  · rintro ⟨typeName, i, e, heard, has, labelled⟩
    obtain ⟨node, called⟩ := blank.created_of_heard lawful admits heard
    obtain ⟨type, on⟩ := conventional.on_topic only absolute called labelled
    exact ⟨i, e, type, heard, has, on⟩
  · rintro ⟨i, e, type, heard, has, on⟩
    obtain ⟨identifier, -, labelled⟩ := on.label_eq ((only kind).mpr rfl)
    exact ⟨_, i, e, heard, has, labelled⟩

end Site

/-! ## Samples -/

end Graph

import Mathlib.Logic.Function.Basic
import RmwGurumdds.Exec.Feeds
import RmwGurumdds.Graph.Disclosure

/-!
# Contexts that discover each other

Several contexts share a DDS domain. Each keeps a graph of its own; its users create and destroy
endpoints in it, and DDS tells every context of the readers and the writers of the others, one after
the other in the order in which they came and went, but some time later and to each context at its
own pace.

What a graph says under one context's gids is a function of what that context's feeds have told so
far. `Site.Sound` is the invariant that says so. A call changes the entries of one graph under the
gids of its own context (`Site.Sound.call`), a delivery those of one graph under the gids of another
(`Site.Sound.deliver`).
-/

namespace Graph

open Wire Rmw Store Exec

/-! ## The network -/

/-- The contexts in use, and for each of them what DDS has to tell of its writers and its
readers. -/
structure Network (ι σ : Type) where
  session : ι → Session σ
  feed : ι → (isReader : Bool) → Feed News ι

/-- What happens next. -/
inductive Move (ι : Type) where
  | call (i : ι) (call : Call)
  | deliver (i : ι) (isReader : Bool) (j : ι)

/-- Where the contexts run, and what DDS makes of them: the gid of a participant is its prefix with
a fixed entity, and whether a gid is a reader's is told by the gid. -/
structure Site (ι σ : Type) where
  cc : CommonContext σ
  range : ι → AutomaticDiscoveryRange
  host : ι → ByteOrder
  guidPrefix : ι → Vector Byte 12
  dds : Announcer
  isReaderGid : Gid → Bool

/-- What a call gives DDS to tell. Where there is no DDS entity, there is nothing. -/
def Session.news {σ : Type} (cc : CommonContext σ) (range : AutomaticDiscoveryRange)
    (s : Session σ) : Call → List News
  | .create node e => if (exec (Ctx.create cc range node e) s.ctx).1 then [.comes e] else []
  | .destroy node e =>
    if (exec (Ctx.destroy cc node .ok e) s.ctx).1 = .ok then [.goes e] else []

/-- The endpoint in question has a reader, or a writer. -/
def News.concerns (isReader : Bool) (news : News) : Bool := (news.endpoint.gid isReader).isSome

section Site

variable {ι σ : Type} [DecidableEq ι] (site : Site ι σ)

/-- One move. -/
def Site.step (n : Network ι σ) : Move ι → Network ι σ
  | .call i call =>
    let news := (n.session i).news site.cc (site.range i) call
    { session := Function.update n.session i ((n.session i).step site.cc (site.range i) call)
      feed := Function.update n.feed i fun isReader =>
        (n.feed i isReader).append (news.filter (News.concerns isReader)) }
  | .deliver i isReader j =>
    match (n.feed i isReader).next j with
    | none => n
    | some news =>
      let told := Ctx.discover site.cc (site.host j) (site.dds.discovery isReader news)
      { session := Function.update n.session j
          { n.session j with ctx := (exec told (n.session j).ctx).2 }
        feed := Function.update n.feed i
          (Function.update (n.feed i) isReader ((n.feed i isReader).advance j)) }

/-- The network after some moves. -/
def Site.after (n : Network ι σ) (ms : List (Move ι)) : Network ι σ := run site.step n ms

/-- The gid of a context's participant. -/
def Site.own (i : ι) : Gid :=
  guidToGid { guidPrefix := site.guidPrefix i, entityId := entityIdParticipant (site.host i) }

/-- A gid of a context. -/
def Site.Of (i : ι) (gid : Gid) : Prop := gid.toList.take 12 = (site.guidPrefix i).toList

/-- What a graph says under a gid. -/
def Site.table (n : Network ι σ) (j : ι) (isReader : Bool) (gid : Gid) : Option EntityInfo :=
  site.cc.graphCache.tables (n.session j).ctx.commonCtx isReader gid

/-- What it says of that which DDS tells. -/
def Site.entry (n : Network ι σ) (j : ι) (isReader : Bool) (gid : Gid) : Option EntityInfo :=
  (site.table n j isReader gid).map EntityInfo.disclosed

/-- No two participants have one prefix, and what the graph is built on can be relied on. -/
structure Site.Lawful : Prop where
  common : site.cc.Lawful
  succeeds : site.cc.NodeGraphSucceeds
  apart : ∀ i j, site.guidPrefix i = site.guidPrefix j → i = j

/-- What DDS and the users see to: beside what each session admits, that DDS tells the truth about
the endpoints that are created. -/
def Site.Admits (n : Network ι σ) : Move ι → Prop
  | .call i call => (n.session i).Admits call ∧ ∀ node e, call = .create node e →
      site.dds.Tells e ∧ ∀ isReader gid, e.gid isReader = some gid → site.isReaderGid gid = isReader
  | .deliver .. => True

/-- Nothing has been created, and no graph lists anything of any of the contexts. -/
structure Site.Fresh (n : Network ι σ) : Prop where
  own : ∀ i, (n.session i).ctx.gid = site.own i
  alive : ∀ i, (n.session i).alive = []
  unlisted : ∀ i j isReader gid, site.Of i gid → site.table n j isReader gid = none
  feed : ∀ i isReader, n.feed i isReader = Feed.empty

end Site

/-! ## Listings -/

/-- Of the endpoints `alive`, one that meets `P` has this gid, and this is what is known of it. -/
def Listed (own : Gid) (P : Endpoint → Prop) (alive : List Endpoint) (isReader : Bool) (gid : Gid)
    (info : EntityInfo) : Prop :=
  ∃ e ∈ alive, P e ∧ e.gid isReader = some gid ∧ e.info own isReader = some info

/-- What is kept under a gid when news arrives. -/
def kept (own : Gid) (drops isReader : Bool) (gid : Gid) (h : Option EntityInfo) :
    News → Option EntityInfo
  | .comes e => if e.gid isReader = some gid then h.or (e.info own isReader) else h
  | .goes e => if drops ∧ e.gid isReader = some gid then none else h

/-- What is kept under a gid after some news. -/
def held (own : Gid) (drops isReader : Bool) (gid : Gid) (ns : List News) : Option EntityInfo :=
  run (kept own drops isReader gid) none ns

section Listings

variable {own : Gid} {P : Endpoint → Prop} {alive : List Endpoint} {e : Endpoint}
  {drops isReader : Bool} {gid : Gid} {info : EntityInfo} {ns : List News} {news : News}

/-- A new endpoint has its gids to itself. -/
theorem listed_cons (free : ∀ other ∈ alive, e.Apart other) :
    Listed own P (e :: alive) isReader gid info ↔
      if e.gid isReader = some gid then P e ∧ e.info own isReader = some info
      else Listed own P alive isReader gid info := by
  simp only [Listed, List.mem_cons, exists_eq_or_imp]
  split
  · rename_i has
    refine ⟨?_, fun here => .inl ⟨here.1, has, here.2⟩⟩
    rintro (⟨here, -, told⟩ | ⟨other, mem, -, same, -⟩)
    · exact ⟨here, told⟩
    · exact absurd same (free other mem isReader gid has)
  · rename_i hasNot
    exact or_iff_right fun here => hasNot here.2.1

/-- With an endpoint go the entries under its gids. -/
theorem listed_erase (mem : e ∈ alive) (apart : alive.Pairwise Endpoint.Apart) :
    Listed own P (alive.erase e) isReader gid info ↔
      ¬ e.gid isReader = some gid ∧ Listed own P alive isReader gid info := by
  have perm := List.perm_cons_erase mem
  have others := (List.pairwise_cons.mp ((perm.pairwise_iff Endpoint.Apart.symm).mp apart)).1
  constructor
  · rintro ⟨f, stays, here, has, told⟩
    exact ⟨(others f stays).symm isReader gid has, f, List.mem_of_mem_erase stays, here, has, told⟩
  · rintro ⟨hasNot, f, there, here, has, told⟩
    rcases List.mem_cons.mp (perm.subset there) with rfl | stays
    · exact absurd has hasNot
    · exact ⟨f, stays, here, has, told⟩

@[simp] theorem held_nil : held own drops isReader gid [] = none := rfl

theorem held_concat :
    held own drops isReader gid (ns ++ [news]) =
      kept own drops isReader gid (held own drops isReader gid ns) news := run_concat

/-- News of other gids makes no difference. -/
theorem kept_of_ne {h : Option EntityInfo} (other : news.endpoint.gid isReader ≠ some gid) :
    kept own drops isReader gid h news = h := by
  cases news with
  | comes e => exact if_neg other
  | goes e => exact if_neg fun here => other here.2

/-- What does not concern readers, or writers, makes no difference to them. -/
theorem held_append_filter :
    held own drops isReader gid (ns ++ [news].filter (News.concerns isReader)) =
      kept own drops isReader gid (held own drops isReader gid ns) news := by
  cases side : news.concerns isReader with
  | true => rw [List.filter_cons_of_pos side, List.filter_nil, held_concat]
  | false =>
    have unconcerned : news.endpoint.gid isReader = none := by
      simpa [News.concerns] using side
    rw [List.filter_cons_of_neg (by simp [side]), List.filter_nil, List.append_nil,
      kept_of_ne (by simp [unconcerned])]

/-- There is nothing under a gid that no news is about. -/
theorem held_of_unconcerned (h : ∀ news ∈ ns, news.endpoint.gid isReader ≠ some gid) :
    held own drops isReader gid ns = none := by
  induction ns using List.reverseRecOn with
  | nil => rfl
  | append_singleton ns news ih =>
    rw [held_concat, kept_of_ne (h news (by simp))]
    exact ih fun other mem => h other (List.mem_append_left _ mem)

/-- **What never drops anything holds all that ever came.** -/
theorem held_isSome_iff
    (told : ∀ e, News.comes e ∈ ns → e.gid isReader = some gid → (e.info own isReader).isSome) :
    (held own false isReader gid ns).isSome ↔
      ∃ e, News.comes e ∈ ns ∧ e.gid isReader = some gid := by
  induction ns using List.reverseRecOn with
  | nil => simp
  | append_singleton ns news ih =>
    have ih := ih fun e mem => told e (List.mem_append_left _ mem)
    rw [held_concat]
    cases news with
    | goes e => simpa [kept] using ih
    | comes e =>
      by_cases has : e.gid isReader = some gid
      · have told := told e (by simp) has
        simp only [kept, if_pos has, Option.isSome_or, told, Bool.or_true, true_iff]
        exact ⟨e, by simp, has⟩
      · simp only [kept, if_neg has, ih, List.mem_append, List.mem_singleton, News.comes.injEq]
        constructor
        · rintro ⟨f, mem, has⟩
          exact ⟨f, .inl mem, has⟩
        · rintro ⟨f, mem | rfl, has'⟩
          · exact ⟨f, mem, has'⟩
          · exact absurd has' has

end Listings

/-! ## What every move keeps -/

section Site

variable {ι σ : Type} {site : Site ι σ} {n : Network ι σ}

/-- An endpoint of the context `i` as it should be: DDS tells the truth about it, and its gids are
the context's, each of its kind, with something to be said of it. -/
structure Site.Known (site : Site ι σ) (i : ι) (e : Endpoint) : Prop where
  tells : site.dds.Tells e
  gid : ∀ isReader gid, e.gid isReader = some gid →
    site.Of i gid ∧ site.isReaderGid gid = isReader ∧ (e.info (site.own i) isReader).isSome

/-- **What every move keeps.** A graph says of its own context what its users hold and it was told
of; of another one, what is left of the news that got through. And news is about endpoints, such
that it comes to those alive. -/
structure Site.Sound (site : Site ι σ) (n : Network ι σ) : Prop where
  own : ∀ i, (n.session i).ctx.gid = site.own i
  apart : ∀ i, (n.session i).alive.Pairwise Endpoint.Apart
  known : ∀ i, ∀ e ∈ (n.session i).alive, site.Known i e
  news : ∀ i isReader, ∀ news ∈ (n.feed i isReader).log,
    site.Known i news.endpoint ∧ (news.endpoint.gid isReader).isSome
  mine : ∀ i isReader gid info, site.Of i gid → (site.table n i isReader gid = some info ↔
    Listed (site.own i) (Endpoint.Told (site.range i)) (n.session i).alive isReader gid info)
  logged : ∀ i isReader gid info,
    held (site.own i) true isReader gid (n.feed i isReader).log = some info ↔
      Listed (site.own i) (fun _ => True) (n.session i).alive isReader gid info
  theirs : ∀ i j isReader gid, j ≠ i → site.host i = site.host j → site.Of i gid →
    site.entry n j isReader gid =
      (held (site.own i) (!isReader) isReader gid ((n.feed i isReader).seen j)).map
        EntityInfo.disclosed

theorem own_take (i : ι) : (site.own i).toList.take 12 = (site.guidPrefix i).toList :=
  guidToGid_take _

theorem remote_iff {i : ι} {gid : Gid} : Remote (site.own i) gid ↔ ¬ site.Of i gid := by
  rw [Remote, own_take]
  exact Iff.rfl

theorem local_iff {i : ι} {gid : Gid} : Local (site.own i) gid ↔ site.Of i gid := by
  rw [Local, remote_iff, not_not]

/-- A gid is of one context only. -/
theorem Site.Lawful.of_unique (lawful : site.Lawful) {i j : ι} {gid : Gid} (mine : site.Of i gid)
    (yours : site.Of j gid) : i = j :=
  lawful.apart i j (Vector.toList_inj.mp (mine.symm.trans yours))

/-- An endpoint whose QoS can be read has something to be said of each of its sides. -/
theorem Endpoint.Readable.info {e : Endpoint} (readable : e.Readable) {own gid : Gid}
    {isReader : Bool} (has : e.gid isReader = some gid) : (e.info own isReader).isSome := by
  cases e with
  | publisher info =>
    obtain ⟨qos, read⟩ := readable
    obtain ⟨rfl, -⟩ := Endpoint.gid_publisher.mp has
    simp [Endpoint.info, Endpoint.entity, read]
  | subscription info =>
    obtain ⟨qos, read⟩ := readable
    obtain ⟨rfl, -⟩ := Endpoint.gid_subscription.mp has
    simp [Endpoint.info, Endpoint.entity, read]
  | service info =>
    obtain ⟨⟨_, readReader⟩, _, readWriter⟩ := readable
    cases isReader <;> simp [Endpoint.info, Endpoint.entity, readReader, readWriter]
  | client info =>
    obtain ⟨⟨_, readReader⟩, _, readWriter⟩ := readable
    cases isReader <;> simp [Endpoint.info, Endpoint.entity, readReader, readWriter]

/-- The data names the participant by its prefix, which is that of the gid. -/
theorem Site.Known.participant {i : ι} {e : Endpoint} (known : site.Known i e) {isReader : Bool}
    {gid : Gid} (has : e.gid isReader = some gid) :
    site.own i = guidToGid (participantGuid (site.host i)
      (site.dds.data e isReader).toSubscriptionBuiltinTopicData) := by
  have prefixes : (site.dds.data e isReader).participantKey = site.guidPrefix i := by
    refine Vector.toList_inj.mp ?_
    rw [← (known.gid isReader gid has).1, ← known.tells.gid isReader gid has, guidToGid_take]
    rfl
  rw [Site.own, participantGuid, prefixes]

/-! ### A call -/

/-- What a call leaves of the alive endpoints, the entries and the news. -/
inductive Site.Called (site : Site ι σ) (n : Network ι σ) (i : ι) (call : Call)
    (s' : Session σ) : Prop
  | created (node : RmwNode) (e : Endpoint) (is : call = .create node e) (readable : e.Readable)
    (of : ∀ isReader gid, e.gid isReader = some gid → site.Of i gid)
    (apart : ∀ other ∈ (n.session i).alive, e.Apart other)
    (alive : s'.alive = e :: (n.session i).alive)
    (news : (n.session i).news site.cc (site.range i) call = [.comes e])
    (at_ : site.cc.At (site.own i) (if e.Told (site.range i) then
        e.entered (site.own i) (site.cc.graphCache.tables (n.session i).ctx.commonCtx)
      else site.cc.graphCache.tables (n.session i).ctx.commonCtx) s'.ctx)
  | destroyed (node : RmwNode) (e : Endpoint) (is : call = .destroy node e)
    (mem : e ∈ (n.session i).alive)
    (alive : s'.alive = (n.session i).alive.erase e)
    (news : (n.session i).news site.cc (site.range i) call = [.goes e])
    (told : e.Told (site.range i))
    (at_ : site.cc.At (site.own i)
      (e.left (site.cc.graphCache.tables (n.session i).ctx.commonCtx)) s'.ctx)
  | refused (node : RmwNode) (e : Endpoint) (is : call = .destroy node e)
    (alive : s'.alive = (n.session i).alive)
    (news : (n.session i).news site.cc (site.range i) call = [])
    (at_ : site.cc.At (site.own i)
      (site.cc.graphCache.tables (n.session i).ctx.commonCtx) s'.ctx)

theorem Site.Sound.listed_told (sound : site.Sound n) {i : ι} {e : Endpoint}
    (mem : e ∈ (n.session i).alive) (told : e.Told (site.range i)) {isReader : Bool} {gid : Gid}
    (has : e.gid isReader = some gid) :
    gid ∈ (site.cc.graphCache.tables (n.session i).ctx.commonCtx).keys isReader := by
  obtain ⟨of, -, some_⟩ := (sound.known i e mem).gid isReader gid has
  obtain ⟨info, said⟩ := Option.isSome_iff_exists.mp some_
  have entry := (sound.mine i isReader gid info of).mpr ⟨e, mem, told, has, said⟩
  rw [Tables.mem_keys]
  exact Option.isSome_iff_exists.mpr ⟨info, entry⟩

/-- An endpoint that the graph was not told of has no entries. -/
theorem Site.Sound.absent_untold (sound : site.Sound n) {i : ι} {e : Endpoint}
    (mem : e ∈ (n.session i).alive) (untold : ¬ e.Told (site.range i)) :
    e.Absent (site.cc.graphCache.tables (n.session i).ctx.commonCtx) := by
  intro isReader gid has
  obtain ⟨of, -, -⟩ := (sound.known i e mem).gid isReader gid has
  refine Option.eq_none_iff_forall_ne_some.mpr fun info entry => ?_
  obtain ⟨f, memF, told, hasF, -⟩ := (sound.mine i isReader gid info of).mp entry
  have perm := List.perm_cons_erase mem
  have others := (List.pairwise_cons.mp
    ((perm.pairwise_iff Endpoint.Apart.symm).mp (sound.apart i))).1
  rcases List.mem_cons.mp (perm.subset memF) with rfl | stays
  · exact untold told
  · exact others f stays isReader gid has hasF

/-- A new endpoint has no entries. -/
theorem Site.Sound.absent_new (sound : site.Sound n) {i : ι} {e : Endpoint}
    (free : ∀ isReader gid, e.gid isReader = some gid → site.Of i gid)
    (apart : ∀ other ∈ (n.session i).alive, e.Apart other) :
    e.Absent (site.cc.graphCache.tables (n.session i).ctx.commonCtx) := by
  intro isReader gid has
  refine Option.eq_none_iff_forall_ne_some.mpr fun info entry => ?_
  obtain ⟨f, mem, -, hasF, -⟩ := (sound.mine i isReader gid info (free isReader gid has)).mp entry
  exact apart f mem isReader gid has hasF

/-- A call does one of three things. -/
theorem Site.Sound.called (sound : site.Sound n) (lawful : site.Lawful) {i : ι} {call : Call}
    (admits : (n.session i).Admits call) :
    site.Called n i call ((n.session i).step site.cc (site.range i) call) := by
  have here : site.cc.At (site.own i) (site.cc.graphCache.tables (n.session i).ctx.commonCtx)
      (n.session i).ctx := ⟨sound.own i, rfl⟩
  cases call with
  | create node e =>
    obtain ⟨readable, free⟩ := admits
    rw [sound.own i] at free
    have of : ∀ isReader gid, e.gid isReader = some gid → site.Of i gid :=
      fun isReader gid has => local_iff.mp (free isReader gid has).1
    have apart : ∀ other ∈ (n.session i).alive, e.Apart other :=
      fun other mem isReader gid has => (free isReader gid has).2 other mem
    have absent := sound.absent_new of apart
    obtain ⟨created, at_⟩ := (holds_create_info (site.range i) node lawful.common lawful.succeeds
      readable absent).exec here
    exact .created node e rfl readable of apart (if_pos created) (if_pos created) at_
  | destroy node e =>
    have mem : e ∈ (n.session i).alive := admits
    by_cases told : e.Told (site.range i)
    · obtain ⟨ok, at_⟩ := (holds_destroy_entered node lawful.common lawful.succeeds
        fun isReader gid has => sound.listed_told mem told has).exec here
      exact .destroyed node e rfl mem (if_pos ok) (if_pos ok) told at_
    · have ranged : e.ranged = true := by
        by_contra unranged
        exact told fun ranged => absurd ranged unranged
      obtain ⟨failed, at_⟩ := (holds_destroy_absent node lawful.common ranged
        (sound.absent_untold mem told)).exec here
      have failed : ¬ (exec (Ctx.destroy site.cc node .ok e) (n.session i).ctx).1 = .ok := by
        rw [failed]
        exact nofun
      exact .refused node e rfl (if_neg failed) (if_neg failed) at_

/-- What a context makes of a call: its own part of `Site.Sound`, and that it leaves the gids of
others alone. -/
structure Site.Steps (site : Site ι σ) (n : Network ι σ) (i : ι) (s' : Session σ)
    (news : List News) : Prop where
  own : s'.ctx.gid = site.own i
  apart : s'.alive.Pairwise Endpoint.Apart
  known : ∀ e ∈ s'.alive, site.Known i e
  told : ∀ m ∈ news, site.Known i m.endpoint
  mine : ∀ isReader gid info, site.Of i gid →
    (site.cc.graphCache.tables s'.ctx.commonCtx isReader gid = some info ↔
      Listed (site.own i) (Endpoint.Told (site.range i)) s'.alive isReader gid info)
  logged : ∀ isReader gid info,
    held (site.own i) true isReader gid
        ((n.feed i isReader).log ++ news.filter (News.concerns isReader)) = some info ↔
      Listed (site.own i) (fun _ => True) s'.alive isReader gid info
  others : ∀ isReader gid, ¬ site.Of i gid →
    site.cc.graphCache.tables s'.ctx.commonCtx isReader gid = site.table n i isReader gid

theorem Site.Sound.steps_created (sound : site.Sound n) {i : ι} {e : Endpoint} {s' : Session σ}
    (known : site.Known i e) (apart : ∀ other ∈ (n.session i).alive, e.Apart other)
    (alive : s'.alive = e :: (n.session i).alive)
    (at_ : site.cc.At (site.own i) (if e.Told (site.range i) then
        e.entered (site.own i) (site.cc.graphCache.tables (n.session i).ctx.commonCtx)
      else site.cc.graphCache.tables (n.session i).ctx.commonCtx) s'.ctx) :
    site.Steps n i s' [.comes e] := by
  have absent := sound.absent_new (fun isReader gid has => (known.gid isReader gid has).1) apart
  refine ⟨at_.gid_eq, ?_, ?_, ?_, ?_, ?_, ?_⟩
  · rw [alive]
    exact List.pairwise_cons.mpr ⟨apart, sound.apart i⟩
  · rw [alive]
    exact List.forall_mem_cons.mpr ⟨known, sound.known i⟩
  · exact fun m mem => List.mem_singleton.mp mem ▸ known
  · intro isReader gid info of
    rw [at_.tables_eq, alive, listed_cons apart]
    by_cases told : e.Told (site.range i)
    · rw [if_pos told, Endpoint.entered]
      split
      · exact (and_iff_right told).symm
      · exact sound.mine i isReader gid info of
    · rw [if_neg told]
      split
      · rename_i has
        rw [absent isReader gid has]
        exact iff_of_false (by simp) fun here => told here.1
      · exact sound.mine i isReader gid info of
  · intro isReader gid info
    rw [held_append_filter, alive, listed_cons apart, kept]
    split
    · rename_i has
      have nothing : held (site.own i) true isReader gid (n.feed i isReader).log = none := by
        refine Option.eq_none_iff_forall_ne_some.mpr fun other entry => ?_
        obtain ⟨f, mem, -, hasF, -⟩ := (sound.logged i isReader gid other).mp entry
        exact apart f mem isReader gid has hasF
      rw [nothing, Option.none_or, true_and]
    · exact sound.logged i isReader gid info
  · intro isReader gid elsewhere
    rw [at_.tables_eq]
    split
    · rw [Endpoint.entered, if_neg fun has => elsewhere (known.gid isReader gid has).1]
      rfl
    · rfl

theorem Site.Sound.steps_destroyed (sound : site.Sound n) {i : ι} {e : Endpoint} {s' : Session σ}
    (mem : e ∈ (n.session i).alive) (alive : s'.alive = (n.session i).alive.erase e)
    (at_ : site.cc.At (site.own i)
      (e.left (site.cc.graphCache.tables (n.session i).ctx.commonCtx)) s'.ctx) :
    site.Steps n i s' [.goes e] := by
  have known := sound.known i e mem
  refine ⟨at_.gid_eq, ?_, ?_, ?_, ?_, ?_, ?_⟩
  · rw [alive]
    exact (sound.apart i).sublist List.erase_sublist
  · rw [alive]
    exact fun f stays => sound.known i f (List.mem_of_mem_erase stays)
  · exact fun m mem => List.mem_singleton.mp mem ▸ known
  · intro isReader gid info of
    rw [at_.tables_eq, alive, listed_erase mem (sound.apart i), Endpoint.left]
    split
    · rename_i has
      exact iff_of_false (by simp) fun here => here.1 has
    · rename_i hasNot
      rw [and_iff_right hasNot]
      exact sound.mine i isReader gid info of
  · intro isReader gid info
    rw [held_append_filter, alive, listed_erase mem (sound.apart i), kept]
    split
    · rename_i has
      exact iff_of_false (by simp) fun here => here.1 has.2
    · rename_i hasNot
      rw [and_iff_right fun has => hasNot ⟨rfl, has⟩]
      exact sound.logged i isReader gid info
  · intro isReader gid elsewhere
    rw [at_.tables_eq, Endpoint.left,
      if_neg fun has => elsewhere (known.gid isReader gid has).1]
    rfl

theorem Site.Sound.steps_refused (sound : site.Sound n) {i : ι} {s' : Session σ}
    (alive : s'.alive = (n.session i).alive)
    (at_ : site.cc.At (site.own i)
      (site.cc.graphCache.tables (n.session i).ctx.commonCtx) s'.ctx) :
    site.Steps n i s' [] := by
  refine ⟨at_.gid_eq, ?_, ?_, ?_, ?_, ?_, ?_⟩
  · rw [alive]
    exact sound.apart i
  · rw [alive]
    exact sound.known i
  · exact fun m mem => absurd mem List.not_mem_nil
  · intro isReader gid info of
    rw [at_.tables_eq, alive]
    exact sound.mine i isReader gid info of
  · intro isReader gid info
    rw [List.filter_nil, List.append_nil, alive]
    exact sound.logged i isReader gid info
  · intro isReader gid _
    rw [at_.tables_eq]
    rfl

/-- **A call** keeps its own context's part. -/
theorem Site.Sound.steps (sound : site.Sound n) (lawful : site.Lawful) {i : ι} {call : Call}
    (admits : site.Admits n (.call i call)) :
    site.Steps n i ((n.session i).step site.cc (site.range i) call)
      ((n.session i).news site.cc (site.range i) call) := by
  cases sound.called lawful admits.1 with
  | created node e is readable of apart alive news at_ =>
    obtain ⟨tells, kind⟩ := admits.2 node e is
    rw [news]
    exact sound.steps_created ⟨tells, fun isReader gid has =>
      ⟨of isReader gid has, kind isReader gid has, readable.info has⟩⟩ apart alive at_
  | destroyed node e is mem alive news told at_ =>
    rw [news]
    exact sound.steps_destroyed mem alive at_
  | refused node e is alive news at_ =>
    rw [news]
    exact sound.steps_refused alive at_

/-- What a context does with news of another one's endpoint. -/
def Site.receive (site : Site ι σ) (j : ι) (isReader : Bool) (gid : Gid) :
    News → Tables Bool Gid EntityInfo → Tables Bool Gid EntityInfo
  | .comes e, t =>
    t.emplace isReader gid
      ((site.dds.discovery isReader (.comes e)).info site.cc (site.host j))
  | .goes _, t => t.erase false gid

theorem Site.receive_of_ne {j : ι} {isReader table : Bool} {gid other : Gid} {news : News}
    {t : Tables Bool Gid EntityInfo}
    (ne : other ≠ gid) : site.receive j isReader gid news t table other = t table other := by
  cases news with
  | comes e => exact if_neg fun here => ne here.2
  | goes e => exact if_neg fun here => ne here.2

/-- What is entered where there is nothing, and what is held from then on. -/
theorem map_getD_eq {h t : Option EntityInfo} {a b : EntityInfo}
    (same : t.map EntityInfo.disclosed = h.map EntityInfo.disclosed)
    (told : a.disclosed = b.disclosed) :
    (some (t.getD a)).map EntityInfo.disclosed = (h.or (some b)).map EntityInfo.disclosed := by
  cases t <;> cases h <;> simp_all

/-- **The follower of a feed** keeps what is left of the news. Of a reader that went it keeps what
it has, for it looks for a writer, and there is none with a reader's gid. -/
theorem Site.Sound.followed (sound : site.Sound n) {i j : ι} {isReader : Bool} {gid : Gid}
    {news : News} (same : site.host i = site.host j)
    (known : site.Known i news.endpoint) (has : news.endpoint.gid isReader = some gid)
    {t : Tables Bool Gid EntityInfo} {table : Bool}
    (before : (t table gid).map EntityInfo.disclosed =
      (held (site.own i) (!table) table gid ((n.feed i table).seen j)).map EntityInfo.disclosed) :
    (site.receive j isReader gid news t table gid).map EntityInfo.disclosed =
      (held (site.own i) (!table) table gid
        ((n.feed i table).seen j ++ if table = isReader then [news] else [])).map
          EntityInfo.disclosed := by
  obtain ⟨of, kind, said⟩ := known.gid isReader gid has
  by_cases here : table = isReader
  · subst here
    rw [if_pos rfl, held_concat]
    cases news with
    | comes e =>
      have has : e.gid table = some gid := has
      have known : site.Known i e := known
      obtain ⟨info, said⟩ := Option.isSome_iff_exists.mp said
      have said : e.info (site.own i) table = some info := said
      have told := disclosed_discovery site.cc known.tells said
        (same ▸ known.participant has)
      rw [Site.receive, Tables.emplace, if_pos ⟨rfl, rfl⟩, kept, if_pos has, said]
      exact map_getD_eq before told
    | goes e =>
      have has : e.gid table = some gid := has
      cases table with
      | false => simp [Site.receive, Tables.erase, kept, has]
      | true => simpa [Site.receive, Tables.erase, kept] using before
  · rw [if_neg here, List.append_nil, ← before]
    cases news with
    | comes e =>
      rw [Site.receive, Tables.emplace, if_neg fun both => here both.1]
    | goes e =>
      cases table with
      | true => simp [Site.receive, Tables.erase]
      | false =>
        -- The gid is a reader's, so there is no writer under it.
        obtain rfl : isReader = true := by simpa using here
        have nothing : held (site.own i) true false gid ((n.feed i false).seen j) = none := by
          refine held_of_unconcerned fun m mem hasWriter => ?_
          obtain ⟨knownM, -⟩ := sound.news i false m (Feed.seen_subset mem)
          have writer := (knownM.gid false gid hasWriter).2.1
          rw [kind] at writer
          cases writer
        rw [Bool.not_false, nothing] at before
        rw [before, Site.receive, Tables.erase, if_pos ⟨rfl, rfl⟩]

section Moves

variable [DecidableEq ι] {i j k : ι} {c : Call} {isReader : Bool} {gid : Gid} {news : News}

variable (site n i c) in
theorem session_call :
    (site.step n (.call i c)).session i = (n.session i).step site.cc (site.range i) c :=
  Function.update_self ..

theorem session_call_of_ne (other : k ≠ i) :
    (site.step n (.call i c)).session k = n.session k :=
  Function.update_of_ne other ..

theorem feed_call :
    (site.step n (.call i c)).feed i isReader = (n.feed i isReader).append
      (((n.session i).news site.cc (site.range i) c).filter (News.concerns isReader)) := by
  simp [Site.step]

theorem feed_call_of_ne (other : k ≠ i) :
    (site.step n (.call i c)).feed k = n.feed k :=
  Function.update_of_ne other ..

/-- **A call** is all right with everyone. -/
theorem Site.Sound.call (sound : site.Sound n) (lawful : site.Lawful)
    (admits : site.Admits n (.call i c)) : site.Sound (site.step n (.call i c)) := by
  have steps := sound.steps lawful admits
  rw [← session_call site n i c] at steps
  refine ⟨fun k => ?_, fun k => ?_, fun k => ?_, fun k isReader => ?_,
    fun k isReader gid info of => ?_, fun k isReader gid info => ?_,
    fun k l isReader gid other same of => ?_⟩
  · rcases eq_or_ne k i with rfl | ne
    · exact steps.own
    · rw [session_call_of_ne ne]
      exact sound.own k
  · rcases eq_or_ne k i with rfl | ne
    · exact steps.apart
    · rw [session_call_of_ne ne]
      exact sound.apart k
  · rcases eq_or_ne k i with rfl | ne
    · exact steps.known
    · rw [session_call_of_ne ne]
      exact sound.known k
  · rcases eq_or_ne k i with rfl | ne
    · rw [feed_call]
      intro m mem
      rcases List.mem_append.mp mem with mem | mem
      · exact sound.news k isReader m mem
      · obtain ⟨mem, side⟩ := List.mem_filter.mp mem
        exact ⟨steps.told m mem, side⟩
    · rw [feed_call_of_ne ne]
      exact sound.news k isReader
  · rcases eq_or_ne k i with rfl | ne
    · exact steps.mine isReader gid info of
    · rw [Site.table, session_call_of_ne ne]
      exact sound.mine k isReader gid info of
  · rcases eq_or_ne k i with rfl | ne
    · rw [feed_call, Feed.log_append]
      exact steps.logged isReader gid info
    · rw [feed_call_of_ne ne, session_call_of_ne ne]
      exact sound.logged k isReader gid info
  · have entry : site.entry (site.step n (.call i c)) l isReader gid =
        site.entry n l isReader gid := by
      rcases eq_or_ne l i with rfl | ne
      · exact congrArg _ (steps.others isReader gid fun mine => other (lawful.of_unique mine of))
      · rw [Site.entry, Site.table, session_call_of_ne ne]
        rfl
    have seen : ((site.step n (.call i c)).feed k isReader).seen l =
        (n.feed k isReader).seen l := by
      rcases eq_or_ne k i with rfl | ne
      · rw [feed_call, Feed.seen_append]
      · rw [feed_call_of_ne ne]
    rw [entry, seen]
    exact sound.theirs k l isReader gid other same of

/-! ### A delivery -/

/-- **A delivery** of a context's own news changes nothing; of another's, what is under the gid
that it tells. -/
theorem Site.Sound.received (sound : site.Sound n) (lawful : site.Lawful)
    (known : site.Known i news.endpoint) (has : news.endpoint.gid isReader = some gid) :
    site.cc.At (site.own j)
      (if j = i then site.cc.graphCache.tables (n.session j).ctx.commonCtx
        else site.receive j isReader gid news
          (site.cc.graphCache.tables (n.session j).ctx.commonCtx))
      (exec (Ctx.discover site.cc (site.host j) (site.dds.discovery isReader news))
        (n.session j).ctx).2 := by
  have here : site.cc.At (site.own j) (site.cc.graphCache.tables (n.session j).ctx.commonCtx)
      (n.session j).ctx := ⟨sound.own j, rfl⟩
  have gid_eq := known.tells.discovery_gid has
  obtain ⟨of, -⟩ := known.gid isReader gid has
  split
  · rename_i itself
    subst itself
    refine (holds_discover_own (site.host j) ?_ ?_).exec here
    · rw [gid_eq]
      exact local_iff.mpr of
    · rw [Announcer.discovery_data]
      exact known.participant has
  · rename_i other
    have foreign : Remote (site.own j) (site.dds.discovery isReader news).gid := by
      rw [gid_eq, remote_iff]
      exact fun yours => other (lawful.of_unique yours of)
    cases news with
    | comes e =>
      have at_ := (holds_announce (site.host j) lawful.common foreign
        Announcer.discovery_comes).exec here
      rwa [gid_eq, Announcer.discovery_isReader] at at_
    | goes e =>
      have at_ := (holds_withdraw (site.host j) lawful.common foreign
        Announcer.discovery_goes).exec here
      rwa [gid_eq] at at_

/-- What a delivery to `j` of news of `i` under `gid` leaves as it was, and what it does not. -/
structure Site.Delivered (site : Site ι σ) (n n' : Network ι σ) (i : ι) (isReader : Bool) (j : ι)
    (news : News) (gid : Gid) : Prop where
  own : (n'.session j).ctx.gid = site.own j
  alive : ∀ k, (n'.session k).alive = (n.session k).alive
  log : ∀ k table, (n'.feed k table).log = (n.feed k table).log
  tables : ∀ table other, site.table n' j table other =
    if j = i then site.table n j table other
    else site.receive j isReader gid news
      (site.cc.graphCache.tables (n.session j).ctx.commonCtx) table other
  session : ∀ k, k ≠ j → n'.session k = n.session k
  seen : ∀ table, (n'.feed i table).seen j =
    (n.feed i table).seen j ++ if table = isReader then [news] else []
  seen_others : ∀ k l table, l ≠ j ∨ k ≠ i →
    (n'.feed k table).seen l = (n.feed k table).seen l

theorem Site.Sound.delivered (sound : site.Sound n) (lawful : site.Lawful)
    (next : (n.feed i isReader).next j = some news) (known : site.Known i news.endpoint)
    (has : news.endpoint.gid isReader = some gid) :
    site.Delivered n (site.step n (.deliver i isReader j)) i isReader j news gid := by
  have at_ := sound.received (j := j) lawful known has
  have session : (site.step n (.deliver i isReader j)).session = Function.update n.session j
      { n.session j with ctx := (exec (Ctx.discover site.cc (site.host j)
        (site.dds.discovery isReader news)) (n.session j).ctx).2 } := by
    simp [Site.step, next]
  have feed : (site.step n (.deliver i isReader j)).feed = Function.update n.feed i
      (Function.update (n.feed i) isReader ((n.feed i isReader).advance j)) := by
    simp [Site.step, next]
  refine ⟨?_, fun k => ?_, fun k table => ?_, fun table other => ?_, fun k ne => ?_,
    fun table => ?_, fun k l table others => ?_⟩
  · rw [session, Function.update_self]
    exact at_.gid_eq
  · rcases eq_or_ne k j with rfl | ne
    · rw [session, Function.update_self]
    · rw [session, Function.update_of_ne ne]
  · rcases eq_or_ne k i with rfl | ne
    · rcases eq_or_ne table isReader with rfl | ne'
      · rw [feed, Function.update_self, Function.update_self, Feed.log_advance]
      · rw [feed, Function.update_self, Function.update_of_ne ne']
    · rw [feed, Function.update_of_ne ne]
  · rw [Site.table, session, Function.update_self, at_.tables_eq]
    split <;> rfl
  · rw [session, Function.update_of_ne ne]
  · rw [feed, Function.update_self]
    rcases eq_or_ne table isReader with rfl | ne
    · rw [Function.update_self, if_pos rfl]
      exact Feed.seen_advance next
    · rw [Function.update_of_ne ne, if_neg ne, List.append_nil]
  · rw [feed]
    rcases eq_or_ne k i with rfl | ne
    · rw [Function.update_self]
      rcases eq_or_ne table isReader with rfl | ne'
      · rw [Function.update_self]
        exact Feed.seen_advance_of_ne (others.resolve_right (not_not_intro rfl))
      · rw [Function.update_of_ne ne']
    · rw [Function.update_of_ne ne]

/-- **A delivery** is all right with everyone. -/
theorem Site.Sound.deliver (sound : site.Sound n) (lawful : site.Lawful) :
    site.Sound (site.step n (.deliver i isReader j)) := by
  cases next : (n.feed i isReader).next j with
  | none => simpa [Site.step, next] using sound
  | some news =>
    obtain ⟨known, side⟩ := sound.news i isReader news (Feed.next_mem next)
    obtain ⟨gid, has⟩ := Option.isSome_iff_exists.mp side
    obtain ⟨of, -⟩ := known.gid isReader gid has
    have done := sound.delivered lawful next known has
    -- Under the gids of third parties a delivery changes nothing.
    have elsewhere (k : ι) (ne : k ≠ i) (table : Bool) (other : Gid) (of' : site.Of k other) :
        site.table (site.step n (.deliver i isReader j)) j table other =
          site.table n j table other := by
      rw [done.tables]
      split
      · rfl
      · refine Site.receive_of_ne ?_
        rintro rfl
        exact ne (lawful.of_unique of' of)
    refine ⟨fun k => ?_, fun k => ?_, fun k => ?_, fun k table => ?_,
      fun k table other info of' => ?_, fun k table other info => ?_,
      fun k l table other ne same of' => ?_⟩
    · rcases eq_or_ne k j with rfl | ne
      · exact done.own
      · rw [done.session k ne]
        exact sound.own k
    · rw [done.alive]
      exact sound.apart k
    · rw [done.alive]
      exact sound.known k
    · rw [done.log]
      exact sound.news k table
    · have entry : site.table (site.step n (.deliver i isReader j)) k table other =
          site.table n k table other := by
        rcases eq_or_ne k j with rfl | ne
        · rcases eq_or_ne k i with rfl | ne'
          · rw [done.tables, if_pos rfl]
          · exact elsewhere k ne' table other of'
        · rw [Site.table, done.session k ne]
          rfl
      rw [entry, done.alive]
      exact sound.mine k table other info of'
    · rw [done.log, done.alive]
      exact sound.logged k table other info
    · have before := sound.theirs k l table other ne same of'
      rcases eq_or_ne l j with rfl | ne'
      · rcases eq_or_ne k i with rfl | ne''
        · rw [Site.entry, done.tables, if_neg ne, done.seen]
          by_cases gids : other = gid
          · subst gids
            exact sound.followed same known has before
          · rw [Site.receive_of_ne gids]
            refine before.trans ?_
            split
            · rename_i here
              subst here
              rw [held_concat, kept_of_ne]
              rw [has]
              exact fun same => gids (Option.some.inj same).symm
            · rw [List.append_nil]
        · rw [Site.entry, elsewhere k ne'' table other of', done.seen_others k l table (.inr ne'')]
          exact before
      · rw [Site.entry, Site.table, done.session l ne', done.seen_others k l table (.inl ne')]
        exact before

end Moves

end Site

end Graph

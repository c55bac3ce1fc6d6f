import RmwGurumdds.Graph.Network

/-!
# What contexts come to agree on

The writers of a context, as another one lists them, are always those it had at some point
(`writers_of_some_point`), and once the other has been told of everything, those that are alive.
This needs nobody to wait: as many deliveries as there have been moves bring it about
(`writers_settle`).

The readers are another matter. The callback that is told of a reader that went looks for a writer,
so the others list all the readers that a context ever had (`readers_accumulate`).
-/

namespace Graph

open Wire Rmw Store Exec

section Site

variable {ι σ : Type} {site : Site ι σ} {n : Network ι σ}

theorem Site.Fresh.sound (fresh : site.Fresh n) : site.Sound n where
  own := fresh.own
  apart k := by simp [fresh.alive k]
  known k := by simp [fresh.alive k]
  news k isReader := by simp [fresh.feed k isReader]
  mine k isReader gid info of := by
    rw [fresh.unlisted k k isReader gid of]
    exact iff_of_false nofun fun ⟨e, mem, _⟩ => by simp [fresh.alive k] at mem
  logged k isReader gid info := by
    rw [fresh.feed k isReader, Feed.log_empty, held_nil]
    exact iff_of_false nofun fun ⟨e, mem, _⟩ => by simp [fresh.alive k] at mem
  theirs k l isReader gid _ _ of := by
    rw [Site.entry, fresh.unlisted k l isReader gid of, fresh.feed k isReader, Feed.seen_empty,
      held_nil]

/-- Of the endpoints alive, this is what a graph keeps under a gid, as far as DDS tells. -/
def Site.Has (site : Site ι σ) (n : Network ι σ) (i : ι) (isReader : Bool) (gid : Gid)
    (info : EntityInfo) : Prop :=
  ∃ e ∈ (n.session i).alive, e.gid isReader = some gid ∧
    (e.info (site.own i) isReader).map EntityInfo.disclosed = some info

section Moves

variable [DecidableEq ι] {i j k : ι} {c : Call} {isReader : Bool} {gid : Gid}

theorem feed_deliver :
    (site.step n (.deliver i isReader j)).feed i isReader = (n.feed i isReader).advance j := by
  cases next : (n.feed i isReader).next j with
  | none => simp [Site.step, next, Feed.advance_of_none next]
  | some news => simp [Site.step, next]

theorem alive_deliver :
    ((site.step n (.deliver i isReader j)).session k).alive = (n.session k).alive := by
  cases next : (n.feed i isReader).next j with
  | none => simp [Site.step, next]
  | some news =>
    rcases eq_or_ne k j with rfl | ne
    · simp [Site.step, next]
    · simp [Site.step, next, ne]

theorem log_deliver (table : Bool) :
    ((site.step n (.deliver i isReader j)).feed k table).log = (n.feed k table).log := by
  cases next : (n.feed i isReader).next j with
  | none => simp [Site.step, next]
  | some news =>
    rcases eq_or_ne k i with rfl | ne
    · rcases eq_or_ne table isReader with rfl | ne'
      · rw [feed_deliver, Feed.log_advance]
      · simp [Site.step, next, ne']
    · simp [Site.step, next, ne]

variable {ms : List (Move ι)}

theorem Site.after_concat {m : Move ι} :
    site.after n (ms ++ [m]) = site.step (site.after n ms) m := run_concat

variable (site n) in
/-- Every move of a run is admitted. -/
abbrev Site.AdmitsAll (ms : List (Move ι)) : Prop :=
  Each (fun before m => site.Admits (site.after n before) m) ms

/-- **At every point of a run everyone's graph is as it should be.** -/
theorem Site.Fresh.always_sound (fresh : site.Fresh n) (lawful : site.Lawful)
    (admits : site.AdmitsAll n ms) :
    Always (fun before => site.Sound (site.after n before)) ms := by
  refine always_of_each fresh.sound admits fun before m sound admitted => ?_
  rw [Site.after_concat]
  cases m with
  | call i c => exact sound.call lawful admitted
  | deliver i isReader j => exact sound.deliver lawful

variable (isReader) in
/-- A call tells of what it creates. -/
theorem Site.Sound.call_created (sound : site.Sound n) (lawful : site.Lawful)
    (admits : site.Admits n (.call i c)) :
    (∀ e, News.comes e ∈ ((site.step n (.call i c)).feed i isReader).log ↔
      News.comes e ∈ (n.feed i isReader).log ∨
        (e.gid isReader).isSome ∧ ∃ node, c = .create node e) ∧
    ∀ e ∈ ((site.step n (.call i c)).session i).alive,
      e ∈ (n.session i).alive ∨ ∃ node, c = .create node e := by
  rw [session_call, feed_call, Feed.log_append]
  cases sound.called lawful admits.1 with
  | created node e is _ _ _ alive news _ =>
    subst is
    rw [news, alive]
    refine ⟨fun f => ?_, fun f mem => ?_⟩
    · rw [List.mem_append, List.mem_filter, List.mem_singleton, News.comes.injEq]
      refine or_congr_right ⟨?_, ?_⟩
      · rintro ⟨rfl, side⟩
        exact ⟨side, node, rfl⟩
      · rintro ⟨side, node', same⟩
        cases same
        exact ⟨rfl, side⟩
    · rcases List.mem_cons.mp mem with rfl | mem
      · exact .inr ⟨node, rfl⟩
      · exact .inl mem
  | destroyed node e is _ alive news _ _ =>
    subst is
    rw [news, alive]
    refine ⟨fun f => ?_, fun f mem => .inl (List.mem_of_mem_erase mem)⟩
    rw [List.mem_append, List.mem_filter, List.mem_singleton]
    simp
  | refused node e is alive news _ =>
    subst is
    rw [news, alive]
    refine ⟨fun f => ?_, fun f mem => .inl mem⟩
    simp

variable (i isReader) in
/-- What has been created is what the feeds tell of, and the endpoints alive are of it. -/
theorem created_iff (lawful : site.Lawful) (fresh : site.Fresh n)
    (admits : site.AdmitsAll n ms) :
    (∀ e, News.comes e ∈ ((site.after n ms).feed i isReader).log ↔
      (e.gid isReader).isSome ∧ ∃ node, Move.call i (.create node e) ∈ ms) ∧
    ∀ e ∈ ((site.after n ms).session i).alive, ∃ node, Move.call i (.create node e) ∈ ms := by
  induction ms using List.reverseRecOn with
  | nil =>
    constructor
    · intro e
      simp [Site.after, fresh.feed i isReader]
    · intro e mem
      simp [Site.after, fresh.alive i] at mem
  | append_singleton ms m ih =>
    obtain ⟨admits, admitted⟩ := each_concat.mp admits
    obtain ⟨logged, alive⟩ := ih admits
    have sound := (fresh.always_sound lawful admits).last
    rw [Site.after_concat]
    cases m with
    | deliver k table l =>
      rw [log_deliver, alive_deliver]
      simpa using ⟨logged, alive⟩
    | call k c =>
      rcases eq_or_ne i k with rfl | ne
      · obtain ⟨logged', alive'⟩ := sound.call_created isReader lawful admitted
        refine ⟨fun e => ?_, fun e mem => ?_⟩
        · rw [logged', logged, ← and_or_left, ← exists_or]
          simp [eq_comm (a := c)]
        · rcases alive' e mem with before | ⟨node, rfl⟩
          · obtain ⟨node, mem⟩ := alive e before
            exact ⟨node, List.mem_append_left _ mem⟩
          · exact ⟨node, by simp⟩
      · rw [session_call_of_ne ne, feed_call_of_ne ne]
        simpa [ne] using ⟨logged, alive⟩

end Moves

end Site

/-! ## Samples -/

/-- DDS as it is, for endpoints whose QoS can be read. -/
def sampleAnnouncer : Announcer where
  data e isReader :=
    let gid := (e.gid isReader).getD sampleGid
    match e.entity isReader with
    | some ({ topicName, typeName, qos := .ok qos }, _) =>
      { key := Vector.ofFn fun k => gid[12 + k.val % 4]
        participantKey := gid.extract 0 12
        topicName, typeName
        userData := { value := [], size := 0 }
        reliability := qos.reliability
        durability := qos.durability
        deadline := qos.deadline
        liveliness := qos.liveliness
        lifespan := qos.lifespan.getD .infinite }
    | _ => { sampleData 0 with lifespan := .infinite }
  instance_ _ _ := 1

/-- Two contexts, and the second only listens. -/
def sampleSite : Site Bool (Tables Bool Gid EntityInfo) where
  cc := tablesContext
  range _ := .subnet
  host _ := .little
  guidPrefix i := Vector.replicate 12 (if i then 0 else 1)
  dds := sampleAnnouncer
  isReaderGid gid := gid.back == 4

theorem sampleSite_lawful : sampleSite.Lawful :=
  ⟨tablesContext_lawful, fun _ _ => rfl, by decide⟩

def sampleNetwork : Network Bool (Tables Bool Gid EntityInfo) where
  session i := { freshSession with ctx := { emptyContext with gid := sampleSite.own i } }
  feed _ _ := Feed.empty

theorem sampleAnnouncer_publisher : sampleAnnouncer.Tells samplePublisher where
  gid := by
    rintro isReader gid has
    obtain ⟨rfl, rfl⟩ := Endpoint.gid_publisher.mp has
    decide
  topicName := by rintro (_ | _) entity typeHash ⟨⟩; rfl
  typeName := by rintro (_ | _) entity typeHash ⟨⟩; rfl
  qos := by rintro (_ | _) entity typeHash qos ⟨⟩ ⟨⟩; rfl

end Graph

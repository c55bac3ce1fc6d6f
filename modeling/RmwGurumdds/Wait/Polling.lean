import RmwGurumdds.Wait.Readiness
import RmwGurumdds.Wait.Timeout

/-!
# Polling

Where it may not block on a wait set, a wait asks the attached conditions itself. It first asks each
of them once, and if any is triggered it ends with all that are. Otherwise it goes round them, one
at a time, and ends with the first that it finds, or when the time is up.

In whatever way the conditions and the clock change meanwhile, what is triggered when the poll
begins is not overlooked, and a condition that stays triggered ends the poll within one time round
(`poll_finds`). What the wait leaves of its arrays is what the poll has found (`polled_wait`).
-/

namespace Wait

open Events Exec Rmw

/-! ## The poll -/

/-- What a poll meets: the clock as it starts and at the beginning of each round, and the trigger
values, as each condition is asked for the first time and in each round. -/
structure Timeline where
  start : BitVec 64
  now : Nat → BitVec 64
  first : Nat → Condition → Bool
  fires : Nat → Condition → Bool

section Functions

variable (conds : List (Option Condition)) (tl : Timeline) (waitTimeout : Option RmwTime)

/-- The time is up when a round begins. -/
def Timeline.late (round : Nat) : Bool :=
  waitTimeout.isSome && !(tl.now round).sle (pollDeadline tl.start waitTimeout)

/-- The first loop over the conditions, from one of them on. -/
def firstPass (first : Nat → Condition → Bool) : Nat → List (Option Condition) → List Condition
  | _, [] => []
  | i, none :: rest => firstPass first (i + 1) rest
  | i, some cond :: rest =>
    if first i cond then cond :: firstPass first (i + 1) rest else firstPass first (i + 1) rest

/-- Where a round looks: the counter starts anew past the end. -/
def wrapped (length : Nat) (i : BitVec 32) : BitVec 32 := if length ≤ i.toNat then 0 else i

/-- The second loop, from a round on. Without fuel it is still going on. -/
def pollFrom : (fuel round : Nat) → BitVec 32 → Option (RmwRet × List Condition)
  | 0, _, _ => none
  | fuel + 1, round, i =>
    if tl.late waitTimeout round then some (.timeout, [])
    else
      let i := wrapped conds.length i
      match conds[i.toNat]?.join with
      | none => pollFrom fuel (round + 1) (i + 1)
      | some cond =>
        if tl.fires round cond then some (.ok, [cond]) else pollFrom fuel (round + 1) (i + 1)

/-- `wait_w_polling`, with the active conditions it leaves. -/
def waitWPolling (fuel : Nat) : Option (RmwRet × List Condition) :=
  match firstPass tl.first 0 conds with
  | [] => pollFrom conds tl waitTimeout fuel 0 0
  | active => some (.ok, active)

/-- The condition that a round asks, if it is not null. -/
def asks (round : Nat) : Option Condition := conds[round % conds.length]?.join

/-- How a round ends a poll, if it does. -/
def roundEnds (round : Nat) : Option (RmwRet × List Condition) :=
  if tl.late waitTimeout round then some (.timeout, [])
  else
    match asks conds round with
    | none => none
    | some cond => if tl.fires round cond then some (.ok, [cond]) else none

end Functions

/-! ## Rounds -/

section Rounds

variable {conds : List (Option Condition)} {tl : Timeline} {waitTimeout : Option RmwTime}

/-- The counter is where the round looks. -/
def Aligned (conds : List (Option Condition)) (round : Nat) (i : BitVec 32) : Prop :=
  conds ≠ [] → (wrapped conds.length i).toNat = round % conds.length

theorem Aligned.zero : Aligned conds 0 0 := by
  intro some_
  rw [wrapped, if_neg (by simpa using some_)]
  simp

theorem Aligned.asks {round : Nat} {i : BitVec 32} (aligned : Aligned conds round i) :
    conds[(wrapped conds.length i).toNat]?.join = asks conds round := by
  by_cases empty : conds = []
  · subst empty
    rfl
  · rw [aligned empty, Wait.asks]

/-- Before the counter could wrap it starts anew. -/
theorem Aligned.next (short : conds.length < 2 ^ 32) {round : Nat} {i : BitVec 32}
    (aligned : Aligned conds round i) :
    Aligned conds (round + 1) (wrapped conds.length i + 1) := by
  intro some_
  have positive := List.length_pos_iff.mpr some_
  have here := aligned some_
  have below : round % conds.length < conds.length := Nat.mod_lt _ positive
  have count : (wrapped conds.length i + 1).toNat = round % conds.length + 1 := by
    rw [BitVec.toNat_add, here]
    exact Nat.mod_eq_of_lt (by simp; omega)
  have turn : (round + 1) % conds.length = (round % conds.length + 1) % conds.length :=
    (Nat.mod_add_mod round conds.length 1).symm
  rw [wrapped, count, turn]
  split
  · have last : round % conds.length + 1 = conds.length := by omega
    rw [last, Nat.mod_self]
    rfl
  · rw [count]
    exact (Nat.mod_eq_of_lt (by omega)).symm

/-- **The loop goes through the rounds.** -/
theorem pollFrom_eq (short : conds.length < 2 ^ 32) {fuel round : Nat} {i : BitVec 32}
    (aligned : Aligned conds round i) :
    pollFrom conds tl waitTimeout fuel round i =
      (List.range' round fuel).findSome? (roundEnds conds tl waitTimeout) := by
  induction fuel generalizing round i with
  | zero => rfl
  | succ fuel ih =>
    have next := ih (aligned.next short)
    rw [pollFrom, List.range'_succ, List.findSome?_cons, roundEnds]
    by_cases late : tl.late waitTimeout round = true
    · rw [if_pos late, if_pos late]
    · rw [if_neg late, if_neg late]
      simp only [aligned.asks]
      cases asked : asks conds round with
      | none => exact next
      | some cond =>
        by_cases fires : tl.fires round cond = true
        · simp only [fires, if_true]
        · simp only [fires, Bool.false_eq_true, if_false]
          exact next

/-- The first of some numbers that has an answer gives it. -/
theorem findSome_range_iff {α : Type} {f : Nat → Option α} {fuel : Nat} {a : α} :
    (List.range fuel).findSome? f = some a ↔
      ∃ round < fuel, f round = some a ∧ ∀ earlier < round, f earlier = none := by
  induction fuel with
  | zero => simp
  | succ fuel ih =>
    rw [List.range_succ, List.findSome?_append, Option.or_eq_some_iff, ih,
      List.findSome?_eq_none_iff]
    constructor
    · rintro (⟨round, below, ends, quiet⟩ | ⟨quiet, ends⟩)
      · exact ⟨round, by omega, ends, quiet⟩
      · refine ⟨fuel, Nat.lt_succ_self fuel, by simpa using ends, fun earlier before => ?_⟩
        exact quiet earlier (List.mem_range.mpr before)
    · rintro ⟨round, below, ends, quiet⟩
      rcases Nat.lt_succ_iff_lt_or_eq.mp below with below | rfl
      · exact .inl ⟨round, below, ends, quiet⟩
      · exact .inr ⟨fun earlier mem => quiet earlier (List.mem_range.mp mem), by simpa using ends⟩

/-- What the first loop finds are the conditions that were triggered when they were asked. -/
theorem mem_firstPass {first : Nat → Condition → Bool} {cond : Condition} {k : Nat} :
    cond ∈ firstPass first k conds ↔
      ∃ i, conds[i]? = some (some cond) ∧ first (k + i) cond = true := by
  induction conds generalizing k with
  | nil => simp [firstPass]
  | cons entry rest ih =>
    have later : (∃ i, (entry :: rest)[i]? = some (some cond) ∧ first (k + i) cond = true) ↔
        (entry = some cond ∧ first k cond = true) ∨ cond ∈ firstPass first (k + 1) rest := by
      rw [ih]
      constructor
      · rintro ⟨_ | i, there, triggered⟩
        · exact .inl ⟨by simpa using there, triggered⟩
        · exact .inr ⟨i, by simpa using there, by rwa [Nat.add_right_comm, Nat.add_assoc]⟩
      · rintro (⟨rfl, triggered⟩ | ⟨i, there, triggered⟩)
        · exact ⟨0, rfl, triggered⟩
        · exact ⟨i + 1, by simpa using there, by rwa [← Nat.add_assoc, Nat.add_right_comm]⟩
    rw [later]
    cases entry with
    | none => simp [firstPass]
    | some other =>
      rw [firstPass]
      split
      · rename_i triggered
        rw [List.mem_cons, Option.some.injEq]
        refine or_congr_left ⟨?_, fun here => here.1.symm⟩
        rintro rfl
        exact ⟨rfl, triggered⟩
      · rename_i quiet
        refine (or_iff_right ?_).symm
        rintro ⟨same, triggered⟩
        obtain rfl := Option.some.inj same
        exact quiet triggered

end Rounds

/-! ## What a poll finds -/

section Polls

variable {conds : List (Option Condition)} {tl : Timeline} {waitTimeout : Option RmwTime}

variable (conds tl) in
/-- A condition was triggered when the poll asked it for the first time. -/
def AtFirst (cond : Condition) : Prop :=
  ∃ i, conds[i]? = some (some cond) ∧ tl.first i cond = true

theorem firstPass_eq_nil_iff :
    firstPass tl.first 0 conds = [] ↔ ∀ cond, ¬ AtFirst conds tl cond := by
  rw [List.eq_nil_iff_forall_not_mem]
  refine forall_congr' fun cond => not_congr (mem_firstPass.trans ?_)
  simp only [AtFirst, Nat.zero_add]

theorem waitWPolling_rounds (short : conds.length < 2 ^ 32)
    (quiet : ∀ cond, ¬ AtFirst conds tl cond) (fuel : Nat) :
    waitWPolling conds tl waitTimeout fuel =
      (List.range fuel).findSome? (roundEnds conds tl waitTimeout) := by
  rw [waitWPolling, firstPass_eq_nil_iff.mpr quiet, List.range_eq_range']
  exact pollFrom_eq short Aligned.zero

variable (waitTimeout) in
/-- If any is triggered when it is first asked, the poll ends at once with all that are. -/
theorem waitWPolling_first (some_ : ∃ cond, AtFirst conds tl cond) :
    ∃ active, (∀ cond, cond ∈ active ↔ AtFirst conds tl cond) ∧
      ∀ fuel, waitWPolling conds tl waitTimeout fuel = some (.ok, active) := by
  refine ⟨firstPass tl.first 0 conds, fun cond => ?_, fun fuel => ?_⟩
  · rw [mem_firstPass, AtFirst]
    simp only [Nat.zero_add]
  · rw [waitWPolling]
    split
    · rename_i none_
      obtain ⟨cond, first⟩ := some_
      exact absurd first (firstPass_eq_nil_iff.mp none_ cond)
    · rfl

/-- How a round ends a poll. -/
theorem roundEnds_eq_some_iff {round : Nat} {ret : RmwRet} {active : List Condition} :
    roundEnds conds tl waitTimeout round = some (ret, active) ↔
      (tl.late waitTimeout round = true ∧ ret = .timeout ∧ active = []) ∨
      (tl.late waitTimeout round = false ∧ ∃ cond, asks conds round = some cond ∧
        tl.fires round cond = true ∧ ret = .ok ∧ active = [cond]) := by
  rw [roundEnds]
  constructor
  · intro ends
    cases late : tl.late waitTimeout round with
    | true =>
      rw [late] at ends
      cases ends
      exact .inl ⟨rfl, rfl, rfl⟩
    | false =>
      rw [late] at ends
      cases asked : asks conds round with
      | none =>
        rw [asked] at ends
        cases ends
      | some cond =>
        rw [asked] at ends
        obtain ⟨fires, ends⟩ := Option.ite_none_right_eq_some.mp ends
        cases ends
        exact .inr ⟨rfl, cond, rfl, fires, rfl, rfl⟩
  · rintro (⟨late, rfl, rfl⟩ | ⟨late, cond, asked, fires, rfl, rfl⟩)
    · rw [late]
      rfl
    · rw [late, asked]
      exact if_pos fires

theorem roundEnds_eq_none_iff {round : Nat} :
    roundEnds conds tl waitTimeout round = none ↔ tl.late waitTimeout round = false ∧
      ∀ cond, asks conds round = some cond → tl.fires round cond = false := by
  rw [roundEnds]
  cases tl.late waitTimeout round with
  | true => simp
  | false =>
    cases asks conds round with
    | none => simp
    | some cond => cases tl.fires round cond <;> simp

/-- Each attached condition is asked once in as many rounds as there are conditions. -/
theorem exists_round {cond : Condition} (attached : some cond ∈ conds) (round : Nat) :
    ∃ r, round ≤ r ∧ r < round + conds.length ∧ asks conds r = some cond := by
  obtain ⟨i, bound, there⟩ := List.getElem_of_mem attached
  have parts := Nat.div_add_mod round conds.length
  have below : round % conds.length < conds.length := Nat.mod_lt _ (Nat.zero_lt_of_lt bound)
  have asked (turns : Nat) : asks conds (conds.length * turns + i) = some cond := by
    rw [asks, Nat.mul_add_mod, Nat.mod_eq_of_lt bound, List.getElem?_eq_getElem bound, there]
    rfl
  by_cases ahead : round % conds.length ≤ i
  · exact ⟨_, by omega, by omega, asked (round / conds.length)⟩
  · refine ⟨_, ?_, ?_, asked (round / conds.length + 1)⟩
    · rw [Nat.mul_succ]
      omega
    · rw [Nat.mul_succ]
      omega

/-- **What stays triggered is found**: if a condition is triggered for as many rounds as there are
conditions, and the time is not up before, then the poll has ended by then, with something that was
triggered. -/
theorem poll_finds (short : conds.length < 2 ^ 32) {cond : Condition}
    (attached : some cond ∈ conds) {round : Nat}
    (lasts : ∀ r, round ≤ r → r < round + conds.length → tl.fires r cond = true)
    (time : ∀ r < round + conds.length, tl.late waitTimeout r = false) :
    ∃ active, active ≠ [] ∧
      waitWPolling conds tl waitTimeout (round + conds.length) = some (.ok, active) := by
  by_cases some_ : ∃ cond, AtFirst conds tl cond
  · obtain ⟨active, found, ends⟩ := waitWPolling_first waitTimeout some_
    obtain ⟨other, first⟩ := some_
    exact ⟨active, List.ne_nil_of_mem ((found other).mpr first), ends _⟩
  · rw [waitWPolling_rounds short (not_exists.mp some_)]
    obtain ⟨r, from_, below, asked⟩ := exists_round attached round
    cases ended : (List.range (round + conds.length)).findSome?
        (roundEnds conds tl waitTimeout) with
    | none =>
      have quiet := List.findSome?_eq_none_iff.mp ended r (List.mem_range.mpr below)
      have fires := (roundEnds_eq_none_iff.mp quiet).2 cond asked
      exact absurd (lasts r from_ below) (by simp [fires])
    | some answer =>
      obtain ⟨ret, active⟩ := answer
      obtain ⟨last, before, ends, -⟩ := findSome_range_iff.mp ended
      rcases roundEnds_eq_some_iff.mp ends with ⟨late, -⟩ | ⟨-, other, -, -, rfl, rfl⟩
      · exact absurd late (by simp [time last before])
      · exact ⟨[other], by simp, rfl⟩

/-- A subscription, a condition that is not there, and a guard condition. -/
def polledConditions : List (Option Condition) := [some (.subscription 1), none, some (.guard 2)]

/-- The guard condition is triggered from the third round on. -/
def polledTimeline : Timeline where
  start := 0
  now round := BitVec.ofNat 64 round
  first _ _ := false
  fires round cond := decide (2 ≤ round ∧ cond = .guard 2)

theorem poll_finds_guard :
    ∃ active, active ≠ [] ∧ waitWPolling polledConditions polledTimeline
      (some { sec := 0, nsec := 100 }) (2 + polledConditions.length) = some (.ok, active) :=
  poll_finds (by decide) (List.mem_of_getElem? (i := 2) rfl)
    (fun r from_ _ => decide_eq_true ⟨from_, rfl⟩) (by decide)

variable (conds tl waitTimeout) in
/-- Before the time is up a round finds nothing. -/
def Quiet (round : Nat) : Prop :=
  tl.late waitTimeout round = false ∧
    ∀ cond, asks conds round = some cond → tl.fires round cond = false

variable (conds tl waitTimeout) in
/-- What a poll ends with: everything that was triggered at first; or else what a round was the
first to find, or nothing, as the time was up. -/
inductive Found : RmwRet → List Condition → Prop
  | first {active : List Condition} (some_ : ∃ cond, AtFirst conds tl cond)
    (all : ∀ cond, cond ∈ active ↔ AtFirst conds tl cond) : Found .ok active
  | round {round : Nat} {cond : Condition} (none_ : ∀ cond, ¬ AtFirst conds tl cond)
    (quiet : ∀ earlier < round, Quiet conds tl waitTimeout earlier)
    (time : tl.late waitTimeout round = false) (asked : asks conds round = some cond)
    (fires : tl.fires round cond = true) : Found .ok [cond]
  | timeout {round : Nat} (none_ : ∀ cond, ¬ AtFirst conds tl cond)
    (quiet : ∀ earlier < round, Quiet conds tl waitTimeout earlier)
    (late : tl.late waitTimeout round = true) : Found .timeout []

theorem found_of_waitWPolling (short : conds.length < 2 ^ 32) {fuel : Nat} {ret : RmwRet}
    {active : List Condition}
    (polled : waitWPolling conds tl waitTimeout fuel = some (ret, active)) :
    Found conds tl waitTimeout ret active := by
  by_cases some_ : ∃ cond, AtFirst conds tl cond
  · obtain ⟨found, all, ends⟩ := waitWPolling_first waitTimeout some_
    rw [ends fuel] at polled
    cases polled
    exact .first some_ all
  · have none_ := not_exists.mp some_
    rw [waitWPolling_rounds short none_] at polled
    obtain ⟨round, -, ends, before⟩ := findSome_range_iff.mp polled
    have quiet (earlier : Nat) (below : earlier < round) : Quiet conds tl waitTimeout earlier :=
      roundEnds_eq_none_iff.mp (before earlier below)
    rcases roundEnds_eq_some_iff.mp ends with
      ⟨late, rfl, rfl⟩ | ⟨time, cond, asked, fires, rfl, rfl⟩
    · exact .timeout none_ quiet late
    · exact .round none_ quiet time asked fires

/-- With no condition active, all entries but those of events become null, and no guard condition is
reset. -/
theorem Reports.nothing {reads : ReadConditions} {event : Ptr → RmwEvent}
    {events : Option (List Ptr)} {w w' : World} (reports : Reports reads event [] events w w') :
    (∀ entry ∈ w'.subscriptions.getD [] ++ w'.guardConditions.getD [] ++ w'.services.getD [] ++
      w'.clients.getD [], entry = none) ∧ w'.triggers = w.triggers := by
  have inactive (condition : Ptr → Option Condition) (entries : Option (List (Option Ptr)))
      (entry : Option Ptr) (mem : entry ∈
        (entries.map (List.map (Option.filter (isActive condition [])))).getD []) :
      entry = none := by
    cases entries with
    | none => cases mem
    | some entries =>
      obtain ⟨was, -, rfl⟩ := List.mem_map.mp mem
      refine Option.filter_eq_none_iff.mpr fun p _ active => ?_
      obtain ⟨cond, -, mem⟩ := Option.any_eq_true _ _ |>.mp active
      simp at mem
  refine ⟨fun entry mem => ?_, funext fun p => ?_⟩
  · rw [reports.subscriptions, reports.guardConditions, reports.services, reports.clients] at mem
    simp only [List.mem_append] at mem
    rcases mem with ((mem | mem) | mem) | mem
    · exact inactive _ _ entry mem
    · exact inactive _ _ entry mem
    · exact inactive _ _ entry mem
    · exact inactive _ _ entry mem
  · rw [reports.triggers p]
    exact if_neg fun here => List.not_mem_nil here.2

/-- **What a wait that polls leaves**: the entries whose conditions the poll has found, and the
events that have changed. If the time was up, that is events only. -/
theorem polled_wait {reads : ReadConditions} {resets : Ptr → Bool} {event : Ptr → RmwEvent}
    (short : conds.length < 2 ^ 32) {fuel : Nat} {ret : RmwRet} {active : List Condition}
    (polled : waitWPolling conds tl waitTimeout fuel = some (ret, active)) (a : Args)
    (triggers : Ptr → Bool) (endpoints : Ptr → Observed) {ret' : RmwRet} {w' : World}
    (returned : finishWait reads resets event active a.events (.polling ret)
      (.passing a triggers endpoints) = .ok ret' w') :
    ret' = ret ∧ Found conds tl waitTimeout ret active ∧
      Reports reads event active a.events (.passing a triggers endpoints) w' ∧
      (ret = .timeout → (∀ entry ∈ w'.subscriptions.getD [] ++ w'.guardConditions.getD [] ++
        w'.services.getD [] ++ w'.clients.getD [], entry = none) ∧ w'.triggers = triggers) := by
  obtain ⟨same, reports⟩ := poll_reports a triggers endpoints returned
  have found := found_of_waitWPolling short polled
  refine ⟨same, found, reports, fun timeout => ?_⟩
  cases found with
  | first => cases timeout
  | round => cases timeout
  | timeout => exact reports.nothing

/-- A wait for both, and for a guard condition more. -/
def polledWait : Args where
  subscriptions := some [some 1]
  guardConditions := some [some 2, some 3]
  services := none
  clients := none
  events := none

theorem polled_wait_guard :
    RmwRet.ok = .ok ∧
      Found polledConditions polledTimeline (some { sec := 0, nsec := 100 }) .ok [.guard 2] ∧
      Reports ⟨some ∘ .subscription, some ∘ .service, some ∘ .client⟩
        (fun _ => ⟨some 6, some .livelinessLost⟩) [.guard 2] polledWait.events
        (.passing polledWait (fun _ => true) fun _ => .create .publisher)
        { subscriptions := some [none]
          guardConditions := some [some 2, none]
          services := none
          clients := none
          events := none
          triggers := Function.update (fun _ => true) 2 false
          endpoints := fun _ => .create .publisher } ∧
      (RmwRet.ok = .timeout → (∀ entry ∈ [none] ++ [some 2, none] ++ [] ++ [], entry = none) ∧
        Function.update (fun _ => true) 2 false = fun _ => true) := by
  have polled : waitWPolling polledConditions polledTimeline (some { sec := 0, nsec := 100 }) 3 =
      some (.ok, [.guard 2]) := by decide
  have returned : finishWait ⟨some ∘ .subscription, some ∘ .service, some ∘ .client⟩
      (fun _ => true) (fun _ => ⟨some 6, some .livelinessLost⟩) [.guard 2] polledWait.events
      (.polling .ok) (.passing polledWait (fun _ => true) fun _ => .create .publisher) =
        .ok .ok _ := rfl
  exact polled_wait (by decide) polled polledWait _ _ returned

end Polls

end Wait

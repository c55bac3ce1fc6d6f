import RmwGurumdds.Events.EventInfo
import RmwGurumdds.Exec.Runs

/-!
# What callbacks are told

A callback is told, at each notification of its event, of a number of changes. From its installation
on, the changes it has been told of should add up to those that were notified (`Tally.Balanced`),
whatever is taken in between.

A listener method has the notified change and the record that has taken it in. Told is mostly the
record's, which counts the changes not yet taken again. The two methods for the type of the topic
tell the notified change, and are right whatever happens. One of the missed deadlines tells what the
record of the lost liveliness has, the other tells the callback of another event.
-/

namespace Events

open Exec Function

/-! ## One notification -/

/-- The event whose callback a listener method calls. -/
def EventType.slot : EventType → EventType
  | .requestedDeadlineMissed => .livelinessChanged
  | e => e

/-- The count that a listener method passes on. -/
def EventInfo.told (info : EventInfo) : (e : EventType) → e.Status → Int
  | .publisherIncompatibleType, s | .subscriptionIncompatibleType, s => s.totalCountChange
  | .livelinessChanged, s => (info.status .livelinessChanged).aliveCountChange + s.aliveCountChange
  | .offeredDeadlineMissed, s =>
    (info.status .livelinessLost).totalCountChange + s.totalCountChange
  | e, s => e.changes (info.status e) + e.changes s

/-- **A listener method calls one callback, with one count.** -/
theorem listener_calls (info : EventInfo) (e : EventType) (status : e.Status) :
    (info.listener e status).2 = info.call e.slot (info.told e status) := by
  cases e <;> rfl

theorem listener_onNewEventCb (info : EventInfo) (e : EventType) (status : e.Status) :
    (info.listener e status).1.onNewEventCb = info.onNewEventCb := by
  cases e <;> rfl

/-- What a call passes on, where there is a callback. -/
theorem sum_call {info : EventInfo} {e : EventType} (installed : info.onNewEventCb e ≠ none)
    (count : Int) : ((info.call e count).map Call.count).sum = count := by
  obtain ⟨callback, has⟩ := Option.ne_none_iff_exists'.mp installed
  unfold EventInfo.call
  rw [has]
  exact Int.add_zero count

/-! ## Runs -/

/-- What happens to an endpoint with a callback. -/
inductive Turn where
  /-- A listener method is called. -/
  | notify (e : EventType) (status : e.Status)
  | getStatus (e : EventType)

/-- An endpoint, what the callback of an event was told of, and what was notified. -/
structure Tally where
  endpoint : Endpoint
  told : Int
  notified : Int

/-- The tally of a callback that has just been installed. -/
def Tally.install (x : Endpoint) (e : EventType) (userData : UserData) (callback : Callback) :
    Tally where
  endpoint := (x.setOnNewEventCallback e userData (some callback)).1
  told := 0
  notified := 0

/-- A turn. DDS has no status for the events of the other kind of endpoint. -/
def Tally.step (e : EventType) (t : Tally) : Turn → Tally
  | .notify e' status =>
    if t.endpoint.kind.supports e' then
      { endpoint := { t.endpoint with info := (t.endpoint.info.listener e' status).1 }
        told := t.told +
          if e'.slot = e then ((t.endpoint.info.listener e' status).2.map Call.count).sum else 0
        notified := t.notified + if e' = e then e'.changes status else 0 }
    else t
  | .getStatus e' => { t with endpoint := (t.endpoint.getStatus e').1 }

/-- The tally after some turns. -/
def Tally.after (x : Endpoint) (e : EventType) (userData : UserData) (callback : Callback)
    (turns : List Turn) : Tally :=
  run (Tally.step e) (.install x e userData callback) turns

/-- **The callback was told of what was notified.** -/
def Tally.Balanced (t : Tally) : Prop := t.told = t.notified

/-- Which turns tell the callback of `e` of the changes they notify. The record that a listener
method tells it of must have nothing from before; one of the missed deadlines must have nothing to
tell. -/
def Endpoint.TellsOnce (x : Endpoint) (e : EventType) : Turn → Prop
  | .notify .publisherIncompatibleType _ | .notify .subscriptionIncompatibleType _ => True
  | .notify .requestedDeadlineMissed status =>
    e = .requestedDeadlineMissed → status.totalCountChange = 0
  | .notify .offeredDeadlineMissed _ =>
    e = .offeredDeadlineMissed → (x.info.status .livelinessLost).totalCountChange = 0
  | .notify e' _ => e' = e → e'.changes (x.info.status e') = 0
  | .getStatus _ => True

section Turn

variable {e : EventType} (counted : e ≠ .livelinessChanged)

/-- The callback and its event are there. -/
structure Tally.Installed (t : Tally) (e : EventType) : Prop where
  supported : t.endpoint.kind.supports e = true
  callback : t.endpoint.info.onNewEventCb e ≠ none

theorem Tally.Installed.step {t : Tally} (installed : t.Installed e) (turn : Turn) :
    (t.step e turn).Installed e := by
  cases turn with
  | notify e' status =>
    unfold Tally.step
    dsimp only
    split
    · refine ⟨installed.supported, ?_⟩
      show (t.endpoint.info.listener e' status).1.onNewEventCb e ≠ none
      rw [listener_onNewEventCb]
      exact installed.callback
    · exact installed
  | getStatus e' =>
    have same := t.endpoint.getStatus_setup e'
    exact ⟨same.kind ▸ installed.supported, same.onNewEventCb ▸ installed.callback⟩

include counted in
/-- The callback of a counted event is not called for another event. -/
theorem slot_iff {e' : EventType} : e'.slot = e ↔ e' = e ∧ e ≠ .requestedDeadlineMissed := by
  constructor
  · rintro rfl
    cases e' with
    | requestedDeadlineMissed => exact absurd rfl counted
    | _ => exact ⟨rfl, by decide⟩
  · rintro ⟨rfl, own⟩
    cases e' with
    | requestedDeadlineMissed => exact absurd rfl own
    | _ => rfl

include counted in
/-- A notification of the event tells what it should exactly when it tells it once. -/
theorem told_iff {x : Endpoint} (status : e.Status) :
    (if e ≠ .requestedDeadlineMissed then x.info.told e status else 0) = e.changes status ↔
      x.TellsOnce e (.notify e status) := by
  cases e with
  | livelinessChanged => exact absurd rfl counted
  | requestedDeadlineMissed => exact ⟨fun same _ => same.symm, fun none => (none rfl).symm⟩
  | publisherIncompatibleType => exact iff_of_true rfl trivial
  | subscriptionIncompatibleType => exact iff_of_true rfl trivial
  | offeredDeadlineMissed =>
    show (x.info.status .livelinessLost).totalCountChange + status.totalCountChange =
      status.totalCountChange ↔ _
    exact ⟨fun same _ => by omega, fun none => by rw [none rfl, Int.zero_add]⟩
  | _ =>
    show EventType.changes _ _ + EventType.changes _ status = EventType.changes _ status ↔ _
    exact ⟨fun same _ => by omega, fun none => by rw [none rfl, Int.zero_add]⟩

/-- A notification of another event has nothing to tell. -/
theorem tellsOnce_other {x : Endpoint} {e' : EventType} (other : e' ≠ e) (status : e'.Status) :
    x.TellsOnce e (.notify e' status) := by
  cases e' with
  | publisherIncompatibleType | subscriptionIncompatibleType => trivial
  | requestedDeadlineMissed | offeredDeadlineMissed => exact fun same => absurd same.symm other
  | _ => exact fun same => absurd same other

include counted in
/-- **A turn keeps the balance exactly when it tells its changes once.** -/
theorem Tally.balanced_step {t : Tally} (installed : t.Installed e) (balanced : t.Balanced)
    (turn : Turn) : (t.step e turn).Balanced ↔ t.endpoint.TellsOnce e turn := by
  cases turn with
  | getStatus e' => exact iff_of_true balanced trivial
  | notify e' status =>
    by_cases supported : t.endpoint.kind.supports e' = true
    · have step : t.step e (.notify e' status) =
          { endpoint := { t.endpoint with info := (t.endpoint.info.listener e' status).1 }
            told := t.told +
              if e'.slot = e then ((t.endpoint.info.listener e' status).2.map Call.count).sum
              else 0
            notified := t.notified + if e' = e then e'.changes status else 0 } := if_pos supported
      rw [step]
      unfold Tally.Balanced at balanced ⊢
      dsimp only
      rw [balanced, Int.add_right_inj]
      by_cases same : e' = e
      · subst same
        rw [← told_iff counted, if_pos rfl]
        by_cases own : e' ≠ .requestedDeadlineMissed
        · have slot : e'.slot = e' := (slot_iff counted).mpr ⟨rfl, own⟩
          rw [if_pos slot, if_pos own, listener_calls, slot, sum_call installed.callback]
        · rw [if_neg fun slot => own ((slot_iff counted).mp slot).2, if_neg own]
      · rw [if_neg fun slot => same ((slot_iff counted).mp slot).1, if_neg same]
        exact iff_of_true rfl (tellsOnce_other same status)
    · have kept : t.step e (.notify e' status) = t := if_neg supported
      rw [kept]
      refine iff_of_true balanced (tellsOnce_other (fun same => ?_) status)
      exact supported (same ▸ installed.supported)

end Turn

/-- **When a callback is told of every change once.** From the installation of a callback for an
event with a total count, at any endpoint that supports it, the counts the callback is told of add
up throughout to the changes that are notified, exactly when each notification tells its changes
once where it happens. -/
theorem callback_counts_iff (x : Endpoint) (e : EventType) (supported : x.kind.supports e = true)
    (counted : e ≠ .livelinessChanged) (userData : UserData) (callback : Callback)
    (turns : List Turn) :
    Always (fun before => (Tally.after x e userData callback before).Balanced) turns ↔
      Each (fun before turn =>
        (Tally.after x e userData callback before).endpoint.TellsOnce e turn) turns := by
  have start : (Tally.install x e userData callback).Installed e := by
    refine ⟨(x.setOnNewEventCallback_kind e userData _).symm ▸ supported, ?_⟩
    show (x.setOnNewEventCallback e userData (some callback)).1.info.onNewEventCb e ≠ none
    rw [Endpoint.setOnNewEventCallback_supported supported]
    exact (update_self (f := x.info.onNewEventCb) e _).trans_ne (Option.some_ne_none callback)
  refine always_iff_each
    (I := fun before => (Tally.after x e userData callback before).Installed e) start rfl ?_
  intro before turn _ installed balanced
  unfold Tally.after at installed balanced ⊢
  rw [run_concat]
  exact ⟨fun _ => installed.step turn, Tally.balanced_step counted installed balanced turn⟩

/-- A publisher is told of two matches, the second after the first is taken. -/
theorem publicationMatched_counted :
    Always (fun before =>
        (Tally.after (.create .publisher) .publicationMatched 0 1 before).Balanced)
      [.notify .publicationMatched ⟨1, 1, 1, 1⟩, .getStatus .publicationMatched,
        .notify .publicationMatched ⟨2, 1, 2, 1⟩] := by
  refine (callback_counts_iff _ .publicationMatched rfl (by decide) 0 1 _).mpr ?_
  show Each _ ([] ++ [_] ++ [_] ++ [_])
  rw [each_concat, each_concat, each_concat]
  exact ⟨⟨⟨each_nil, fun _ => by decide⟩, trivial⟩, fun _ => by decide⟩

/-- A publisher is told of two matches, and the first is not taken: it is counted twice. -/
theorem publicationMatched_countedTwice :
    ¬ (Tally.after (.create .publisher) .publicationMatched 0 1
      [.notify .publicationMatched ⟨1, 1, 1, 1⟩,
        .notify .publicationMatched ⟨2, 1, 2, 1⟩]).Balanced := by
  unfold Tally.Balanced
  decide

end Events

import Mathlib.Data.List.Forall2
import RmwGurumdds.Exec.Runs
import RmwGurumdds.Service.Correlation

/-!
# Requests reported as taken

The reader of a service's requests keeps the samples that have arrived, with valid data or without:
an instance that is disposed of or unregistered is a sample too. A call of `rmw_take_request` takes
the first of them out. While every call returns `RMW_RET_OK`, the calls that report a request should
deliver the valid samples that were taken out, one each and in order (`Log.Delivers`).

They do as long as only valid samples are taken out (`requests_delivered_iff`): a call that takes
out any other reports it as taken, and leaves in the header and in the message what was there.
-/

namespace Service

open Wire Cdr Rmw Exec

/-- A sample as it waits at a reader. -/
structure Arrived where
  data : Option (List Byte)
  info : SampleInfoEx
deriving DecidableEq

/-- What happens at the request reader of a service. -/
inductive Turn where
  | arrive (sample : Arrived)
  /-- `rmw_take_request` is called. -/
  | takeRequest (header : RmwServiceInfo) (message : Value)

/-- What a call took out of the reader, and how it ended. -/
structure Call where
  sample : Option Arrived
  took : Took

/-- The calls so far. -/
abbrev Log := List Call

/-- A request reader and the calls so far. -/
structure Serving where
  queue : List Arrived
  log : Log

section Runs

variable (r : Reader)

/-- A call of `rmw_take_request`, where `dds_DataReader_raw_take` takes out `sample`, or has no
data. The call would return a failure of DDS, and is not told of one. -/
def Call.made (header : RmwServiceInfo) (message : Value) (sample : Option Arrived) : Call where
  sample
  took := rmwTakeRequest r header message (sample.elim .noData fun s => .sample s.data s.info)

/-- A turn. The first sample is taken out, if there is one. -/
def Serving.step (s : Serving) : Turn → Serving
  | .arrive sample => { s with queue := s.queue ++ [sample] }
  | .takeRequest header message =>
    { queue := s.queue.tail, log := s.log ++ [.made r header message s.queue.head?] }

/-- After some turns. -/
def Serving.after (queue : List Arrived) (turns : List Turn) : Serving :=
  run (Serving.step r) { queue, log := [] } turns

end Runs

/-! ## What was delivered -/

/-- The samples that were taken out. -/
def Log.consumed (log : Log) : List Arrived := log.filterMap Call.sample

/-- What a call delivers, if it reports a request. -/
def Call.delivered (call : Call) : Option Took := if call.took.taken then some call.took else none

/-- The calls that report a request. -/
def Log.delivered (log : Log) : List Took := log.filterMap Call.delivered

/-- The sample that a call took out, if it was a valid one. -/
def Call.valid (call : Call) : Option Arrived := call.sample.filter fun s => s.info.validData

/-- The valid samples that were taken out. -/
def Log.validSamples (log : Log) : List Arrived := log.filterMap Call.valid

/-- The request and the header are filled from the sample. -/
def Filled (r : Reader) (took : Took) (sample : Arrived) : Prop :=
  ∃ data i, sample.data = some data ∧ took.From r true data sample.info i

/-- **The calls deliver the valid samples**: those that report a request correspond to the valid
samples that were taken out, one each and in order, and any other call reports none. -/
structure Log.Delivers (r : Reader) (log : Log) : Prop where
  filled : List.Forall₂ (Filled r) log.delivered log.validSamples
  nothing : ∀ call ∈ log, call.valid = none → call.took.taken = false

/-- A call has ended as it should. -/
structure Call.Right (r : Reader) (call : Call) : Prop where
  filled : ∀ s, call.valid = some s → call.took.taken = true ∧ Filled r call.took s
  nothing : call.valid = none → call.took.taken = false

section Calls

variable {r : Reader} {log : Log}

/-- Calls that have each ended as they should deliver the valid samples. -/
theorem delivers_of_right (right : ∀ call ∈ log, call.Right r) : log.Delivers r := by
  constructor
  · induction log with
    | nil => exact .nil
    | cons call log ih =>
      have later := ih fun call mem => right call (.tail _ mem)
      have now := right call List.mem_cons_self
      unfold Log.delivered Log.validSamples at later ⊢
      cases valid : call.valid with
      | some sample =>
        obtain ⟨taken, filled⟩ := now.filled sample valid
        have delivered : call.delivered = some call.took := if_pos taken
        rw [List.filterMap_cons_some delivered, List.filterMap_cons_some valid]
        exact .cons filled later
      | none =>
        have delivered : call.delivered = none :=
          if_neg (Bool.eq_false_iff.mp (now.nothing valid))
        rwa [List.filterMap_cons_none delivered, List.filterMap_cons_none valid]
  · exact fun call mem => (right call mem).nothing

/-- Any other sample is reported as taken. -/
theorem took_invalid {header : RmwServiceInfo} {message : Value} {s : Arrived}
    (invalid : ¬ s.info.validData = true) :
    (rmwTakeRequest r header message (.sample s.data s.info)).taken = true := by
  simp only [rmwTakeRequest, if_neg invalid]

/-- A valid sample that a call returns `RMW_RET_OK` for is taken, and read. -/
theorem took_valid {header : RmwServiceInfo} {message : Value} {s : Arrived}
    (valid : s.info.validData = true)
    (returned : (rmwTakeRequest r header message (.sample s.data s.info)).ret = .ok .ok) :
    (rmwTakeRequest r header message (.sample s.data s.info)).taken = true := by
  simp only [rmwTakeRequest, if_pos valid] at returned ⊢
  cases data : s.data with
  | none =>
    simp only [data] at returned
    cases returned
  | some data' =>
    cases read : (r.identify message true data' s.info).target with
    | some i => simp only [read]
    | none =>
      simp only [data, read] at returned
      cases ret : (r.identify message true data' s.info).ret with
      | ok fine =>
        rw [Took.nothing, ret] at returned
        cases returned
      | error e =>
        rw [Took.nothing, ret] at returned
        cases returned

/-- **A call that returns `RMW_RET_OK` has ended as it should exactly if it took out no invalid
sample.** -/
theorem made_right_iff {header : RmwServiceInfo} {message : Value} {sample : Option Arrived}
    (returned : (Call.made r header message sample).took.ret = .ok .ok) :
    (Call.made r header message sample).Right r ↔
      ∀ s, sample = some s → s.info.validData = true := by
  cases sample with
  | none =>
    refine iff_of_true ⟨fun s valid => ?_, fun _ => rfl⟩ fun s none => ?_
    · cases valid
    · cases none
  | some s =>
    constructor
    · intro right s' same
      obtain rfl := Option.some.inj same
      by_contra invalid
      have nothing := right.nothing (if_neg invalid)
      exact Bool.noConfusion ((took_invalid invalid).symm.trans nothing)
    · intro valid
      have valid := valid s rfl
      have taken := took_valid valid returned
      have own : (Call.made r header message (some s)).valid = some s := if_pos valid
      refine ⟨fun s' same => ?_, fun none => ?_⟩
      · obtain rfl := Option.some.inj (own.symm.trans same)
        obtain ⟨data, info, answer, read⟩ := rmwTakeRequest_taken taken
        obtain ⟨rfl, rfl⟩ := RawTake.sample.inj answer
        obtain ⟨data, i, has, from_⟩ := read valid
        exact ⟨taken, data, i, has, from_⟩
      · cases own.symm.trans none

end Calls

/-! ## Whole runs -/

/-- The samples that arrive in some turns. -/
def arrivals (turns : List Turn) : List Arrived :=
  turns.filterMap fun
    | .arrive sample => some sample
    | .takeRequest .. => none

section After

variable {r : Reader} {queue : List Arrived} {turns : List Turn}

/-- A sample that is taken out is the first one that waits. -/
theorem step_samples (s : Serving) (turn : Turn) :
    (s.step r turn).log.consumed ++ (s.step r turn).queue =
      s.log.consumed ++ s.queue ++ arrivals [turn] := by
  cases turn with
  | arrive sample => exact (List.append_assoc _ _ _).symm
  | takeRequest header message =>
    obtain ⟨queue, log⟩ := s
    unfold Serving.step Log.consumed
    dsimp only
    rw [List.filterMap_append]
    cases queue with
    | nil =>
      simp [Call.made, arrivals]
    | cons sample rest =>
      simp [Call.made, arrivals]

/-- **The samples are taken out in the order in which they arrived**, each once. -/
theorem after_samples :
    (Serving.after r queue turns).log.consumed ++ (Serving.after r queue turns).queue =
      queue ++ arrivals turns := by
  induction turns using List.reverseRecOn with
  | nil => exact (List.append_nil _).symm
  | append_singleton before turn ih =>
    unfold Serving.after at ih ⊢
    rw [run_concat, step_samples, ih, List.append_assoc]
    exact congrArg _ List.filterMap_append.symm

/-- Every call was made at the reader. -/
theorem after_made : ∀ call ∈ (Serving.after r queue turns).log,
    ∃ header message sample, call = Call.made r header message sample := by
  refine run_invariant (I := fun s : Serving => ∀ call ∈ s.log,
    ∃ header message sample, call = Call.made r header message sample)
    (fun call mem => absurd mem List.not_mem_nil) (fun s turn made call mem => ?_) turns
  cases turn with
  | arrive sample => exact made call mem
  | takeRequest header message =>
    rcases List.mem_append.mp mem with mem | mem
    · exact made call mem
    · exact ⟨header, message, _, List.mem_singleton.mp mem⟩

end After

/-- **When requests are delivered.** At the request reader of a service, in both mappings, whatever
waits there and whatever arrives: while the calls return `RMW_RET_OK`, they deliver the valid
samples among those they take out exactly when they take out no other. What they take out is what
waited and arrived, in that order. -/
theorem requests_delivered_iff (r : Reader) (queue : List Arrived) (turns : List Turn)
    (returned : ∀ call ∈ (Serving.after r queue turns).log, call.took.ret = .ok .ok) :
    (Serving.after r queue turns).log.consumed ++ (Serving.after r queue turns).queue =
        queue ++ arrivals turns ∧
      ((Serving.after r queue turns).log.Delivers r ↔
        ∀ s ∈ (Serving.after r queue turns).log.consumed, s.info.validData = true) := by
  refine ⟨after_samples, fun delivers s mem => ?_, fun valid => ?_⟩
  · obtain ⟨call, called, took⟩ := List.mem_filterMap.mp mem
    obtain ⟨header, message, sample, rfl⟩ := after_made call called
    obtain rfl : sample = some s := took
    by_contra invalid
    have nothing := delivers.nothing _ called (if_neg invalid)
    exact Bool.noConfusion ((took_invalid invalid).symm.trans nothing)
  · refine delivers_of_right fun call called => ?_
    obtain ⟨header, message, sample, rfl⟩ := after_made call called
    refine (made_right_iff (returned _ called)).mpr fun s same => valid s ?_
    exact List.mem_filterMap.mpr ⟨_, called, same⟩

/-- A request with one byte, in a sample with valid data or without. -/
def oneByteRequest (validData : Bool) : Arrived where
  data := some [0, 1, 0, 0, 5]
  info := { sampleRequestId.describe { sec := 0, nanosec := 0 } with validData }

/-- A request arrives and is taken, and there is no other. -/
def oneRequest (validData : Bool) : List Turn :=
  [.arrive (oneByteRequest validData), .takeRequest sampleHeader (.message []),
    .takeRequest sampleHeader (.message [])]

theorem requests_delivered_iff_oneByte :
    (Serving.after sampleReader [] (oneRequest true)).log.Delivers sampleReader := by
  refine (requests_delivered_iff sampleReader [] (oneRequest true) ?_).2.mpr ?_
  · decide +kernel
  · decide +kernel

/-- A sample without valid data is reported as a request, though every call returns `RMW_RET_OK`. -/
theorem invalid_reported :
    (∀ call ∈ (Serving.after sampleReader [] (oneRequest false)).log, call.took.ret = .ok .ok) ∧
      ¬ (Serving.after sampleReader [] (oneRequest false)).log.Delivers sampleReader := by
  refine ⟨by decide +kernel, fun delivers => ?_⟩
  have nothing := delivers.nothing _ List.mem_cons_self rfl
  exact absurd nothing (by decide)

end Service

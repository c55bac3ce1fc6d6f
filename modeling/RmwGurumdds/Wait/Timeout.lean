import RmwGurumdds.Rmw.Qos

/-!
# How long a wait may take

A wait is given a time in seconds and nanoseconds, 64 bits each. A wait on a wait set narrows both
to the 32 bits of a `dds_Duration_t`; a wait that polls counts nanoseconds in 64 bits and adds them
to the clock. Neither looks at what it narrows or adds.

A wait keeps its timeout (`Kept`) exactly when the time asked for fits: below `2^31` seconds on a
wait set, and below `2^63` nanoseconds, also on top of the clock, in a poll (`timeout_kept_iff`).
-/

namespace Wait

open Rmw

/-! ## The timeouts -/

/-- The `dds_Duration_t` that `dds_WaitSet_wait` is given. -/
def waitSetTimeout : Option RmwTime → DdsDuration
  | none => { sec := DdsDuration.infinite.sec, nanosec := 0 }
  | some waitTimeout =>
    { sec := waitTimeout.sec.setWidth 32, nanosec := waitTimeout.nsec.setWidth 32 }

/-- `std::chrono::nanoseconds(sec * 1000000000ULL + nsec)` of `wait_w_polling`. -/
def pollNanoseconds (waitTimeout : RmwTime) : BitVec 64 :=
  waitTimeout.sec * 1000000000#64 + waitTimeout.nsec

/-- The deadline of `wait_w_polling`, which counts only if it was given a timeout. -/
def pollDeadline (now : BitVec 64) (waitTimeout : Option RmwTime) : BitVec 64 :=
  now + pollNanoseconds (waitTimeout.getD { sec := 0, nsec := 0 })

/-- How a wait blocks. `now` is the time of the steady clock at which it starts to poll. -/
inductive Blocking where
  | waitSet
  | polling (now : BitVec 64)

/-- The nanoseconds of a second. -/
def nanosPerSec : Nat := 1000000000

/-- The time that is asked for, in nanoseconds. -/
def requested (waitTimeout : RmwTime) : Nat :=
  waitTimeout.sec.toNat * nanosPerSec + waitTimeout.nsec.toNat

/-- The largest finite duration, in nanoseconds. -/
def longest : Nat := (2 ^ 31 - 1) * nanosPerSec

/-- The time a wait may take, in nanoseconds. The seconds of a `dds_Duration_t` and the steady clock
are signed. -/
def effective : Blocking → RmwTime → Int
  | .waitSet, waitTimeout =>
    (waitSetTimeout (some waitTimeout)).sec.toInt * nanosPerSec +
      (waitSetTimeout (some waitTimeout)).nanosec.toNat
  | .polling now, waitTimeout => (pollDeadline now (some waitTimeout)).toInt - now.toInt

/-- Nothing wraps on the way: each conversion keeps the value, and each product and sum is that of
the integers. -/
def Unwrapped : Blocking → RmwTime → Prop
  | .waitSet, waitTimeout =>
    (waitTimeout.sec.setWidth 32).toInt = waitTimeout.sec.toNat ∧
      (waitTimeout.nsec.setWidth 32).toNat = waitTimeout.nsec.toNat
  | .polling now, waitTimeout =>
    (waitTimeout.sec * 1000000000#64).toNat = waitTimeout.sec.toNat * 1000000000 ∧
      (pollNanoseconds waitTimeout).toNat =
        (waitTimeout.sec * 1000000000#64).toNat + waitTimeout.nsec.toNat ∧
      (pollNanoseconds waitTimeout).toInt = (pollNanoseconds waitTimeout).toNat ∧
      (pollDeadline now (some waitTimeout)).toInt =
        now.toInt + (pollNanoseconds waitTimeout).toInt

/-- **A timeout is kept**: it is not shortened, unless to the largest finite duration; it is not
negative, and nothing wraps. -/
structure Kept (blocking : Blocking) (waitTimeout : RmwTime) : Prop where
  least : min (requested waitTimeout) longest ≤ effective blocking waitTimeout
  nonneg : 0 ≤ effective blocking waitTimeout
  unwrapped : Unwrapped blocking waitTimeout

/-- The time that is asked for fits. -/
def Fits : Blocking → RmwTime → Prop
  | .waitSet, waitTimeout => waitTimeout.sec.toNat < 2 ^ 31
  | .polling now, waitTimeout =>
    requested waitTimeout < 2 ^ 63 ∧ now.toInt + requested waitTimeout < 2 ^ 63

instance (blocking : Blocking) (waitTimeout : RmwTime) : Decidable (Fits blocking waitTimeout) := by
  cases blocking <;> unfold Fits <;> infer_instance

/-! ## When they are kept -/

/-- A word of 64 bits, narrowed to 32 of them, is the same number exactly if it is a nonnegative one
of those. -/
theorem setWidth_toInt_iff {n : BitVec 64} :
    (n.setWidth 32).toInt = n.toNat ↔ n.toNat < 2 ^ 31 := by
  rw [BitVec.toInt_setWidth, Int.bmod_def]
  have bound := n.isLt
  omega

section Kept

variable {waitTimeout : RmwTime}

theorem nanosec_unwrapped (proper : waitTimeout.nsec.toNat < nanosPerSec) :
    (waitTimeout.nsec.setWidth 32).toNat = waitTimeout.nsec.toNat := by
  rw [BitVec.toNat_setWidth]
  unfold nanosPerSec at proper
  omega

theorem waitSet_unwrapped_iff (proper : waitTimeout.nsec.toNat < nanosPerSec) :
    Unwrapped .waitSet waitTimeout ↔ Fits .waitSet waitTimeout :=
  (and_iff_left (nanosec_unwrapped proper)).trans setWidth_toInt_iff

/-- A duration that nothing has wrapped in is the one that was asked for. -/
theorem waitSet_effective (unwrapped : Unwrapped .waitSet waitTimeout) :
    effective .waitSet waitTimeout = requested waitTimeout := by
  show (waitTimeout.sec.setWidth 32).toInt * _ + ((waitTimeout.nsec.setWidth 32).toNat : Int) = _
  rw [unwrapped.1, unwrapped.2]
  unfold requested
  omega

/-- The nanoseconds that are counted are those that were asked for, if 63 bits hold them. -/
theorem pollNanoseconds_toNat (fits : requested waitTimeout < 2 ^ 63) :
    (waitTimeout.sec * 1000000000#64).toNat = waitTimeout.sec.toNat * 1000000000 ∧
      (pollNanoseconds waitTimeout).toNat = requested waitTimeout := by
  have small : requested waitTimeout < 2 ^ 64 := Nat.lt_trans fits (by decide)
  have product : (waitTimeout.sec * 1000000000#64).toNat = waitTimeout.sec.toNat * 1000000000 := by
    have second : (1000000000#64).toNat = 1000000000 := by decide
    rw [BitVec.toNat_mul, second]
    exact Nat.mod_eq_of_lt (Nat.lt_of_le_of_lt (Nat.le_add_right _ _) small)
  refine ⟨product, ?_⟩
  unfold pollNanoseconds
  rw [BitVec.toNat_add, product]
  exact Nat.mod_eq_of_lt small

theorem poll_unwrapped_iff {now : BitVec 64} :
    Unwrapped (.polling now) waitTimeout ↔ Fits (.polling now) waitTimeout := by
  constructor
  · rintro ⟨product, sum, number, deadline⟩
    have counted : (pollNanoseconds waitTimeout).toNat = requested waitTimeout := by
      rw [sum, product]
      rfl
    have below := BitVec.toInt_lt (x := pollNanoseconds waitTimeout)
    have deadlineBelow := BitVec.toInt_lt (x := pollDeadline now (some waitTimeout))
    rw [number, counted] at below deadline
    rw [deadline] at deadlineBelow
    exact ⟨by omega, by omega⟩
  · rintro ⟨fits, clock⟩
    obtain ⟨product, counted⟩ := pollNanoseconds_toNat fits
    have number : (pollNanoseconds waitTimeout).toInt = (pollNanoseconds waitTimeout).toNat :=
      BitVec.toInt_eq_toNat_of_lt (by omega)
    refine ⟨product, ?_, number, ?_⟩
    · rw [counted, product]
      rfl
    · show (now + pollNanoseconds waitTimeout).toInt = _
      have least := BitVec.le_toInt now
      rw [BitVec.toInt_add, number, counted]
      exact Int.bmod_eq_of_le_mul_two (by omega) (by omega)

/-- A deadline that nothing has wrapped in is as far off as was asked for. -/
theorem poll_effective {now : BitVec 64} (unwrapped : Unwrapped (.polling now) waitTimeout) :
    effective (.polling now) waitTimeout = requested waitTimeout := by
  obtain ⟨product, sum, number, deadline⟩ := unwrapped
  show (pollDeadline now (some waitTimeout)).toInt - now.toInt = _
  rw [deadline, number, sum, product]
  unfold requested nanosPerSec
  omega

theorem unwrapped_iff (blocking : Blocking) (proper : waitTimeout.nsec.toNat < nanosPerSec) :
    Unwrapped blocking waitTimeout ↔ Fits blocking waitTimeout := by
  cases blocking with
  | waitSet => exact waitSet_unwrapped_iff proper
  | polling now => exact poll_unwrapped_iff

theorem effective_eq {blocking : Blocking} (unwrapped : Unwrapped blocking waitTimeout) :
    effective blocking waitTimeout = requested waitTimeout := by
  cases blocking with
  | waitSet => exact waitSet_effective unwrapped
  | polling now => exact poll_effective unwrapped

end Kept

/-- **When a timeout is kept.** On a wait set and in a poll, at every time of the clock and for
every time that is asked for, the timeout is kept exactly when that time fits. -/
theorem timeout_kept_iff (blocking : Blocking) (waitTimeout : RmwTime)
    (proper : waitTimeout.nsec.toNat < nanosPerSec) :
    Kept blocking waitTimeout ↔ Fits blocking waitTimeout := by
  rw [← unwrapped_iff blocking proper]
  constructor
  · exact Kept.unwrapped
  · intro unwrapped
    have exactly := effective_eq unwrapped
    exact ⟨exactly ▸ Int.ofNat_le.mpr (Nat.min_le_left _ _), exactly ▸ Int.natCast_nonneg _,
      unwrapped⟩

/-- One second and a half, in a poll that starts when the clock is at zero. -/
theorem timeout_kept_short :
    Kept (.polling 0) { sec := 1, nsec := 500000000 } :=
  (timeout_kept_iff (.polling 0) { sec := 1, nsec := 500000000 } (by decide)).mpr (by decide)

/-- An infinite time becomes some twenty years on a wait set, and lies in the past in a poll that
starts when the clock is at one. -/
theorem infinite_notKept :
    ¬ Kept .waitSet .infinite ∧ ¬ Kept (.polling 1) .infinite := by
  refine ⟨fun kept => ?_, fun kept => ?_⟩
  · exact absurd kept.least (by decide)
  · exact absurd kept.nonneg (by decide)

end Wait

import CoBridge.Ros1.Bridge

/-!
# The period of the update timer

The callback of the update timer ends by scheduling its next call. The number of updates is
the amount of a shift, whose result is capped afterwards. As long as it is smaller than the
width of `size_t`, the period is the power of two between the two bounds; the shift of the
next one is undefined.
-/

namespace CoBridge.Ros1

def minUpdatePeriodMs : Nat := 100

/-- `static_cast<double>` of a `size_t`: the nearest number of 53 binary digits, the even one
of two. -/
def doubleOfSize (size : Nat) : Nat :=
  let unit := 2 ^ (Nat.log2 size - 52)
  let remainder := size % unit
  if 2 * remainder < unit ∨ 2 * remainder = unit ∧ size / unit % 2 = 0 then size - remainder
  else size - remainder + unit

/-- `size_t(1) << updateCount`, which is undefined from the width of `size_t` on. -/
def shiftedOne (size : SizeT) (updateCount : Nat) : Except Fault Nat :=
  if updateCount < size.width then .ok ((1 <<< updateCount) % 2 ^ size.width)
  else .error .undefinedBehavior

/-- `next_update_ms`, a `double` without a fraction. -/
def nextUpdateMs (size : SizeT) (maxUpdateMs updateCount : Nat) : Except Fault Nat := do
  let shifted ← shiftedOne size updateCount
  pure (max minUpdatePeriodMs (doubleOfSize (min shifted maxUpdateMs)))

/-- The end of the callback. -/
def scheduleNextUpdate (size : SizeT) (options : Options) (bridge : Bridge) :
    Except Fault Bridge := do
  let period ← nextUpdateMs size (options.maxUpdateMs size) (size.increment bridge.updateCount)
  pure { bridge with
    updateCount := size.increment bridge.updateCount, updateTimer := some period }

/-- The callback comes to its end, whatever its updates of topics, services and the graph did:
none of them names the count. -/
def Reaches (bridge reached : Bridge) : Prop :=
  bridge.environment.ok = true ∧ reached.updateCount = bridge.updateCount

/-- The nodelet after so many completed runs of the callback. -/
inductive TimerRun (size : SizeT) (options : Options) : Nat → Bridge → Prop where
  | start {bridge : Bridge} (count : bridge.updateCount = 0) (timer : bridge.updateTimer = none) :
      TimerRun size options 0 bridge
  | meanwhile {completed : Nat} {bridge next : Bridge}
      (run : TimerRun size options completed bridge)
      (count : next.updateCount = bridge.updateCount)
      (timer : next.updateTimer = bridge.updateTimer) : TimerRun size options completed next
  | fire {completed : Nat} {bridge reached next : Bridge}
      (run : TimerRun size options completed bridge)
      (reaches : Reaches bridge reached)
      (schedules : scheduleNextUpdate size options reached = .ok next) :
      TimerRun size options (completed + 1) next

/-- The period in exact arithmetic. -/
def updatePeriod (size : SizeT) (options : Options) (updateCount : Nat) : Nat :=
  max 100 (min (2 ^ updateCount) (options.maxUpdateMs size))

variable {size : SizeT} {options : Options} {bridge reached : Bridge}

section Numbers

theorem doubleOfSize_of_dvd {value : Nat} (exact : 2 ^ (Nat.log2 value - 52) ∣ value) :
    doubleOfSize value = value := by
  have none : value % 2 ^ (Nat.log2 value - 52) = 0 := Nat.mod_eq_zero_of_dvd exact
  simp [doubleOfSize, none]

theorem doubleOfSize_pow (exponent : Nat) : doubleOfSize (2 ^ exponent) = 2 ^ exponent := by
  apply doubleOfSize_of_dvd
  rw [Nat.log2_two_pow]
  exact Nat.pow_dvd_pow 2 (Nat.sub_le exponent 52)

/-- A negative parameter is not smaller than any power of two that is shifted to. -/
theorem maxUpdateMs_cases (size : SizeT) (options : Options) :
    options.maxUpdateMs size < 2 ^ 53 ∨ 2 ^ (size.width - 1) ≤ options.maxUpdateMs size := by
  have low := Int32.le_toInt options.maxUpdateMsParam
  have high := Int32.toInt_lt options.maxUpdateMsParam
  unfold Options.maxUpdateMs
  cases size <;> simp only [SizeT.width] <;> omega

/-- Neither bound is rounded by the conversion to `double`. -/
theorem doubleOfSize_min {exponent : Nat} (inside : exponent < size.width) :
    doubleOfSize (min (2 ^ exponent) (options.maxUpdateMs size)) =
      min (2 ^ exponent) (options.maxUpdateMs size) := by
  rcases Nat.le_total (2 ^ exponent) (options.maxUpdateMs size) with capped | capped
  · rw [Nat.min_eq_left capped]
    exact doubleOfSize_pow _
  rw [Nat.min_eq_right capped]
  rcases maxUpdateMs_cases size options with small | large
  · apply doubleOfSize_of_dvd
    have short : Nat.log2 (options.maxUpdateMs size) < 53 := by
      by_cases zero : options.maxUpdateMs size = 0
      · simp [zero]
      · exact (Nat.log2_lt zero).mpr small
    rw [show Nat.log2 (options.maxUpdateMs size) - 52 = 0 by omega, Nat.pow_zero]
    exact Nat.one_dvd _
  · have below : 2 ^ exponent ≤ 2 ^ (size.width - 1) :=
      Nat.pow_le_pow_right (by decide) (Nat.le_sub_one_of_lt inside)
    rw [show options.maxUpdateMs size = 2 ^ (size.width - 1) by omega]
    exact doubleOfSize_pow _

theorem nextUpdateMs_inside {updateCount : Nat} (inside : updateCount < size.width) :
    nextUpdateMs size (options.maxUpdateMs size) updateCount =
      .ok (updatePeriod size options updateCount) := by
  have shifted : (1 <<< updateCount) % 2 ^ size.width = 2 ^ updateCount := by
    rw [Nat.one_shiftLeft]
    exact Nat.mod_eq_of_lt (Nat.pow_lt_pow_right (by decide) inside)
  unfold nextUpdateMs shiftedOne
  rw [if_pos inside, shifted]
  change Except.ok (max _ (doubleOfSize (min _ _))) = _
  rw [doubleOfSize_min inside]
  rfl

theorem updatePeriod_mono (size : SizeT) (options : Options) (updateCount : Nat) :
    updatePeriod size options updateCount ≤ updatePeriod size options (updateCount + 1) := by
  unfold updatePeriod
  have grows := Nat.pow_le_pow_right (show 0 < 2 by decide) (Nat.le_succ updateCount)
  omega

end Numbers

section Runs

theorem schedule_inside (inside : bridge.updateCount + 1 < size.width) :
    ∃ next, scheduleNextUpdate size options bridge = .ok next ∧
      next.updateCount = bridge.updateCount + 1 ∧
      next.updateTimer = some (updatePeriod size options (bridge.updateCount + 1)) := by
  have count : size.increment bridge.updateCount = bridge.updateCount + 1 :=
    Nat.mod_eq_of_lt (inside.trans Nat.lt_two_pow_self)
  unfold scheduleNextUpdate
  rw [count, nextUpdateMs_inside inside]
  exact ⟨_, rfl, rfl, rfl⟩

theorem schedule_outside (last : bridge.updateCount + 1 = size.width) :
    scheduleNextUpdate size options bridge = .error .undefinedBehavior := by
  have count : size.increment bridge.updateCount = size.width := by
    rw [SizeT.increment, last]
    exact Nat.mod_eq_of_lt Nat.lt_two_pow_self
  unfold scheduleNextUpdate nextUpdateMs shiftedOne
  rw [count, if_neg (Nat.lt_irrefl _)]
  rfl

/-- The count is that of the completed runs, of which there are fewer than `size_t` has bits,
and the period is that of the last one. -/
theorem TimerRun.counts {completed : Nat} (run : TimerRun size options completed bridge) :
    completed < size.width ∧ bridge.updateCount = completed ∧
      ∀ previous, bridge.updateTimer = some previous →
        previous = updatePeriod size options completed := by
  induction run with
  | start count timer =>
    refine ⟨by cases size <;> decide, count, fun previous scheduled => ?_⟩
    rw [timer] at scheduled
    cases scheduled
  | meanwhile _ count timer ih =>
    rw [count, timer]
    exact ih
  | @fire completed bridge reached next _ reaches schedules ih =>
    obtain ⟨below, count, _⟩ := ih
    rw [← reaches.2] at count
    have inside : completed + 1 < size.width := by
      by_contra outside
      rw [schedule_outside (by omega)] at schedules
      cases schedules
    obtain ⟨after, returned, counted, period⟩ := @schedule_inside size options reached (by omega)
    obtain rfl : next = after := Except.ok.inj (schedules.symm.trans returned)
    refine ⟨inside, by omega, fun previous scheduled => ?_⟩
    rw [period, count] at scheduled
    exact (Option.some.inj scheduled).symm

/-- In a system without topics and services the updates leave the nodelet as it is. -/
theorem timerRun_exists (options : Options) {completed : Nat} (inside : completed < size.width) :
    ∃ bridge, TimerRun size options completed bridge ∧ Reaches bridge bridge := by
  induction completed with
  | zero => exact ⟨.initial .quiet, .start rfl rfl, rfl, rfl⟩
  | succ completed ih =>
    obtain ⟨bridge, run, reaches⟩ := ih (Nat.lt_of_succ_lt inside)
    have count := run.counts.2.1
    obtain ⟨next, returned, _⟩ := @schedule_inside size options bridge (by omega)
    refine ⟨{ next with environment := .quiet }, ?_, rfl, rfl⟩
    exact .meanwhile (.fire run reaches returned) rfl rfl

theorem last_run_undefined (size : SizeT) (options : Options) :
    ∃ bridge, TimerRun size options (size.width - 1) bridge ∧ Reaches bridge bridge ∧
      scheduleNextUpdate size options bridge = .error .undefinedBehavior := by
  have positive : 0 < size.width := by cases size <;> decide
  obtain ⟨bridge, run, reaches⟩ := timerRun_exists options (Nat.sub_one_lt_of_lt positive)
  refine ⟨bridge, run, reaches, schedule_outside ?_⟩
  rw [run.counts.2.1]
  exact Nat.sub_add_cancel positive

end Runs

/-- Every one of the first `runs` runs that comes to its end schedules the next one after the
exact period, which is not shorter than the previous one, if and only if there are fewer runs
than `size_t` has bits. -/
theorem update_backoff_iff (size : SizeT) (options : Options) (runs : Nat) :
    (∀ completed < runs, ∀ bridge reached, TimerRun size options completed bridge →
      Reaches bridge reached → ∃ next, scheduleNextUpdate size options reached = .ok next ∧
        next.updateTimer = some (updatePeriod size options (completed + 1)) ∧
        ∀ previous, bridge.updateTimer = some previous →
          previous ≤ updatePeriod size options (completed + 1)) ↔ runs < size.width := by
  constructor
  · intro all
    by_contra more
    obtain ⟨bridge, run, reaches, fails⟩ := last_run_undefined size options
    have last : size.width - 1 < runs := by
      have below := run.counts.1
      omega
    obtain ⟨next, returned, _⟩ := all _ last bridge bridge run reaches
    rw [returned] at fails
    cases fails
  · intro few completed early bridge reached run reaches
    obtain ⟨_, count, period⟩ := run.counts
    rw [← reaches.2] at count
    obtain ⟨next, returned, _, scheduled⟩ := @schedule_inside size options reached (by omega)
    rw [count] at scheduled
    refine ⟨next, returned, scheduled, fun previous before => ?_⟩
    rw [period previous before]
    exact updatePeriod_mono size options completed

/-- With the default configuration the 64th run shifts by the width of `size_t`, and the 32nd
where this has 32 bits. -/
theorem backoff_shift_undefined :
    (∃ bridge, TimerRun .bits64 .open 63 bridge ∧ Reaches bridge bridge ∧
      scheduleNextUpdate .bits64 .open bridge = .error .undefinedBehavior) ∧
    ∃ bridge, TimerRun .bits32 .open 31 bridge ∧ Reaches bridge bridge ∧
      scheduleNextUpdate .bits32 .open bridge = .error .undefinedBehavior :=
  ⟨last_run_undefined .bits64 .open, last_run_undefined .bits32 .open⟩

end CoBridge.Ros1

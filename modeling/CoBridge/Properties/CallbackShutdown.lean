import CoBridge.Properties.CallbackOrder

/-!
# Stopping the callback queue

`stop` sets `_quit` and notifies the worker without taking the mutex. A worker that has
tested its predicate and has not blocked yet misses the notification, and then waits for
one that will not come while `stop` waits for the worker. This is the only way: if
`notify_all` does not fall between the test and the block, the worker is never left waiting.
-/

namespace CoBridge.CallbackQueue

open Library

variable {Thread Callback : Type}

/-- `stop` is behind its `notify_all`, and the worker waits for a notification. -/
def Stuck (state : CallbackQueue Thread Callback) : Prop :=
  (state.stop = .joining ∨ state.stop = .returned) ∧ state.quit = true ∧
    state.worker = .blocked false

/-- The worker has found no reason to go on, and has not blocked yet. -/
def MissesNotification (state : CallbackQueue Thread Callback) : Prop :=
  state.worker = .aboutToWait ∨ (state.worker = .testEmpty ∧ state.queue = [])

/-- `stop` does not call `notify_all` while the worker is between its test and the block. -/
def NotifiesInTime (state : CallbackQueue Thread Callback) (event : QueueEvent Thread Callback) :
    Prop :=
  event = .stopping → state.stop = .quitSet → ¬ state.MissesNotification

instance [DecidableEq Thread] [DecidableEq Callback] (state : CallbackQueue Thread Callback)
    (event : QueueEvent Thread Callback) : Decidable (NotifiesInTime state event) :=
  inferInstanceAs (Decidable (_ → _ → ¬ (_ ∨ _ ∧ _)))

/-- After its notification `stop` has left its mark: the flag is set, and the worker has not
missed it. -/
def Noticed (state : CallbackQueue Thread Callback) : Prop :=
  state.stop = .joining ∨ state.stop = .returned →
    state.quit = true ∧ state.worker ≠ .blocked false ∧ ¬ state.MissesNotification

/-- `stop` has set the flag when it notifies. -/
def QuitSet (state : CallbackQueue Thread Callback) : Prop :=
  state.stop ≠ .notCalled → state.quit = true

variable {state next : CallbackQueue Thread Callback}

/-- A notification does not bring the worker between its test and the block. -/
theorem notify_missesNotification (misses : state.notify.MissesNotification) :
    state.MissesNotification := by
  rcases notify_cases state with ⟨same, _⟩ | ⟨_, _, changed⟩
  · rwa [same] at misses
  · simp [MissesNotification, changed] at misses

theorem Works.noticed (works : Works state next) (noticed : state.Noticed) : next.Noticed := by
  unfold Noticed MissesNotification at noticed ⊢
  cases works with
  | findNothing place empty => simp_all
  | block place => simp_all
  | test place unset => simp_all
  | quit | enter | lock | seeQuit | find | wake | breakLoop | goOn | skip | pop | endBody | unlock
  | call | exit =>
    intro behind
    simp [(noticed behind).1]

theorem Stops.noticed (stops : Stops state next) (quitSet : state.QuitSet)
    (inTime : state.stop = .quitSet → ¬ state.MissesNotification) (noticed : state.Noticed) :
    next.Noticed := by
  cases stops with
  | setQuit => simp [Noticed]
  | notifyAll reached =>
    -- A notification that comes in time.
    intro _
    obtain ⟨worker, notified, _⟩ := notify_keeps state
    refine ⟨?_, notify_unblocked, fun misses => (inTime reached) (notify_missesNotification misses)⟩
    simpa [notified] using quitSet (by simp [reached])
  | join reached exited =>
    intro _
    exact noticed (.inl reached)

theorem Turns.noticed (turns : Turns state next) (noticed : state.Noticed) : next.Noticed := by
  cases turns with
  | callbackEnds place | wakeSpuriously place =>
    intro behind
    exact ⟨(noticed behind).1, by simp, by simp [MissesNotification]⟩

section Runs

variable [DecidableEq Thread] {thread : Thread} {event : QueueEvent Thread Callback}
  {events : List (QueueEvent Thread Callback)}

theorem Adds.noticed (adds : Adds thread state next) (noticed : state.Noticed) :
    next.Noticed := by
  cases adds with
  | notify place =>
    intro behind
    obtain ⟨worker, notified, _⟩ := notify_keeps state
    have before := noticed (by simpa [setAdder, notified] using behind)
    refine ⟨by simpa [setAdder, notified] using before.1, notify_unblocked, fun misses => ?_⟩
    exact before.2.2 (notify_missesNotification misses)
  | push place =>
    intro behind
    obtain ⟨set, unblocked, aware⟩ := noticed behind
    refine ⟨set, unblocked, fun misses => aware ?_⟩
    rcases misses with waits | ⟨_, empty⟩
    · exact .inl waits
    · simp at empty
  | begin | refuse | check | lock | unlock => exact noticed

theorem step_quitSet (step : event.apply state = some next) (quitSet : state.QuitSet) :
    next.QuitSet := by
  obtain ⟨worker, notified, _⟩ := notify_keeps state
  rcases step_cases step with works | turns | stops | ⟨thread, adds⟩
  · cases works <;> exact quitSet
  · cases turns <;> exact quitSet
  · cases stops with
    | notifyAll reached | join reached => simpa [QuitSet, notified, reached] using quitSet
    | setQuit => exact fun _ => rfl
  · cases adds with
    | notify place => simpa [QuitSet, setAdder, notified] using quitSet
    | begin | refuse | check | lock | push | unlock => exact quitSet

omit [DecidableEq Thread] in
theorem quitSet_initial : (initial : CallbackQueue Thread Callback).QuitSet := by
  simp [QuitSet, initial]

/-- In a run in which `notify_all` comes in time the worker notices it. -/
theorem noticed_of_run (run : (queueRuns Thread Callback).GuardedRun NotifiesInTime events state) :
    state.QuitSet ∧ state.Noticed := by
  apply run.invariant
  · rintro _ rfl
    exact ⟨quitSet_initial, by simp [Noticed, initial]⟩
  · rintro before event after ⟨quitSet, noticed⟩ inTime step
    refine ⟨step_quitSet step quitSet, ?_⟩
    cases event with
    | stopping => exact (stops_of_stopping step).noticed quitSet (inTime rfl) noticed
    | work => exact (works_of_work step).noticed noticed
    | addCallback thread callback => exact (adds_of_addCallback step).noticed noticed
    | adding thread => exact (adds_of_adding step).noticed noticed
    | callbackEnds threw =>
      have ends : before.callbackEnds threw = some after := step
      exact (turns_of_callbackEnds ends).noticed noticed
    | wakeSpuriously => exact (turns_of_wakeSpuriously step).noticed noticed

/-- A worker that misses the notification blocks by steps of its own. -/
theorem stuck_of_missed (run : (queueRuns Thread Callback).Run events state)
    (reached : state.stop = .quitSet) (misses : state.MissesNotification) :
    ∃ more stuck, (queueRuns Thread Callback).Run (events ++ .stopping :: more) stuck ∧
      stuck.Stuck := by
  have quitSet : state.QuitSet := by
    apply run.invariant
    · rintro _ rfl
      exact quitSet_initial
    · intro _ _ _ quitSet _ step
      exact step_quitSet step quitSet
  have set := quitSet (by simp [reached])
  obtain ⟨_, _, _, _, _, adders, pushed, started, observed⟩ := state
  subst reached set
  rcases misses with waits | ⟨tests, empty⟩
  · subst waits
    exact ⟨[.work], _, run_continued run rfl, .inl rfl, rfl, rfl⟩
  · subst tests empty
    exact ⟨[.work, .work], _, run_continued run rfl, .inl rfl, rfl, rfl⟩

/-- In every interleaving in which `notify_all` does not fall between the worker's test and
its block, `stop` never waits for a worker that waits for a notification. Wherever it does
fall there, this is what happens. -/
theorem shutdown_notices :
    (∀ (events : List (QueueEvent Thread Callback)) state,
      (queueRuns Thread Callback).GuardedRun NotifiesInTime events state → ¬ state.Stuck) ∧
    (∀ (events : List (QueueEvent Thread Callback)) state event,
      (queueRuns Thread Callback).Run events state → ¬ NotifiesInTime state event →
      ∃ more stuck, (queueRuns Thread Callback).Run (events ++ event :: more) stuck ∧
        stuck.Stuck) := by
  constructor
  · intro events state run ⟨behind, _, blocked⟩
    exact ((noticed_of_run run).2 behind).2.1 blocked
  · intro events state event run late
    simp only [NotifiesInTime, Classical.not_imp, not_not] at late
    obtain ⟨rfl, reached, misses⟩ := late
    exact stuck_of_missed run reached misses

end Runs

/-- The worker has blocked when `stop` notifies it, and it leaves. -/
theorem shutdown_notices_blocked :
    ∃ state : CallbackQueue Unit Nat,
      (queueRuns Unit Nat).GuardedRun NotifiesInTime
        (List.replicate 5 .work ++ List.replicate 2 .stopping) state ∧
      state.worker = .blocked true ∧ state.stop = .joining ∧ ¬ state.Stuck := by
  have start : (queueRuns Unit Nat).GuardedRun NotifiesInTime [] initial := .initial rfl
  have reached : (List.replicate 5 QueueEvent.work ++ List.replicate 2 QueueEvent.stopping).foldlM
      (fun state event => if NotifiesInTime state event then event.apply state else none)
      (initial : CallbackQueue Unit Nat) = some _ := rfl
  have run := start.foldlM (fun step => Option.ite_none_right_eq_some.mp step) reached
  exact ⟨_, run, rfl, rfl, shutdown_notices.1 _ _ run⟩

/-- The worker finds the queue empty, `stop` sets the flag and notifies, the worker
blocks. -/
theorem shutdown_loses_notification :
    ∃ state : CallbackQueue Unit Nat,
      (queueRuns Unit Nat).Run [.work, .work, .work, .work, .stopping, .stopping, .work] state ∧
      state.Stuck ∧ state.queue = [] ∧ state.adders () = .idle ∧ state.work = none ∧
      state.stopping = none := by
  have start : (queueRuns Unit Nat).Run [] initial := .initial rfl
  have reached : [QueueEvent.work, .work, .work, .work, .stopping, .stopping, .work].foldlM
      (fun state event => event.apply state) (initial : CallbackQueue Unit Nat) = some _ := rfl
  have run := run_continued start reached
  exact ⟨_, run, ⟨.inl rfl, rfl, rfl⟩, rfl, rfl, rfl, rfl⟩

end CoBridge.CallbackQueue

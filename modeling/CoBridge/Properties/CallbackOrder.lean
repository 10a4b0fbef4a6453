import CoBridge.Server.CallbackQueue

/-!
# The order of callbacks

The worker calls what was pushed, in the order in which it was pushed, and nothing once it
has seen that the queue is stopped. A callback that throws changes nothing for the next
one: while callbacks are queued, a worker that is blocked is notified or about to be.
-/

namespace CoBridge

open Library

variable {Thread Callback : Type}

/-- What the worker has popped and not called yet. -/
def WorkerAt.inFlight : WorkerAt Callback → List Callback
  | .popped callback | .call callback => [callback]
  | _ => []

/-- The places at which the worker has the mutex. -/
def WorkerAt.locks : WorkerAt Callback → Bool
  | .testQuit | .testEmpty | .aboutToWait | .ready | .take | .skip | .popped _ | .leave => true
  | _ => false

/-- The places at which a thread that adds a callback has the mutex. -/
def AdderAt.locks : AdderAt Callback → Bool
  | .locked _ | .pushed | .notified => true
  | _ => false

/-- The places the worker can be at once it has seen `_quit`. -/
def WorkerAt.ending : WorkerAt Callback → Bool
  | .ready | .leave | .exited => true
  | _ => false

namespace CallbackQueue

/-- Every pushed callback was started, is about to be or is queued, in this order. -/
def Ordered (state : CallbackQueue Thread Callback) : Prop :=
  state.pushed = state.started ++ state.worker.inFlight ++ state.queue

/-- A worker that has seen `_quit` will see it again. -/
def Ending (state : CallbackQueue Thread Callback) : Prop :=
  state.observed = true → state.quit = true ∧ state.worker.ending = true

/-- The mutex belongs to whoever is at a place where it is held. -/
structure Guarded (state : CallbackQueue Thread Callback) : Prop where
  worker : state.worker.locks = true ↔ state.mutex = some .worker
  adders : ∀ thread, (state.adders thread).locks = true ↔ state.mutex = some (.adder thread)

/-- A worker that waits for a notification has nothing to do, or somebody is about to
notify it. -/
structure Watched (state : CallbackQueue Thread Callback) : Prop where
  aboutToWait : state.worker = .aboutToWait → state.queue = []
  blocked : state.worker = .blocked false →
    state.queue = [] ∨ ∃ thread, state.adders thread = .pushed

/-- The steps of the worker, one by one. -/
inductive Works : CallbackQueue Thread Callback → CallbackQueue Thread Callback → Prop where
  | quit {state} (place : state.worker = .loop) (set : state.quit = true) :
      Works state { state with worker := .exited, observed := true }
  | enter {state} (place : state.worker = .loop) (unset : state.quit = false) :
      Works state { state with worker := .lock }
  | lock {state} (place : state.worker = .lock ∨ state.worker = .relock)
      (free : state.mutex = none) :
      Works state { state with mutex := some .worker, worker := .testQuit }
  | seeQuit {state} (place : state.worker = .testQuit) (set : state.quit = true) :
      Works state { state with worker := .ready, observed := true }
  | test {state} (place : state.worker = .testQuit) (unset : state.quit = false) :
      Works state { state with worker := .testEmpty }
  | find {state} (place : state.worker = .testEmpty) (queued : state.queue ≠ []) :
      Works state { state with worker := .ready }
  | findNothing {state} (place : state.worker = .testEmpty) (empty : state.queue = []) :
      Works state { state with worker := .aboutToWait }
  | block {state} (place : state.worker = .aboutToWait) :
      Works state { state with mutex := none, worker := .blocked false }
  | wake {state} (place : state.worker = .blocked true) :
      Works state { state with worker := .relock }
  | breakLoop {state} (place : state.worker = .ready) (set : state.quit = true) :
      Works state { state with worker := .leave, observed := true }
  | goOn {state} (place : state.worker = .ready) (unset : state.quit = false) :
      Works state { state with worker := .take }
  | skip {state} (place : state.worker = .take) (empty : state.queue = []) :
      Works state { state with worker := .skip }
  | pop {state callback rest} (place : state.worker = .take)
      (queued : state.queue = callback :: rest) :
      Works state { state with queue := rest, worker := .popped callback }
  | endBody {state} (place : state.worker = .skip) :
      Works state { state with mutex := none, worker := .loop }
  | unlock {state callback} (place : state.worker = .popped callback) :
      Works state { state with mutex := none, worker := .call callback }
  | call {state callback} (place : state.worker = .call callback) :
      Works state
        { state with worker := .running callback, started := state.started ++ [callback] }
  | exit {state} (place : state.worker = .leave) :
      Works state { state with mutex := none, worker := .exited }

/-- The steps of a thread that adds a callback, one by one. -/
inductive Adds [DecidableEq Thread] (thread : Thread) :
    CallbackQueue Thread Callback → CallbackQueue Thread Callback → Prop where
  | begin {state} (callback) (place : state.adders thread = .idle) :
      Adds thread state (state.setAdder thread (.called callback))
  | refuse {state callback} (place : state.adders thread = .called callback)
      (set : state.quit = true) :
      Adds thread state (state.setAdder thread .idle)
  | check {state callback} (place : state.adders thread = .called callback)
      (unset : state.quit = false) :
      Adds thread state (state.setAdder thread (.checked callback))
  | lock {state callback} (place : state.adders thread = .checked callback)
      (free : state.mutex = none) :
      Adds thread state
        { state.setAdder thread (.locked callback) with mutex := some (.adder thread) }
  | push {state callback} (place : state.adders thread = .locked callback) :
      Adds thread state
        { state.setAdder thread .pushed with
          queue := state.queue ++ [callback]
          pushed := state.pushed ++ [callback] }
  | notify {state} (place : state.adders thread = .pushed) :
      Adds thread state (state.notify.setAdder thread .notified)
  | unlock {state} (place : state.adders thread = .notified) :
      Adds thread state { state.setAdder thread .idle with mutex := none }

/-- What happens to the worker: a callback ends, or the wait wakes up for no reason. -/
inductive Turns : CallbackQueue Thread Callback → CallbackQueue Thread Callback → Prop where
  | callbackEnds {state callback} (place : state.worker = .running callback) :
      Turns state { state with worker := .loop }
  | wakeSpuriously {state notified} (place : state.worker = .blocked notified) :
      Turns state { state with worker := .relock }

/-- The steps of `stop`, one by one. -/
inductive Stops : CallbackQueue Thread Callback → CallbackQueue Thread Callback → Prop where
  | setQuit {state} (begins : state.stop = .notCalled) :
      Stops state { state with quit := true, stop := .quitSet }
  | notifyAll {state} (reached : state.stop = .quitSet) :
      Stops state { state.notify with stop := .joining }
  | join {state} (reached : state.stop = .joining) (exited : state.worker = .exited) :
      Stops state { state with stop := .returned }

variable {state next : CallbackQueue Thread Callback}

/-- What one step of the worker can be. -/
theorem works_of_work (step : state.work = some next) : Works state next := by
  cases place : state.worker with
  | loop | testQuit | ready =>
    simp only [work, place, workerReadsQuit, Option.some.injEq] at step
    subst step
    split
    next set =>
      first | exact .quit place set | exact .seeQuit place set | exact .breakLoop place set
    next unset =>
      have unset := Bool.eq_false_iff.mpr unset
      first | exact .enter place unset | exact .test place unset | exact .goOn place unset
  | lock | relock =>
    simp only [work, place, workerLocks, Option.ite_none_right_eq_some, Option.some.injEq] at step
    obtain ⟨free, rfl⟩ := step
    exact .lock (by simp [place]) (Option.isNone_iff_eq_none.mp free)
  | testEmpty =>
    simp only [work, place, Option.some.injEq] at step
    subst step
    split
    next empty => exact .findNothing place (List.isEmpty_iff.mp empty)
    next queued => exact .find place (by simpa using queued)
  | blocked notified =>
    simp only [work, place, Option.ite_none_right_eq_some, Option.some.injEq] at step
    obtain ⟨rfl, rfl⟩ := step
    exact .wake place
  | take =>
    simp only [work, place] at step
    split at step
    next empty =>
      obtain rfl := Option.some.inj step
      exact .skip place empty
    next callback rest queued =>
      obtain rfl := Option.some.inj step
      exact .pop place queued
  | aboutToWait | skip | popped | call | leave =>
    simp only [work, place, workerUnlocks, Option.some.injEq] at step
    subst step
    first
      | exact .block place | exact .endBody place | exact .unlock place | exact .call place
      | exact .exit place
  | running | exited => simp [work, place] at step

/-- A notification changes at most the place of the worker, from one at which it is blocked
to one at which it is blocked and notified. -/
theorem notify_cases (state : CallbackQueue Thread Callback) :
    (state.notify = state ∧ ∀ notified, state.worker ≠ .blocked notified) ∨
      ∃ notified, state.worker = .blocked notified ∧
        state.notify = { state with worker := .blocked true } := by
  cases place : state.worker with
  | blocked notified => exact .inr ⟨notified, rfl, by simp [notify, place]⟩
  | _ => exact .inl ⟨by simp [notify, place], by simp⟩

/-- It is the same to everything but the wait. -/
theorem notify_keeps (state : CallbackQueue Thread Callback) :
    ∃ worker, state.notify = { state with worker := worker } ∧
      worker.inFlight = state.worker.inFlight ∧ worker.ending = state.worker.ending ∧
      worker.locks = state.worker.locks := by
  rcases notify_cases state with ⟨same, _⟩ | ⟨notified, place, changed⟩
  · exact ⟨state.worker, same, rfl, rfl, rfl⟩
  · rw [place]
    exact ⟨_, changed, rfl, rfl, rfl⟩

theorem notify_guarded (guarded : state.Guarded) : state.notify.Guarded := by
  obtain ⟨worker, notified, _, _, locks⟩ := notify_keeps state
  rw [notified]
  refine ⟨?_, guarded.adders⟩
  simpa [locks] using guarded.worker

/-- After a notification the worker does not wait for one. -/
theorem notify_unblocked : state.notify.worker ≠ .blocked false := by
  rcases notify_cases state with ⟨same, unblocked⟩ | ⟨notified, place, changed⟩
  · rw [same]
    exact unblocked false
  · simp [changed]

theorem notify_watched (watched : state.Watched) : state.notify.Watched := by
  refine ⟨fun place => ?_, fun place => absurd place notify_unblocked⟩
  rcases notify_cases state with ⟨same, _⟩ | ⟨_, _, changed⟩
  · rw [same] at place ⊢
    exact watched.aboutToWait place
  · simp [changed] at place

section Adders

variable [DecidableEq Thread] {thread : Thread}
variable {place : AdderAt Callback}

theorem adds_of_addCallback {callback : Callback}
    (step : state.addCallback thread callback = some next) : Adds thread state next := by
  simp only [addCallback] at step
  split at step
  next place =>
    obtain rfl := Option.some.inj step
    exact .begin callback place
  next => simp at step

theorem adds_of_adding (step : state.adding thread = some next) : Adds thread state next := by
  cases place : state.adders thread with
  | idle => simp [adding, place] at step
  | called callback =>
    simp only [adding, place, Option.some.injEq] at step
    subst step
    split
    next set => exact .refuse place set
    next unset => exact .check place (Bool.eq_false_iff.mpr unset)
  | checked callback =>
    simp only [adding, place, Option.ite_none_right_eq_some, Option.some.injEq] at step
    obtain ⟨free, rfl⟩ := step
    exact .lock place (Option.isNone_iff_eq_none.mp free)
  | locked callback | pushed | notified =>
    simp only [adding, place, Option.some.injEq] at step
    subst step
    first | exact .push place | exact .notify place | exact .unlock place

/-- A thread that moves between two places at which it has the mutex, or between two at
which it has not. -/
theorem setAdder_guarded (guarded : state.Guarded)
    (same : place.locks = (state.adders thread).locks) :
    (state.setAdder thread place).Guarded := by
  refine ⟨guarded.worker, fun other => ?_⟩
  by_cases moved : other = thread
  · subst moved
    simpa [setAdder, same] using guarded.adders other
  · simpa [setAdder, Function.update_of_ne moved] using guarded.adders other

/-- A thread that is not about to notify the worker can move. -/
theorem setAdder_watched (watched : state.Watched) (other : state.adders thread ≠ .pushed) :
    (state.setAdder thread place).Watched := by
  refine ⟨watched.aboutToWait, fun blocked => ?_⟩
  rcases watched.blocked blocked with empty | ⟨notifier, about⟩
  · exact .inl empty
  · have apart : notifier ≠ thread := by
      rintro rfl
      exact other about
    exact .inr ⟨notifier, by simpa [setAdder, Function.update_of_ne apart] using about⟩

end Adders

theorem turns_of_callbackEnds {threw : Bool} (step : state.callbackEnds threw = some next) :
    Turns state next := by
  simp only [callbackEnds] at step
  split at step
  next callback place =>
    obtain rfl := Option.some.inj step
    exact .callbackEnds place
  next => simp at step

theorem turns_of_wakeSpuriously (step : state.wakeSpuriously = some next) : Turns state next := by
  simp only [wakeSpuriously] at step
  split at step
  next notified place =>
    obtain rfl := Option.some.inj step
    exact .wakeSpuriously place
  next => simp at step

theorem stops_of_stopping (step : state.stopping = some next) : Stops state next := by
  cases place : state.stop with
  | notCalled | quitSet =>
    simp only [stopping, place, Option.some.injEq] at step
    subst step
    first | exact .setQuit place | exact .notifyAll place
  | joining =>
    simp only [stopping, place] at step
    split at step
    next exited =>
      obtain rfl := Option.some.inj step
      exact .join place exited
    next => simp at step
  | returned => simp [stopping, place] at step

/-- What holds of a queue at every moment. -/
structure Sound (state : CallbackQueue Thread Callback) : Prop where
  ordered : state.Ordered
  ending : state.Ending
  guarded : state.Guarded
  watched : state.Watched

theorem sound_initial : (initial : CallbackQueue Thread Callback).Sound where
  ordered := rfl
  ending := by simp [Ending, initial]
  guarded := by constructor <;> simp [initial, WorkerAt.locks, AdderAt.locks]
  watched := by constructor <;> simp [initial]

section Runs

variable [DecidableEq Thread] {thread : Thread} {event : QueueEvent Thread Callback}
  {events : List (QueueEvent Thread Callback)}

/-- The four kinds of steps. -/
theorem step_cases (step : event.apply state = some next) :
    Works state next ∨ Turns state next ∨ Stops state next ∨
      ∃ thread, Adds thread state next := by
  cases event with
  | work => exact .inl (works_of_work step)
  | callbackEnds threw =>
    exact .inr (.inl (turns_of_callbackEnds (show state.callbackEnds threw = _ from step)))
  | wakeSpuriously => exact .inr (.inl (turns_of_wakeSpuriously step))
  | stopping => exact .inr (.inr (.inl (stops_of_stopping step)))
  | addCallback thread callback => exact .inr (.inr (.inr ⟨thread, adds_of_addCallback step⟩))
  | adding thread => exact .inr (.inr (.inr ⟨thread, adds_of_adding step⟩))

/-- Every step keeps the order of the callbacks. -/
theorem step_ordered (step : event.apply state = some next) (ordered : state.Ordered) :
    next.Ordered := by
  unfold Ordered at ordered ⊢
  rcases step_cases step with works | turns | stops | ⟨thread, adds⟩
  · cases works with
    | lock place =>
      rcases place with place | place <;> simpa [place, WorkerAt.inFlight] using ordered
    | pop place queued => simpa [place, queued, WorkerAt.inFlight] using ordered
    | quit place | enter place | seeQuit place | test place | find place | findNothing place
    | block place | wake place | breakLoop place | goOn place | skip place | endBody place
    | unlock place | call place | exit place =>
      simpa [place, WorkerAt.inFlight] using ordered
  · cases turns with
    | callbackEnds place | wakeSpuriously place =>
      simpa [place, WorkerAt.inFlight] using ordered
  · cases stops with
    | notifyAll =>
      obtain ⟨worker, notified, flight, _⟩ := notify_keeps state
      simpa [notified, flight] using ordered
    | setQuit | join => exact ordered
  · cases adds with
    | push place => simp [setAdder, ordered]
    | notify place =>
      obtain ⟨worker, notified, flight, _⟩ := notify_keeps state
      simpa [setAdder, notified, flight] using ordered
    | begin | refuse | check | lock | unlock => exact ordered

/-- A worker that has seen the quit flag stays on its way out. -/
theorem step_ending (step : event.apply state = some next) (ending : state.Ending) :
    next.Ending := by
  unfold Ending at ending ⊢
  rcases step_cases step with works | turns | stops | ⟨thread, adds⟩
  · cases works with
    | quit place set | seeQuit place set | breakLoop place set => exact fun _ => ⟨set, rfl⟩
    | exit place => simpa [place, WorkerAt.ending] using ending
    | lock place => rcases place with place | place <;> simpa [place, WorkerAt.ending] using ending
    | goOn place unset => simpa [place, unset, WorkerAt.ending] using ending
    | enter place | test place | find place | findNothing place | block place | wake place
    | skip place | pop place | endBody place | unlock place | call place =>
      simp_all [WorkerAt.ending]
  · cases turns with
    | callbackEnds place | wakeSpuriously place => simpa [place, WorkerAt.ending] using ending
  · cases stops with
    | setQuit => exact fun observed => ⟨rfl, (ending observed).2⟩
    | notifyAll =>
      obtain ⟨worker, notified, _, last, _⟩ := notify_keeps state
      simpa [notified, last] using ending
    | join => exact ending
  · cases adds with
    | notify place =>
      obtain ⟨worker, notified, _, last, _⟩ := notify_keeps state
      simpa [setAdder, notified, last] using ending
    | begin | refuse | check | lock | push | unlock => exact ending

/-- Every step keeps the owner of the mutex where the mutex is held. -/
theorem step_guarded (step : event.apply state = some next) (guarded : state.Guarded) :
    next.Guarded := by
  have worker := guarded.worker
  have adders := guarded.adders
  rcases step_cases step with works | turns | stops | ⟨thread, adds⟩
  · cases works with
    | lock place free =>
      constructor
      · simp [WorkerAt.locks]
      · simpa [free] using adders
    | block place | endBody place | unlock place | exit place =>
      have held : state.mutex = some .worker := worker.mp (by simp [place, WorkerAt.locks])
      constructor
      · simp [WorkerAt.locks]
      · simpa [held] using adders
    | quit place | enter place | seeQuit place | test place | find place | findNothing place
    | wake place | breakLoop place | goOn place | skip place | pop place | call place =>
      refine ⟨?_, adders⟩
      simpa [place, WorkerAt.locks] using worker
  · cases turns with
    | callbackEnds place | wakeSpuriously place =>
      refine ⟨?_, adders⟩
      simpa [place, WorkerAt.locks] using worker
  · cases stops with
    | notifyAll => exact ⟨(notify_guarded guarded).worker, (notify_guarded guarded).adders⟩
    | setQuit | join => exact ⟨worker, adders⟩
  · cases adds with
    | begin callback place | refuse place | check place =>
      exact setAdder_guarded guarded (by simp [place, AdderAt.locks])
    | push place =>
      have moved : (state.setAdder thread .pushed).Guarded :=
        setAdder_guarded guarded (by simp [place, AdderAt.locks])
      exact ⟨moved.worker, moved.adders⟩
    | notify place =>
      apply setAdder_guarded (notify_guarded guarded)
      obtain ⟨worker, notified, _⟩ := notify_keeps state
      simp [notified, place, AdderAt.locks]
    | lock place free =>
      refine ⟨?_, fun other => ?_⟩
      · simpa [setAdder, free] using worker
      · by_cases moved : other = thread
        · simp [setAdder, moved, AdderAt.locks]
        · simpa [setAdder, Function.update_of_ne moved, Ne.symm moved, free] using adders other
    | unlock place =>
      have held : state.mutex = some (.adder thread) :=
        (adders thread).mp (by simp [place, AdderAt.locks])
      refine ⟨?_, fun other => ?_⟩
      · simpa [setAdder, held] using worker
      · by_cases moved : other = thread
        · simp [setAdder, moved, AdderAt.locks]
        · simpa [setAdder, Function.update_of_ne moved, Ne.symm moved, held] using adders other

/-- No step loses a wake-up. -/
theorem step_watched (step : event.apply state = some next) (guarded : state.Guarded)
    (watched : state.Watched) : next.Watched := by
  rcases step_cases step with works | turns | stops | ⟨thread, adds⟩
  · cases works with
    | findNothing place empty => exact ⟨fun _ => empty, by simp⟩
    | block place => exact ⟨by simp, fun _ => .inl (watched.aboutToWait place)⟩
    | quit | enter | lock | seeQuit | test | find | wake | breakLoop | goOn | skip | pop | endBody
    | unlock | call | exit =>
      exact ⟨by simp, by simp⟩
  · cases turns <;> exact ⟨by simp, by simp⟩
  · cases stops with
    | notifyAll => exact ⟨(notify_watched watched).aboutToWait, (notify_watched watched).blocked⟩
    | setQuit | join => exact ⟨watched.aboutToWait, watched.blocked⟩
  · cases adds with
    | begin callback place | refuse place | check place =>
      exact setAdder_watched watched (by simp [place])
    | @lock callback place =>
      have moved : (state.setAdder thread (.locked callback)).Watched :=
        setAdder_watched watched (by simp [place])
      exact ⟨moved.aboutToWait, moved.blocked⟩
    | unlock place =>
      have moved : (state.setAdder thread .idle).Watched :=
        setAdder_watched watched (by simp [place])
      exact ⟨moved.aboutToWait, moved.blocked⟩
    | push place =>
      -- The worker is not about to wait: it would have the mutex.
      refine ⟨fun waits => ?_, fun _ => .inr ⟨thread, by simp [setAdder]⟩⟩
      have held := (guarded.adders thread).mp (by simp [place, AdderAt.locks])
      have worker : state.mutex = some .worker := by
        change state.worker = .aboutToWait at waits
        exact guarded.worker.mp (by simp [waits, WorkerAt.locks])
      simp [held] at worker
    | notify place =>
      refine ⟨(notify_watched watched).aboutToWait, fun blocked => ?_⟩
      exact absurd blocked notify_unblocked

theorem sound_of_run (run : (queueRuns Thread Callback).Run events state) : state.Sound := by
  apply run.invariant
  · rintro _ rfl
    exact sound_initial
  · intro _ _ _ sound _ step
    exact ⟨step_ordered step sound.ordered, step_ending step sound.ending,
      step_guarded step sound.guarded,
      step_watched step sound.guarded sound.watched⟩

/-- Nothing is called any more once the worker has seen `_quit`. -/
theorem step_quiet (step : event.apply state = some next) (sound : state.Sound)
    (observed : state.observed = true) :
    next.started = state.started ∧ next.observed = true := by
  rcases step_cases step with works | turns | stops | ⟨thread, adds⟩
  · have last := (sound.ending observed).2
    cases works with
    | call place => simp [place, WorkerAt.ending] at last
    | quit | enter | lock | seeQuit | test | find | findNothing | block | wake | breakLoop | goOn
    | skip | pop | endBody | unlock | exit =>
      simp [observed]
  · cases turns <;> exact ⟨rfl, observed⟩
  · obtain ⟨worker, notified, _⟩ := notify_keeps state
    cases stops <;> simp [notified, observed]
  · obtain ⟨worker, notified, _⟩ := notify_keeps state
    cases adds <;> simp [setAdder, notified, observed]

/-- A run goes on with events that can happen one after the other. -/
theorem run_continued {more : List (QueueEvent Thread Callback)}
    (run : (queueRuns Thread Callback).Run events state)
    (reached : more.foldlM (fun state event => event.apply state) state = some next) :
    (queueRuns Thread Callback).Run (events ++ more) next :=
  run.foldlM (fun step => ⟨trivial, step⟩) reached

/-- A worker at the top of its loop calls the next callback, by steps of its own. -/
theorem calls_next {callback : Callback} {rest : List Callback}
    (run : (queueRuns Thread Callback).Run events state) (place : state.worker = .loop)
    (unset : state.quit = false) (free : state.mutex = none)
    (queued : state.queue = callback :: rest) :
    (queueRuns Thread Callback).Run (events ++ List.replicate 8 .work)
      { state with
        queue := rest
        worker := .running callback
        started := state.started ++ [callback] } := by
  obtain ⟨_, _, _, _, stop, adders, pushed, started, observed⟩ := state
  subst place unset free queued
  -- The loop, the lock, both parts of the predicate, the second look at the flag, the pop,
  -- the unlock and the call.
  exact run_continued run rfl

/-- However the threads interleave and whichever callbacks throw: what the worker has
started is a prefix of what was pushed, the rest being what it is about to start and the
queue; it starts nothing after it has seen `_quit`; and after a callback, thrown or not, it
starts the next one if the flag is unset. Nor does it sleep while callbacks are queued,
unless the thread that pushed one is about to notify it. -/
theorem callbacks_in_order (run : (queueRuns Thread Callback).Run events state) :
    state.started <+: state.pushed ∧
    state.pushed = state.started ++ state.worker.inFlight ++ state.queue ∧
    (∀ (event : QueueEvent Thread Callback) next, event.apply state = some next →
      state.observed = true → next.started = state.started ∧ next.observed = true) ∧
    (∀ threw current callback rest, state.worker = .running current →
      state.quit = false → state.mutex = none → state.queue = callback :: rest →
      ∃ next, (queueRuns Thread Callback).Run
          (events ++ .callbackEnds threw :: List.replicate 8 .work) next ∧
        next.started = state.started ++ [callback]) ∧
    (state.worker = .blocked false →
      state.queue = [] ∨ ∃ thread, state.adders thread = .pushed) := by
  have sound := sound_of_run run
  refine ⟨⟨_, (List.append_assoc _ _ _).symm.trans sound.ordered.symm⟩, sound.ordered,
    fun event next step observed => step_quiet step sound observed, ?_, sound.watched.blocked⟩
  intro threw current callback rest running unset free queued
  have step : (QueueEvent.callbackEnds threw).apply state =
      some { state with worker := .loop } := by
    simp [QueueEvent.apply, callbackEnds, running]
  have called := calls_next (run.step trivial step) rfl unset free queued
  exact ⟨_, by simpa using called, rfl⟩

end Runs

/-- Two callbacks are pushed; the first throws, and the second is called. -/
def twoPushes : List (QueueEvent Unit Nat) :=
  .addCallback () 1 :: List.replicate 5 (.adding ()) ++
    .addCallback () 2 :: List.replicate 5 (.adding ()) ++ List.replicate 8 .work

/-- The first of two callbacks throws. -/
theorem callbacks_in_order_throwing :
    ∃ state : CallbackQueue Unit Nat,
      (queueRuns Unit Nat).Run twoPushes state ∧
      state.started = [1] ∧ state.pushed = [1, 2] ∧ state.started <+: state.pushed ∧
      ∃ next, (queueRuns Unit Nat).Run
          (twoPushes ++ .callbackEnds true :: List.replicate 8 .work) next ∧
        next.started = [1] ++ [2] := by
  have start : (queueRuns Unit Nat).Run [] initial := .initial rfl
  have reached : twoPushes.foldlM (fun state event => event.apply state) initial = some _ := rfl
  have run := run_continued start reached
  obtain ⟨isPrefix, _, _, goesOn, _⟩ := callbacks_in_order run
  exact ⟨_, run, rfl, rfl, isPrefix, goesOn true 1 2 [] rfl rfl rfl rfl⟩

end CallbackQueue

end CoBridge

import Mathlib.Logic.Function.Basic
import CoBridge.Library.Transition

/-!
# The callback queue

`CallbackQueue` with one worker, which is how the server runs the handling of messages and
of closed connections. Any number of threads call `add_callback`, one may call `stop`, and
the worker runs `do_work`. Each of them is cut at every access to what they share: the
flag `_quit`, which is atomic and not guarded by the mutex, the mutex, the condition
variable and the queue.

The wait tests its predicate with the mutex held and then releases the mutex and blocks in
one step. It can wake up for no reason.
-/

namespace CoBridge

open Library

variable {Thread Callback : Type}

/-- Where the worker is in `do_work`. -/
inductive WorkerAt (Callback : Type) where
  /-- At the condition of the loop. -/
  | loop
  | lock
  /-- In the predicate of the wait, at its read of `_quit`. -/
  | testQuit
  /-- In the predicate, at its test of the queue. -/
  | testEmpty
  /-- The predicate was false. -/
  | aboutToWait
  | blocked (notified : Bool)
  /-- Woken up, and in need of the mutex. -/
  | relock
  /-- Behind the wait, at the second read of `_quit`. -/
  | ready
  | take
  /-- The queue was empty all the same: the end of the loop body unlocks. -/
  | skip
  | popped (callback : Callback)
  | call (callback : Callback)
  | running (callback : Callback)
  /-- Out of the loop, with the mutex held. -/
  | leave
  | exited
deriving DecidableEq

/-- Where a thread is in `add_callback`. -/
inductive AdderAt (Callback : Type) where
  | idle
  | called (callback : Callback)
  | checked (callback : Callback)
  | locked (callback : Callback)
  | pushed
  | notified
deriving DecidableEq

/-- How far `stop` has come. -/
inductive StopAt where
  | notCalled
  | quitSet
  /-- Behind `notify_all`, joining the worker. -/
  | joining
  | returned
deriving DecidableEq

inductive MutexOwner (Thread : Type) where
  | worker
  | adder (thread : Thread)
deriving DecidableEq

structure CallbackQueue (Thread Callback : Type) where
  quit : Bool
  mutex : Option (MutexOwner Thread)
  queue : List Callback
  worker : WorkerAt Callback
  stop : StopAt
  adders : Thread → AdderAt Callback
  /-- All callbacks pushed onto the queue. -/
  pushed : List Callback
  /-- All callbacks the worker has called. -/
  started : List Callback
  /-- The worker has read `_quit` and found it set. -/
  observed : Bool

namespace CallbackQueue

def initial : CallbackQueue Thread Callback where
  quit := false
  mutex := none
  queue := []
  worker := .loop
  stop := .notCalled
  adders _ := .idle
  pushed := []
  started := []
  observed := false

/-- The worker reads `_quit` and goes on accordingly. -/
def workerReadsQuit (state : CallbackQueue Thread Callback) (set unset : WorkerAt Callback) :
    CallbackQueue Thread Callback :=
  if state.quit then { state with worker := set, observed := true }
  else { state with worker := unset }

/-- The worker takes the mutex if nobody has it. -/
def workerLocks (state : CallbackQueue Thread Callback) : Option (CallbackQueue Thread Callback) :=
  if state.mutex.isNone then some { state with mutex := some .worker, worker := .testQuit }
  else none

/-- The worker releases the mutex. -/
def workerUnlocks (state : CallbackQueue Thread Callback) (next : WorkerAt Callback) :
    CallbackQueue Thread Callback :=
  { state with mutex := none, worker := next }

/-- The next step of `do_work`, unless the worker has to wait. -/
def work (state : CallbackQueue Thread Callback) : Option (CallbackQueue Thread Callback) :=
  match state.worker with
  | .loop => some (state.workerReadsQuit .exited .lock)
  | .lock => state.workerLocks
  | .testQuit => some (state.workerReadsQuit .ready .testEmpty)
  | .testEmpty =>
    some { state with worker := if state.queue.isEmpty then .aboutToWait else .ready }
  | .aboutToWait => some (state.workerUnlocks (.blocked false))
  | .blocked notified => if notified then some { state with worker := .relock } else none
  | .relock => state.workerLocks
  | .ready => some (state.workerReadsQuit .leave .take)
  | .take =>
    match state.queue with
    | [] => some { state with worker := .skip }
    | callback :: rest => some { state with queue := rest, worker := .popped callback }
  | .skip => some (state.workerUnlocks .loop)
  | .popped callback => some (state.workerUnlocks (.call callback))
  | .call callback =>
    some { state with worker := .running callback, started := state.started ++ [callback] }
  | .running _ => none
  | .leave => some (state.workerUnlocks .exited)
  | .exited => none

/-- The callback returns, or it throws and the exception is logged. -/
def callbackEnds (_threw : Bool) (state : CallbackQueue Thread Callback) :
    Option (CallbackQueue Thread Callback) :=
  match state.worker with
  | .running _ => some { state with worker := .loop }
  | _ => none

/-- The wait wakes up without a notification. -/
def wakeSpuriously (state : CallbackQueue Thread Callback) :
    Option (CallbackQueue Thread Callback) :=
  match state.worker with
  | .blocked _ => some { state with worker := .relock }
  | _ => none

/-- What `notify_one` and `notify_all` do: the worker is the only one that waits, and it is
notified if it is blocked. -/
def notify (state : CallbackQueue Thread Callback) : CallbackQueue Thread Callback :=
  match state.worker with
  | .blocked _ => { state with worker := .blocked true }
  | _ => state

/-- The next step of `stop`. -/
def stopping (state : CallbackQueue Thread Callback) : Option (CallbackQueue Thread Callback) :=
  match state.stop with
  | .notCalled => some { state with quit := true, stop := .quitSet }
  | .quitSet => some { state.notify with stop := .joining }
  | .joining =>
    match state.worker with
    | .exited => some { state with stop := .returned }
    | _ => none
  | .returned => none

section Adders

variable [DecidableEq Thread]

def setAdder (state : CallbackQueue Thread Callback) (thread : Thread) (place : AdderAt Callback) :
    CallbackQueue Thread Callback :=
  { state with adders := Function.update state.adders thread place }

/-- A thread calls `add_callback`. -/
def addCallback (thread : Thread) (callback : Callback) (state : CallbackQueue Thread Callback) :
    Option (CallbackQueue Thread Callback) :=
  match state.adders thread with
  | .idle => some (state.setAdder thread (.called callback))
  | _ => none

/-- The next step of the thread's `add_callback`. -/
def adding (thread : Thread) (state : CallbackQueue Thread Callback) :
    Option (CallbackQueue Thread Callback) :=
  match state.adders thread with
  | .idle => none
  | .called callback =>
    some (state.setAdder thread (if state.quit then .idle else .checked callback))
  | .checked callback =>
    if state.mutex.isNone then
      some { state.setAdder thread (.locked callback) with mutex := some (.adder thread) }
    else none
  | .locked callback =>
    some { state.setAdder thread .pushed with
      queue := state.queue ++ [callback]
      pushed := state.pushed ++ [callback] }
  | .pushed => some (state.notify.setAdder thread .notified)
  | .notified => some { state.setAdder thread .idle with mutex := none }

end Adders

end CallbackQueue

/-- Who takes the next step. -/
inductive QueueEvent (Thread Callback : Type) where
  | work
  | callbackEnds (threw : Bool)
  | wakeSpuriously
  | stopping
  | addCallback (thread : Thread) (callback : Callback)
  | adding (thread : Thread)
deriving DecidableEq

variable [DecidableEq Thread]

def QueueEvent.apply (event : QueueEvent Thread Callback) (state : CallbackQueue Thread Callback) :
    Option (CallbackQueue Thread Callback) :=
  match event with
  | .work => state.work
  | .callbackEnds threw => state.callbackEnds threw
  | .wakeSpuriously => state.wakeSpuriously
  | .stopping => state.stopping
  | .addCallback thread callback => state.addCallback thread callback
  | .adding thread => state.adding thread

/-- The interleavings of the worker, one `stop` and the calls of `add_callback`. -/
def queueRuns (Thread Callback : Type) [DecidableEq Thread] :
    TransitionSystem (CallbackQueue Thread Callback) (QueueEvent Thread Callback) where
  Initial state := state = .initial
  Step state event next := event.apply state = some next

end CoBridge

import Mathlib.Data.UInt
import CoBridge.Library.Traverse
import CoBridge.Library.Transition

/-!
# The send queue of a connection

The websocket library as it is patched for the bridge: `write_push` stamps each message
with the time and with whether it may be dropped, `write_pop` passes over messages that
have waited for too long, and `write_frame` hands over what it has popped in one transport
write, which it closes at a terminal message or above one mebibyte.

`write_frame` and `handle_write_frame` are cut where they hold `m_write_lock` and where
they do not. The calls that are under way are counted, so that the flag is proved to keep
them apart rather than assumed to.
-/

namespace CoBridge.Transport

open Library

/-- A prepared message. -/
structure Message where
  header : List UInt8
  payload : List UInt8
  terminal : Bool
deriving DecidableEq

/-- `get_payload().size()`, a `size_t`. -/
def Message.size (message : Message) : UInt64 := message.payload.length.toUInt64

/-- What `write_frame` appends to `m_send_buffer` for a message. -/
def Message.buffers (message : Message) : List (List UInt8) := [message.header, message.payload]

/-- An element of `m_send_queue`. -/
structure Queued where
  time : UInt64
  message : Message
  reliable : Bool
deriving DecidableEq

structure Connection where
  sendQueue : List Queued
  sendBufferSize : UInt64
  currentMsgs : List Message
  sendBuffer : List (List UInt8)
  writeFlag : Bool
deriving DecidableEq

def Connection.initial : Connection := ⟨[], 0, [], [], false⟩

/-- `write_push`. The message is a pointer, which may be null. -/
def writePush (now : UInt64) (msg : Option Message) (reliable : Bool) (con : Connection) :
    Connection :=
  match msg with
  | none => con
  | some message =>
    { con with
      sendBufferSize := con.sendBufferSize + message.size
      sendQueue := con.sendQueue ++ [⟨now, message, reliable⟩] }

/-- The loop of `write_pop`. A message that it does not return at once stays in `msg`, so
that when the queue runs out the last one is returned however late it is. -/
def popLoop (now : UInt64) : List Queued → UInt64 → Option Message →
    Option Message × List Queued × UInt64
  | [], bufferSize, msg => (msg, [], bufferSize)
  | entry :: rest, bufferSize, _ =>
    -- The difference is unsigned: a clock that went back makes it large.
    if now - entry.time < 100 || entry.reliable then
      (some entry.message, rest, bufferSize - entry.message.size)
    else popLoop now rest (bufferSize - entry.message.size) (some entry.message)

def writePop (now : UInt64) (con : Connection) : Option Message × Connection :=
  if con.sendQueue.isEmpty then (none, con)
  else
    let (msg, queue, bufferSize) := popLoop now con.sendQueue con.sendBufferSize none
    (msg, { con with sendQueue := queue, sendBufferSize := bufferSize })

/-- The sizes of the queued payloads together, as `size_t` adds them. -/
def queueSize (queue : List Queued) : UInt64 := (queue.map fun entry => entry.message.size).sum

@[simp] theorem queueSize_nil : queueSize [] = 0 := rfl

@[simp] theorem queueSize_cons (entry : Queued) (rest : List Queued) :
    queueSize (entry :: rest) = entry.message.size + queueSize rest := rfl

@[simp] theorem queueSize_append (left right : List Queued) :
    queueSize (left ++ right) = queueSize left + queueSize right := by
  induction left with
  | nil => simp
  | cons entry rest ih =>
    simp only [List.cons_append, queueSize_cons, ih]
    grind

/-- The test of the loop fails: the entry is neither in time nor reliable. -/
def Queued.isPassedOver (now : UInt64) (entry : Queued) : Bool :=
  !(now - entry.time < 100 || entry.reliable)

theorem Queued.isPassedOver_unreliable {now : UInt64} {entry : Queued}
    (passed : entry.isPassedOver now = true) : entry.reliable = false := by
  simp only [Queued.isPassedOver, Bool.not_eq_true', Bool.or_eq_false_iff] at passed
  exact passed.2

/-- What the loop returns is the first message that is in time or reliable, or else the
last one. -/
theorem popLoop_cons (now bufferSize : UInt64) (msg : Option Message) (entry : Queued)
    (rest : List Queued) :
    ∃ dropped taken left, entry :: rest = dropped ++ taken :: left ∧
      (∀ skipped ∈ dropped, skipped.isPassedOver now = true) ∧
      (taken.isPassedOver now = false ∨ left = []) ∧
      popLoop now (entry :: rest) bufferSize msg =
        (some taken.message, left, bufferSize - queueSize (dropped ++ [taken])) := by
  induction rest generalizing entry bufferSize msg with
  | nil =>
    refine ⟨[], entry, [], rfl, by simp, .inr rfl, ?_⟩
    simp [popLoop]
  | cons next rest ih =>
    by_cases returned : (now - entry.time < 100 || entry.reliable) = true
    · refine ⟨[], entry, next :: rest, rfl, by simp, .inl ?_, ?_⟩
      · simp [Queued.isPassedOver, returned]
      · simp [popLoop, returned]
    · obtain ⟨dropped, taken, left, split, passed, ends, popped⟩ :=
        ih (bufferSize - entry.message.size) (some entry.message) next
      refine ⟨entry :: dropped, taken, left, by simp [split], ?_, ends, ?_⟩
      · have first : entry.isPassedOver now = true := by
          simpa [Queued.isPassedOver] using returned
        simpa [first] using passed
      · rw [popLoop, if_neg returned, popped]
        simp only [List.cons_append, queueSize_cons]
        congr 2
        grind

/-- The two ways a `write_pop` ends. -/
theorem writePop_cases (now : UInt64) (con : Connection) :
    (con.sendQueue = [] ∧ writePop now con = (none, con)) ∨
      ∃ dropped taken left, con.sendQueue = dropped ++ taken :: left ∧
        (∀ skipped ∈ dropped, skipped.isPassedOver now = true) ∧
        (taken.isPassedOver now = false ∨ left = []) ∧
        writePop now con = (some taken.message,
          { con with
            sendQueue := left
            sendBufferSize := con.sendBufferSize - queueSize (dropped ++ [taken]) }) := by
  cases queued : con.sendQueue with
  | nil => exact .inl ⟨rfl, by simp [writePop, queued]⟩
  | cons entry rest =>
    obtain ⟨dropped, taken, left, split, passed, ends, popped⟩ :=
      popLoop_cons now con.sendBufferSize none entry rest
    exact .inr ⟨dropped, taken, left, split, passed, ends, by simp [writePop, queued, popped]⟩

/-- A bound for the pops that the loop of `write_frame` has left. -/
def remaining (next : Option Message) (con : Connection) : Nat :=
  con.sendQueue.length + next.toList.length

theorem remaining_writePop (now : UInt64) (message : Message) (con : Connection) :
    remaining (writePop now con).1 (writePop now con).2 < remaining (some message) con := by
  rcases writePop_cases now con with ⟨empty, popped⟩ | ⟨dropped, taken, left, split, _, _, popped⟩
  · simp [remaining, popped, empty]
  · simp only [remaining, popped, split, Option.toList_some, List.length_append, List.length_cons]
    omega

/-- The loop of `write_frame`. The readings are those of the clock at each `write_pop`. -/
def gather (readings : Nat → UInt64) (pops : Nat) (totalSize : UInt64) (next : Option Message)
    (con : Connection) : Connection :=
  match next with
  | none => con
  | some message =>
    let con := { con with currentMsgs := con.currentMsgs ++ [message] }
    let totalSize := totalSize + message.size
    if totalSize > 1048576 then con
    else if !message.terminal then
      gather readings (pops + 1) totalSize (writePop (readings pops) con).1
        (writePop (readings pops) con).2
    else con
termination_by remaining next con
decreasing_by exact remaining_writePop _ _ _

/-- The part of `write_frame` that holds the lock, and whether the call goes on to
`async_write`. -/
def writeFrame (readings : Nat → UInt64) (con : Connection) : Bool × Connection :=
  if con.writeFlag then (false, con)
  else
    let (next, popped) := writePop (readings 0) con
    let gathered := gather readings 1 0 next popped
    if gathered.currentMsgs.isEmpty then (false, gathered)
    else (true, { gathered with writeFlag := true })

/-- What `write_frame` does next: it fills `m_send_buffer`, which it passes to the
transport. -/
def fillSendBuffer (con : Connection) : Connection :=
  { con with sendBuffer := con.sendBuffer ++ con.currentMsgs.flatMap Message.buffers }

/-- The part of `handle_write_frame` before the lock, `last` being `m_current_msgs.back()`,
and whether the call goes on. If not it has called `terminate`. -/
def handleWriteFrame (failed : Bool) (last : Message) (con : Connection) : Bool × Connection :=
  (!failed && !last.terminal, { con with sendBuffer := [], currentMsgs := [] })

/-- `needs_writing` as the callers of `write_push` compute it, under the lock. -/
def needsWriting (con : Connection) : Bool := !con.writeFlag && !con.sendQueue.isEmpty

/-- The part of `handle_write_frame` that holds the lock, and `needs_writing`. -/
def releaseWriteFlag (con : Connection) : Bool × Connection :=
  (!con.sendQueue.isEmpty, { con with writeFlag := false })

/-- A connection with the calls that are under way. -/
structure SendState where
  con : Connection
  /-- Calls that found `needs_writing` and have yet to dispatch a `write_frame`. -/
  dispatching : Nat
  /-- Dispatched `write_frame` calls that have yet to take the lock. -/
  dispatched : Nat
  /-- `write_frame` calls on their way to `async_write`. -/
  assembled : Nat
  /-- Transport writes whose handler has yet to be called. -/
  writing : Nat
  /-- `handle_write_frame` calls that have yet to take the lock. -/
  completing : Nat
  /-- All buffers handed to the transport. -/
  written : List (List UInt8)
deriving DecidableEq

/-- The `write_frame` calls that are pending. -/
def SendState.pending (state : SendState) : Nat := state.dispatching + state.dispatched

inductive SendEvent where
  | push (now : UInt64) (msg : Option Message) (reliable : Bool)
  | dispatch
  | writeFrame (readings : Nat → UInt64)
  | asyncWrite
  | handleWriteFrame (failed : Bool)
  | releaseWriteFlag

/-- The part of `send`, `ping`, `pong` or `send_close_frame` that holds the lock. -/
def SendState.push (now : UInt64) (msg : Option Message) (reliable : Bool) (state : SendState) :
    SendState :=
  let con := writePush now msg reliable state.con
  { state with con, dispatching := state.dispatching + (needsWriting con).toNat }

/-- Any number of threads push, dispatch and run the handlers of one connection. -/
inductive SendStep : SendState → SendEvent → SendState → Prop where
  | push {state} (now msg reliable) :
      SendStep state (.push now msg reliable) (state.push now msg reliable)
  | dispatch {state} (needed : 0 < state.dispatching) :
      SendStep state .dispatch
        { state with
          dispatching := state.dispatching - 1
          dispatched := state.dispatched + 1 }
  | takeMessages {state} (readings) (called : 0 < state.dispatched) :
      SendStep state (.writeFrame readings)
        { state with
          con := (writeFrame readings state.con).2
          dispatched := state.dispatched - 1
          assembled := state.assembled + (writeFrame readings state.con).1.toNat }
  | asyncWrite {state} (reached : 0 < state.assembled) :
      SendStep state .asyncWrite
        { state with
          con := fillSendBuffer state.con
          assembled := state.assembled - 1
          writing := state.writing + 1
          written := state.written ++ (fillSendBuffer state.con).sendBuffer }
  | completeWrite {state last} (failed) (outstanding : 0 < state.writing)
      (back : state.con.currentMsgs.getLast? = some last) :
      SendStep state (.handleWriteFrame failed)
        { state with
          con := (handleWriteFrame failed last state.con).2
          writing := state.writing - 1
          completing := state.completing + (handleWriteFrame failed last state.con).1.toNat }
  | clearFlag {state} (reached : 0 < state.completing) :
      SendStep state .releaseWriteFlag
        { state with
          con := (releaseWriteFlag state.con).2
          completing := state.completing - 1
          dispatching := state.dispatching + (releaseWriteFlag state.con).1.toNat }

def SendState.initial : SendState := ⟨.initial, 0, 0, 0, 0, 0, []⟩

/-- The runs of the send queue. -/
def sendRuns : TransitionSystem SendState SendEvent where
  Initial state := state = .initial
  Step := SendStep

/-- The messages that were pushed, in order. -/
def pushes (events : List SendEvent) : List Queued :=
  events.filterMap fun
    | .push now (some message) reliable => some ⟨now, message, reliable⟩
    | _ => none

end CoBridge.Transport

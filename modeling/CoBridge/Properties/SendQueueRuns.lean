import CoBridge.Transport.SendQueue

/-!
# Runs of the send queue

However pushes, transport writes and their handlers interleave, whatever the clock shows
and however large the messages are: what is handed over is what was pushed, in order and
without the messages that came too late, no reliable message is missing, the buffer size is
that of the queued payloads, and a queue that is not empty has somebody to empty it.
-/

namespace CoBridge.Transport

open Library

variable {state next : SendState} {event : SendEvent} {events : List SendEvent} {con : Connection}
variable (readings : Nat → UInt64) (now : UInt64) (msg : Option Message) (reliable : Bool)

/-- The size of the send buffer is that of the payloads in the queue. -/
def Connection.Sized (con : Connection) : Prop := con.sendBufferSize = queueSize con.sendQueue

/-- What a `write_pop` takes from the queue. -/
theorem writePop_takes (sized : con.Sized) :
    (con.sendQueue = [] ∧ writePop now con = (none, con)) ∨
      ∃ entry popped, writePop now con = (some entry.message, popped) ∧
        Retains Queued.reliable con.sendQueue (entry :: popped.sendQueue) ∧ popped.Sized ∧
        popped.currentMsgs = con.currentMsgs ∧ popped.sendBuffer = con.sendBuffer ∧
        popped.writeFlag = con.writeFlag := by
  rcases writePop_cases now con with nothing | ⟨dropped, entry, left, split, passed, _, popped⟩
  · exact .inl nothing
  · refine .inr ⟨entry, _, popped, ?_, ?_, rfl, rfl, rfl⟩
    · rw [split]
      exact .drop fun skipped member => Queued.isPassedOver_unreliable (passed skipped member)
    · have before : con.sendBufferSize = queueSize con.sendQueue := sized
      simp only [Connection.Sized, before, split, queueSize_append, queueSize_cons, queueSize_nil]
      grind

/-- What the loop of `write_frame` takes from the queue. -/
theorem gather_takes (pops : Nat) (totalSize : UInt64) (message? : Option Message)
    (con : Connection) (sized : con.Sized) :
    ∃ taken, Retains Queued.reliable con.sendQueue
        (taken ++ (gather readings pops totalSize message? con).sendQueue) ∧
      (gather readings pops totalSize message? con).currentMsgs =
        con.currentMsgs ++ message?.toList ++ taken.map Queued.message ∧
      (gather readings pops totalSize message? con).Sized ∧
      (gather readings pops totalSize message? con).sendBuffer = con.sendBuffer ∧
      (gather readings pops totalSize message? con).writeFlag = con.writeFlag := by
  fun_induction gather readings pops totalSize message? con with
  | case1 => exact ⟨[], .refl _, by simp, sized, rfl, rfl⟩
  | case2 pops totalSize con message con' | case4 pops totalSize con message con' =>
    exact ⟨[], .refl _, by simp [con'], sized, rfl, rfl⟩
  | case3 pops totalSize con message con' totalSize' _ _ ih =>
    have stillSized : con'.Sized := sized
    rcases writePop_takes (readings pops) stillSized with
      ⟨_, pop⟩ | ⟨entry, popped, pop, left, poppedSized, current, buffer, flag⟩
    · rw [pop] at ih ⊢
      obtain ⟨taken, retained, gathered, rest⟩ := ih sized
      exact ⟨taken, retained, by simpa [con'] using gathered, rest⟩
    · rw [pop] at ih ⊢
      obtain ⟨taken, retained, gathered, gatheredSized, sameBuffer, sameFlag⟩ :=
        ih poppedSized
      refine ⟨entry :: taken, ?_, by simpa [con', current] using gathered, gatheredSized,
        sameBuffer.trans buffer, sameFlag.trans flag⟩
      exact left.trans (retained.append_left [entry])

/-- What a `write_frame` that finds the flag unset does under the lock. Either the queue is
empty and stays so, or the call takes messages and the flag. -/
theorem writeFrame_takes (unset : con.writeFlag = false) (idle : con.currentMsgs = [])
    (sized : con.Sized) :
    ∃ taken, Retains Queued.reliable con.sendQueue
        (taken ++ (writeFrame readings con).2.sendQueue) ∧
      (writeFrame readings con).2.currentMsgs = taken.map Queued.message ∧
      (writeFrame readings con).2.Sized ∧
      (writeFrame readings con).2.sendBuffer = con.sendBuffer ∧
      ((taken = [] ∧ (writeFrame readings con).1 = false ∧
          (writeFrame readings con).2.writeFlag = false ∧
          (writeFrame readings con).2.sendQueue = []) ∨
        (taken ≠ [] ∧ (writeFrame readings con).1 = true ∧
          (writeFrame readings con).2.writeFlag = true)) := by
  rcases writePop_takes (readings 0) sized with
    ⟨empty, pop⟩ | ⟨entry, popped, pop, left, poppedSized, current, buffer, _⟩
  · have returned : writeFrame readings con = (false, con) := by
      simp [writeFrame, unset, pop, gather, idle]
    rw [returned]
    exact ⟨[], .refl _, by simp [idle], sized, rfl, .inl ⟨rfl, rfl, unset, empty⟩⟩
  · obtain ⟨taken, retained, gathered, gatheredSized, sameBuffer, _⟩ :=
      gather_takes readings 1 0 (some entry.message) popped poppedSized
    have handed : writeFrame readings con =
        (true, { gather readings 1 0 (some entry.message) popped with writeFlag := true }) := by
      simp [writeFrame, unset, pop, gathered]
    rw [handed]
    refine ⟨entry :: taken, ?_, by simpa [current, idle] using gathered, gatheredSized,
      sameBuffer.trans buffer, .inr ⟨by simp, rfl, rfl⟩⟩
    exact left.trans (retained.append_left [entry])

/-- At most one call at a time is between the two sections that the flag covers, and what
it holds is in `m_current_msgs`. -/
structure Exclusive (state : SendState) : Prop where
  single : state.assembled + state.writing + state.completing ≤ 1
  flagged : 0 < state.assembled + state.writing + state.completing → state.con.writeFlag = true
  cleared : state.assembled + state.writing = 0 → state.con.currentMsgs = []
  loaded : 0 < state.assembled + state.writing → state.con.currentMsgs ≠ []
  unbuffered : state.writing = 0 → state.con.sendBuffer = []

/-- If the flag is unset no call is under way. -/
theorem Exclusive.idle (exclusive : Exclusive state) (unset : state.con.writeFlag = false) :
    state.assembled = 0 ∧ state.writing = 0 ∧ state.completing = 0 := by
  have none : ¬ 0 < state.assembled + state.writing + state.completing := by
    intro busy
    simp [exclusive.flagged busy] at unset
  omega

theorem writeFrame_of_flag (flag : con.writeFlag = true) :
    writeFrame readings con = (false, con) := by
  simp [writeFrame, flag]

/-- The size of the buffer and who is to empty the queue. -/
structure Attended (state : SendState) : Prop where
  sized : state.con.Sized
  awake : state.con.sendQueue ≠ [] → state.con.writeFlag = true ∨ 0 < state.pending

theorem attended_initial : Attended .initial :=
  ⟨rfl, fun queued => absurd rfl queued⟩

theorem writePush_writeFlag (con : Connection) :
    (writePush now msg reliable con).writeFlag = con.writeFlag := by
  cases msg <;> rfl

theorem writePush_currentMsgs (con : Connection) :
    (writePush now msg reliable con).currentMsgs = con.currentMsgs := by
  cases msg <;> rfl

theorem writePush_sendBuffer (con : Connection) :
    (writePush now msg reliable con).sendBuffer = con.sendBuffer := by
  cases msg <;> rfl

theorem writePush_sized (sized : con.Sized) : (writePush now msg reliable con).Sized := by
  cases msg with
  | none => exact sized
  | some message =>
    have before : con.sendBufferSize = queueSize con.sendQueue := sized
    simp [Connection.Sized, writePush, before]

/-- A step keeps the calls apart. -/
theorem SendStep.exclusive (step : SendStep state event next) (exclusive : Exclusive state)
    (attended : Attended state) : Exclusive next := by
  have single := exclusive.single
  cases step with
  | push now msg reliable =>
    constructor
    · exact single
    · simpa [SendState.push, writePush_writeFlag] using exclusive.flagged
    · simpa [SendState.push, writePush_currentMsgs] using exclusive.cleared
    · simpa [SendState.push, writePush_currentMsgs] using exclusive.loaded
    · simpa [SendState.push, writePush_sendBuffer] using exclusive.unbuffered
  | dispatch needed => exact ⟨single, exclusive.2, exclusive.3, exclusive.4, exclusive.5⟩
  | takeMessages readings called =>
    cases flag : state.con.writeFlag with
    | true =>
      simp only [writeFrame_of_flag readings flag]
      exact ⟨single, exclusive.2, exclusive.3, exclusive.4, exclusive.5⟩
    | false =>
      obtain ⟨none, silent, done⟩ := exclusive.idle flag
      have idle := exclusive.cleared (by omega)
      obtain ⟨taken, _, current, _, buffer, ⟨nothing, stays, _, _⟩ | ⟨some, goes, set⟩⟩ :=
        writeFrame_takes readings flag idle attended.sized
      · constructor <;>
          simp [stays, none, silent, done, current, nothing, buffer,
            exclusive.unbuffered silent]
      · constructor <;>
          simp [goes, none, silent, done, set, current, some, buffer,
            exclusive.unbuffered silent]
  | asyncWrite reached =>
    have alone : state.assembled = 1 ∧ state.writing = 0 ∧ state.completing = 0 := by omega
    have flag := exclusive.flagged (by omega)
    have loaded := exclusive.loaded (by omega)
    constructor <;> simp [alone, fillSendBuffer, flag, loaded]
  | completeWrite failed outstanding back =>
    have alone : state.assembled = 0 ∧ state.writing = 1 ∧ state.completing = 0 := by omega
    have flag := exclusive.flagged (by omega)
    constructor <;> simp [alone, handleWriteFrame, flag, Bool.toNat_le]
  | clearFlag reached =>
    have alone : state.assembled = 0 ∧ state.writing = 0 ∧ state.completing = 1 := by omega
    have idle := exclusive.cleared (by omega)
    have empty := exclusive.unbuffered (by omega)
    constructor <;> simp [alone, releaseWriteFlag, idle, empty]

/-- A step keeps the size and leaves somebody to empty the queue. -/
theorem SendStep.attended (step : SendStep state event next) (exclusive : Exclusive state)
    (attended : Attended state) : Attended next := by
  cases step with
  | push now msg reliable =>
    refine ⟨writePush_sized now msg reliable attended.sized, fun queued => ?_⟩
    cases flag : state.con.writeFlag with
    | true => exact .inl ((writePush_writeFlag now msg reliable state.con).trans flag)
    | false =>
      -- The caller finds the flag unset and the queue not empty, and dispatches.
      right
      have needed : needsWriting (writePush now msg reliable state.con) = true := by
        simpa [needsWriting, writePush_writeFlag, flag, SendState.push] using queued
      simp only [SendState.pending, SendState.push, needed, Bool.toNat_true]
      omega
  | dispatch needed =>
    refine ⟨attended.sized, fun queued => ?_⟩
    right
    simp only [SendState.pending]
    omega
  | takeMessages readings called =>
    cases flag : state.con.writeFlag with
    | true =>
      simp only [writeFrame_of_flag readings flag]
      exact ⟨attended.sized, fun _ => .inl flag⟩
    | false =>
      obtain ⟨none, silent, _⟩ := exclusive.idle flag
      have idle := exclusive.cleared (by omega)
      obtain ⟨taken, _, _, sized, _, ⟨_, _, _, empty⟩ | ⟨_, _, set⟩⟩ :=
        writeFrame_takes readings flag idle attended.sized
      · exact ⟨sized, fun queued => absurd empty queued⟩
      · exact ⟨sized, fun _ => .inl set⟩
  | asyncWrite reached => exact ⟨attended.sized, attended.awake⟩
  | completeWrite failed outstanding back => exact ⟨attended.sized, attended.awake⟩
  | clearFlag reached =>
    refine ⟨attended.sized, fun queued => ?_⟩
    right
    have needed : (releaseWriteFlag state.con).1 = true := by
      simpa [releaseWriteFlag] using queued
    simp only [SendState.pending, needed, Bool.toNat_true]
    omega

/-- The pushed messages are accounted for: those handed to the transport, those that a
`write_frame` call has taken and is about to hand over, and those in the queue are what is
left of the pushes, no reliable one missing. -/
structure Accounts (events : List SendEvent) (state : SendState) (handed held : List Queued) :
    Prop where
  written : state.written = handed.flatMap fun entry => entry.message.buffers
  taken : held.map Queued.message = if state.assembled = 0 then [] else state.con.currentMsgs
  retained : Retains Queued.reliable (pushes events) (handed ++ held ++ state.con.sendQueue)

theorem Accounts.held_eq_nil {handed held : List Queued}
    (accounts : Accounts events state handed held) (none : state.assembled = 0) : held = [] := by
  have nothing := accounts.taken
  rw [if_pos none] at nothing
  exact List.map_eq_nil_iff.mp nothing

theorem pushes_append (events : List SendEvent) (event : SendEvent) :
    pushes (events ++ [event]) = pushes events ++ pushes [event] :=
  List.filterMap_append

/-- A step accounts for the messages it moves. -/
theorem SendStep.accounts (step : SendStep state event next) (exclusive : Exclusive state)
    (attended : Attended state) {handed held : List Queued}
    (accounts : Accounts events state handed held) :
    ∃ handed held, Accounts (events ++ [event]) next handed held := by
  have unchanged : pushes [event] = [] →
      Retains Queued.reliable (pushes (events ++ [event]))
        (handed ++ held ++ state.con.sendQueue) := by
    intro nothing
    rw [pushes_append, nothing, List.append_nil]
    exact accounts.retained
  cases step with
  | push now msg reliable =>
    refine ⟨handed, held, accounts.written, ?_, ?_⟩
    · simpa [SendState.push, writePush_currentMsgs] using accounts.taken
    · cases msg with
      | none => exact unchanged rfl
      | some message =>
        have appended := accounts.retained.append_right [⟨now, message, reliable⟩]
        simpa [SendState.push, writePush, pushes] using appended
  | dispatch needed => exact ⟨handed, held, accounts.written, accounts.taken, unchanged rfl⟩
  | takeMessages readings called =>
    cases flag : state.con.writeFlag with
    | true =>
      simp only [writeFrame_of_flag readings flag]
      exact ⟨handed, held, accounts.written, accounts.taken, unchanged rfl⟩
    | false =>
      obtain ⟨none, silent, _⟩ := exclusive.idle flag
      have idle := exclusive.cleared (by omega)
      obtain ⟨taken, retained, current, _, _, ⟨nothing, stays, _, _⟩ | ⟨_, goes, _⟩⟩ :=
        writeFrame_takes readings flag idle attended.sized
      all_goals
        have before := accounts.held_eq_nil none
        subst before
        have left := (unchanged rfl).trans (retained.append_left (handed ++ []))
        refine ⟨handed, taken, accounts.written, ?_, by simpa using left⟩
      · simp [stays, none, nothing]
      · simp [goes, none, current]
  | asyncWrite reached =>
    -- What the call holds goes to the transport, behind an empty buffer.
    have alone : state.assembled = 1 ∧ state.writing = 0 := by
      have single := exclusive.single
      omega
    have empty := exclusive.unbuffered alone.2
    have current := accounts.taken
    rw [if_neg (by omega)] at current
    refine ⟨handed ++ held, [], ?_, by simp [alone.1], ?_⟩
    · simp [fillSendBuffer, empty, ← current, accounts.written, List.flatMap_map]
    · simpa [fillSendBuffer] using unchanged rfl
  | completeWrite failed outstanding back =>
    have none : state.assembled = 0 := by
      have single := exclusive.single
      omega
    have before := accounts.held_eq_nil none
    subst before
    exact ⟨handed, [], accounts.written, by simp [none], unchanged rfl⟩
  | clearFlag reached =>
    exact ⟨handed, held, accounts.written, accounts.taken, unchanged rfl⟩

/-- Every state that a run reaches. -/
theorem sendRuns_sound (run : sendRuns.Run events state) :
    Exclusive state ∧ Attended state ∧ ∃ handed held, Accounts events state handed held := by
  induction run with
  | initial valid =>
    subst valid
    refine ⟨?_, attended_initial, [], [], rfl, rfl, .refl _⟩
    constructor <;> simp [SendState.initial, Connection.initial]
  | step _ _ transition ih =>
    obtain ⟨exclusive, attended, _, _, accounts⟩ := ih
    exact ⟨transition.exclusive exclusive attended, transition.attended exclusive attended,
      transition.accounts exclusive attended accounts⟩

/-- The buffer size as a number, unless the payloads together exceed `size_t`. -/
theorem queueSize_toNat (queue : List Queued) :
    (queueSize queue).toNat =
      (queue.map fun entry => entry.message.payload.length).sum % 2 ^ 64 := by
  induction queue with
  | nil => rfl
  | cons entry rest ih =>
    simp [ih, Message.size]

/-- In every state of every run, whatever the clock shows and whatever is pushed: the
buffers handed to the transport are those of a subsequence of the pushed messages; every
reliable message has been handed over or is queued, or is about to be handed over by a
`write_frame` that has left the lock; the buffer size is the size of the queued payloads;
and if the queue is not empty the flag is set or a `write_frame` is pending. -/
theorem send_queue_delivers (run : sendRuns.Run events state) :
    ∃ handed held : List Queued,
      state.written = (handed.flatMap fun entry => entry.message.buffers) ∧
      held.map Queued.message =
        (if state.assembled = 0 then [] else state.con.currentMsgs) ∧
      (handed ++ held ++ state.con.sendQueue).Sublist (pushes events) ∧
      (pushes events).filter Queued.reliable =
        (handed ++ held ++ state.con.sendQueue).filter Queued.reliable ∧
      state.con.sendBufferSize.toNat =
        (state.con.sendQueue.map fun entry => entry.message.payload.length).sum % 2 ^ 64 ∧
      (state.con.sendQueue ≠ [] → state.con.writeFlag = true ∨ 0 < state.pending) := by
  obtain ⟨_, attended, handed, held, accounts⟩ := sendRuns_sound run
  refine ⟨handed, held, accounts.written, accounts.taken, accounts.retained.sublist,
    accounts.retained.kept, ?_, attended.awake⟩
  have sized : state.con.sendBufferSize = queueSize state.con.sendQueue := attended.sized
  rw [sized, queueSize_toNat]

def lateMessage : Message := ⟨[130, 1], [7], false⟩

def reliableMessage : Message := ⟨[130, 2], [8, 9], false⟩

/-- Both messages are taken half a second after they were pushed. -/
def lateReadings : Nat → UInt64 := fun _ => 500

/-- Two pushes before the first `write_frame`: both callers found the flag unset. -/
def bothQueued : SendState :=
  ⟨⟨[⟨0, lateMessage, false⟩, ⟨0, reliableMessage, true⟩], 3, [], [], false⟩, 1, 1, 0, 0, 0, []⟩

theorem bothQueued_run : sendRuns.Run
    [.push 0 (some lateMessage) false, .push 0 (some reliableMessage) true, .dispatch]
    bothQueued := by
  have start : sendRuns.Run [] .initial := .initial rfl
  have first := start.step trivial (SendStep.push 0 (some lateMessage) false)
  have second := first.step trivial (SendStep.push 0 (some reliableMessage) true)
  exact second.step trivial (SendStep.dispatch (by decide))

/-- The first message is dropped, the second is handed over. -/
def oneWritten : SendState :=
  ⟨⟨[], 0, [reliableMessage], reliableMessage.buffers, true⟩, 1, 0, 0, 1, 0,
    reliableMessage.buffers⟩

theorem writeFrame_bothQueued :
    writeFrame lateReadings bothQueued.con = (true, ⟨[], 0, [reliableMessage], [], true⟩) := by
  simp [writeFrame, writePop, popLoop, gather, bothQueued, lateReadings, Message.size,
    lateMessage, reliableMessage]

theorem oneWritten_run : sendRuns.Run
    [.push 0 (some lateMessage) false, .push 0 (some reliableMessage) true, .dispatch,
      .writeFrame lateReadings, .asyncWrite] oneWritten := by
  have taken := bothQueued_run.step trivial (SendStep.takeMessages lateReadings (by decide))
  rw [writeFrame_bothQueued] at taken
  exact taken.step trivial (SendStep.asyncWrite (by decide))

/-- The late message is dropped, the reliable one is written. -/
theorem send_queue_delivers_reliable :
    sendRuns.Run
      [.push 0 (some lateMessage) false, .push 0 (some reliableMessage) true, .dispatch,
        .writeFrame lateReadings, .asyncWrite] oneWritten ∧
    ∃ handed held : List Queued,
      oneWritten.written = (handed.flatMap fun entry => entry.message.buffers) ∧
      held.map Queued.message =
        (if oneWritten.assembled = 0 then [] else oneWritten.con.currentMsgs) ∧
      (handed ++ held ++ oneWritten.con.sendQueue).Sublist
        [⟨0, lateMessage, false⟩, ⟨0, reliableMessage, true⟩] ∧
      [⟨0, reliableMessage, true⟩] =
        (handed ++ held ++ oneWritten.con.sendQueue).filter Queued.reliable := by
  obtain ⟨handed, held, written, taken, sublist, kept, _⟩ := send_queue_delivers oneWritten_run
  exact ⟨oneWritten_run, handed, held, written, taken, sublist, kept⟩

end CoBridge.Transport

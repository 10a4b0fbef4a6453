import Mathlib.Data.Fintype.Sum
import Mathlib.Tactic.DeriveFintype
import CoBridge.Server.ChannelSteps

/-!
# Channel lists converge

A login of one client runs together with any number of `addChannels` and
`removeChannels` calls. Each call updates the channel table and tells the
clients later; the login copies the table and sends the copy later. Nothing
orders the frames, so a frame may tell a client of a state that is over, and a
frame that cannot be written is lost. When every frame can be written and those
that reach the client are timely, its view ends up as the channel table once all
calls have finished.
-/

namespace CoBridge

open Library

section

variable {Bridge Caller : Type}
variable {state : ChannelState}

/-- The thread that serves the client's login, and the callers of the channel calls. -/
inductive ChannelThread (Caller : Type) where
  | login
  | update (caller : Caller)
deriving DecidableEq, Fintype

inductive ChannelCall (config : Config Bridge) (hdl : ConnHandle) :
    ChannelThread Caller → ServerProgram Bridge Unit → Prop where
  | login (payload : Json) : ChannelCall config hdl .login (handleLoginSections config payload hdl)
  | addChannels (caller : Caller) (channels : List ChannelWithoutId) :
      ChannelCall config hdl (.update caller)
        (addChannelsSections config.dump channels >>= fun _ => pure ())
  | removeChannels (caller : Caller) (channelIds : List ChannelId) :
      ChannelCall config hdl (.update caller) (removeChannelsSections channelIds)

/-- Whether a login has copied the channel table, after the section. -/
def Section.recordCopy (copied : Bool) : Section → Bool
  | .readChannels => true
  | _ => copied

/-- Nothing but the mutexes orders the sections. -/
def copyRecorded : Discipline Section (World Bridge) Bool where
  enabled _ _ := True
  effect label copied := label.recordCopy copied

instance (label : Section) (shared : World Bridge × Bool) :
    Decidable (copyRecorded.enabled label shared) :=
  .isTrue trivial

/-- The client is connected, not yet logged in and knows no channel. -/
structure BeforeLogin (state : ChannelState) (copied : Bool) : Prop where
  established : state.link = .established
  keyed : state.Keyed
  unregistered : state.registered = false
  uninformed : ∀ id, state.view.lookup id = none
  uncopied : copied = false

/-- The interleavings of one client's logins with the channel calls. -/
def channelCalls (Caller : Type) [DecidableEq Caller] (config : Config Bridge) (hdl : ConnHandle) :
    TransitionSystem (Pool (ChannelThread Caller) Section (World Bridge) Bool Fault)
      (PoolEvent (ChannelThread Caller) Section) :=
  Pool.system copyRecorded (ChannelCall config hdl) (fun _ _ => False)
    fun shared => BeforeLogin (shared.1.channelState hdl) shared.2

/-- What the next section of a thread will tell the client. -/
def pendingChannels (label : Option Section) : Change ChannelId (Option Channel) :=
  (label.bind Section.channelFrame).elim [] ServerMessage.channelChange

/-- The channel table, the client's view of it and the frames that are still to be sent. -/
def channelReplica (state : ChannelState) (copied : Bool)
    (labels : ChannelThread Caller → Option Section) :
    Replica (ChannelThread Caller) ChannelId (Option Channel) where
  store id := state.channels.lookup id
  view id := state.view.lookup id
  pending thread := pendingChannels (labels thread)
  complete := copied

/-- A frame that reaches the client tells it nothing that is over, except for what
another frame is about to set right. -/
def FrameTimely (state : ChannelState) (copied : Bool)
    (labels : ChannelThread Caller → Option Section) (thread : ChannelThread Caller)
    (label : Section) : Prop :=
  label.Reaches state → (channelReplica state copied labels).Timely none thread

instance [Fintype Caller] [DecidableEq Caller] (state : ChannelState) (copied : Bool)
    (labels : ChannelThread Caller → Option Section) (thread : ChannelThread Caller)
    (label : Section) : Decidable (FrameTimely state copied labels thread label) :=
  inferInstanceAs (Decidable (_ → _))

/-- All frames about channels can be written, and those that reach the client are timely. -/
def ChannelFramesTimely (check : TextCheck) (hdl : ConnHandle)
    (pool : Pool (ChannelThread Caller) Section (World Bridge) Bool Fault) :
    PoolEvent (ChannelThread Caller) Section → Prop
  | .enter thread label => label.written check = true ∧
    FrameTimely (pool.shared.1.channelState hdl) pool.shared.2 pool.labels thread label
  | _ => True

instance [Fintype Caller] [DecidableEq Caller] (check : TextCheck) (hdl : ConnHandle)
    (pool : Pool (ChannelThread Caller) Section (World Bridge) Bool Fault) :
    (event : PoolEvent (ChannelThread Caller) Section) →
      Decidable (ChannelFramesTimely check hdl pool event)
  | .enter thread label =>
    inferInstanceAs (Decidable (label.written check = true ∧ FrameTimely _ _ _ thread label))
  | .start _ => .isTrue trivial
  | .surroundings => .isTrue trivial

/-- A copy of the table tells of every channel in it. -/
theorem ChannelState.Keyed.copied (keyed : state.Keyed) {id : ChannelId}
    (untold : (ServerMessage.channelChange (.advertise state.channels.values)).find id = none) :
    state.channels.lookup id = none := by
  rcases found : state.channels.lookup id with _ | channel
  · rfl
  have listed : channel ∈ state.channels.values := (Table.mem_values_iff _ _).mpr ⟨id, found⟩
  have told : id ∈ (ServerMessage.channelChange (.advertise state.channels.values)).map Prod.fst :=
    by
      rw [ServerMessage.channelChange, Change.puts_keys, List.map_map]
      exact List.mem_map.mpr ⟨channel, listed, keyed id channel found⟩
  exact absurd told ((Change.find_eq_none_iff _ id).mp untold)

theorem ChannelState.Keyed.eraseAll (keyed : state.Keyed) (channelIds : List ChannelId) :
    ChannelState.Keyed { state with channels := state.channels.eraseAll channelIds } := by
  intro id channel found
  rw [Table.lookup_eraseAll] at found
  split at found
  · cases found
  · exact keyed id channel found

section Progress

variable [DecidableEq Caller] {labels : ChannelThread Caller → Option Section}
  {thread : ChannelThread Caller} {label : Section} {following : Option Section}

/-- The sections of a login before the table is copied. -/
def Section.beforeCopy : Section → Bool
  | .sendServerInfo _ | .readChannels => true
  | _ => false

/-- The sections of a login until the copy is sent. -/
def Section.repliesToLogin : Section → Bool
  | .sendServerInfo _ | .readChannels | .sendChannels _ _ => true
  | _ => false

/-- How far the login is: the reply starts when the client is registered, and a
registered client has its copy or will get it. -/
structure LoginProgress (registered copied : Bool)
    (labels : ChannelThread Caller → Option Section) :
    Prop where
  replying : ∀ thread label, labels thread = some label → label.repliesToLogin = true →
    registered = true
  informed : registered = true → copied = true ∨
    ∃ thread label, labels thread = some label ∧ label.beforeCopy = true
  copying : copied = true → registered = true

/-- A section that neither comes before the copy nor leads into the reply. -/
theorem LoginProgress.step {registered copied : Bool}
    (progress : LoginProgress registered copied labels)
    (late : ∀ label, labels thread = some label → label.beforeCopy = false)
    (leads : ∀ next, following = some next → next.repliesToLogin = false) :
    LoginProgress registered copied (Function.update labels thread following) where
  replying other next found replies := by
    by_cases same : other = thread
    · rw [same, Function.update_self] at found
      rw [leads next found] at replies
      cases replies
    · rw [Function.update_of_ne same] at found
      exact progress.replying other next found replies
  informed isRegistered := by
    refine (progress.informed isRegistered).imp_right ?_
    rintro ⟨other, next, found, early⟩
    have different : other ≠ thread := by
      rintro rfl
      rw [late next found] at early
      cases early
    exact ⟨other, next, by rwa [Function.update_of_ne different], early⟩
  copying := progress.copying

/-- A registered client that will get its copy. -/
theorem LoginProgress.early {copied : Bool} (early : label.beforeCopy = true) :
    LoginProgress true copied (Function.update labels thread (some label)) where
  replying _ _ _ _ := rfl
  informed _ := .inr ⟨thread, label, Function.update_self .., early⟩
  copying _ := rfl

end Progress

section Invariant

variable [DecidableEq Caller] {labels : ChannelThread Caller → Option Section}
  {thread : ChannelThread Caller} {label : Section} {following : Option Section}
  {state : ChannelState} {copied : Bool}

/-- What holds between the channel table and the client's view at any time. -/
structure Converging (state : ChannelState) (copied : Bool)
    (labels : ChannelThread Caller → Option Section) : Prop where
  established : state.link = .established
  keyed : state.Keyed
  progress : LoginProgress state.registered copied labels
  detached : state.registered = false → ∀ id, state.view.lookup id = none
  agrees : (channelReplica state copied labels).Agrees none

/-- The frames under way after a section. -/
theorem channelReplica_update (state : ChannelState) (copied : Bool) :
    channelReplica state copied (Function.update labels thread following) =
      { channelReplica state copied labels with
        pending := Function.update (channelReplica state copied labels).pending thread
          (pendingChannels following) } := by
  unfold channelReplica
  congr 1
  exact Function.comp_update pendingChannels labels thread following

/-- A section that says nothing about channels. -/
theorem Converging.silent (converging : Converging state copied labels)
    (current : pendingChannels (labels thread) = [])
    (progress : LoginProgress state.registered copied (Function.update labels thread following)) :
    Converging state copied (Function.update labels thread following) where
  established := converging.established
  keyed := converging.keyed
  progress := progress
  detached := converging.detached
  agrees := by
    rw [channelReplica_update]
    exact converging.agrees.publish current fun _ _ => rfl

/-- A change of the table that the next section announces. -/
theorem Converging.publish (converging : Converging state copied labels)
    (current : pendingChannels (labels thread) = []) {table : Table ChannelId Channel}
    (same : ∀ id, (pendingChannels following).find id = none →
      table.lookup id = state.channels.lookup id)
    (keyed : ChannelState.Keyed { state with channels := table })
    (progress : LoginProgress state.registered copied (Function.update labels thread following)) :
    Converging { state with channels := table } copied
      (Function.update labels thread following) where
  established := converging.established
  keyed := keyed
  progress := progress
  detached := converging.detached
  agrees := by
    rw [channelReplica_update]
    exact converging.agrees.publish current same

/-- A frame that reaches the client. -/
theorem Converging.receive (converging : Converging state copied labels) {message : ServerMessage}
    (sends : pendingChannels (labels thread) = message.channelChange)
    (next : pendingChannels following = []) (registered : state.registered = true)
    (timely : (channelReplica state copied labels).Timely none thread)
    (progress : LoginProgress state.registered copied (Function.update labels thread following)) :
    Converging (state.receive message) copied (Function.update labels thread following) := by
  rw [ChannelState.receive, if_pos converging.established]
  refine ⟨converging.established, converging.keyed, progress, ?_, ?_⟩
  · intro unregistered
    rw [registered] at unregistered
    cases unregistered
  · rw [channelReplica_update, next]
    have view : (fun id => (message.applyTo state.view).lookup id) =
        ((channelReplica state copied labels).pending thread).apply
          (channelReplica state copied labels).view := by
      funext id
      change _ = (pendingChannels (labels thread)).apply _ id
      rw [sends]
      exact message.lookup_applyTo state.view id
    have delivered := converging.agrees.deliver timely
    rw [← view] at delivered
    exact delivered

/-- A broadcast, which may miss the client. -/
theorem Converging.receiveBroadcast (converging : Converging state copied labels)
    {message : ServerMessage} (sends : pendingChannels (labels thread) = message.channelChange)
    (timely : state.registered = true → (channelReplica state copied labels).Timely none thread)
    (progress : LoginProgress state.registered copied (Function.update labels thread none)) :
    Converging (state.receiveBroadcast message) copied (Function.update labels thread none) := by
  unfold ChannelState.receiveBroadcast
  split
  · next registered =>
    exact converging.receive sends rfl registered (timely registered) progress
  · next unregistered =>
    have detached := converging.detached (by simpa using unregistered)
    refine ⟨converging.established, converging.keyed, progress, fun _ => detached, ?_⟩
    refine Replica.agrees_of_blank ?_ detached
    exact Bool.eq_false_iff.mpr fun copied => unregistered (progress.copying copied)

/-- The login copies the table. -/
theorem Converging.copy (converging : Converging state copied labels)
    (current : pendingChannels (labels thread) = []) (registered : state.registered = true)
    (hdl : ConnHandle) :
    Converging state true
      (Function.update labels thread (some (.sendChannels hdl state.channels.values))) where
  established := converging.established
  keyed := converging.keyed
  progress := ⟨fun _ _ _ _ => registered, fun _ => .inl rfl, fun _ => registered⟩
  detached := converging.detached
  agrees := by
    rw [channelReplica_update]
    exact converging.agrees.copy current fun _ => converging.keyed.copied

end Invariant

end

/-!
## Interleavings of a login with channel calls

The sections of all calls keep `Converging`, so in every run whose frames are
timely the client's view ends up as the channel table. A login that sends a copy
after the copied channel was removed and withdrawn shows what happens otherwise.
-/

variable {Bridge Caller : Type} [DecidableEq Caller]

section Steps

variable {labels : ChannelThread Caller → Option Section} {thread : ChannelThread Caller}
  {label : Section} {following : Option Section} {hdl : ConnHandle} {before after : ChannelState}
  {copied : Bool}
variable {config : Config Bridge} {program : ServerProgram Bridge Unit}

/-- Every section keeps the invariant if the frame it sends is written and timely. -/
theorem Converging.enter {check : TextCheck} (converging : Converging before copied labels)
    (current : labels thread = some label) (written : label.written check = true)
    (timely : FrameTimely before copied labels thread label)
    (step : ChannelStep check hdl label before after following) :
    Converging after (label.recordCopy copied) (Function.update labels thread following) := by
  have silent : label.channelFrame = none → pendingChannels (labels thread) = [] := by
    intro frame
    rw [current, pendingChannels, Option.bind_some, frame]
    rfl
  have sends {message : ServerMessage} (frame : label.channelFrame = some message) :
      pendingChannels (labels thread) = message.channelChange := by
    rw [current, pendingChannels, Option.bind_some, frame]
    rfl
  have late (other : label.beforeCopy = false) :
      ∀ next, labels thread = some next → next.beforeCopy = false := by
    intro next found
    rw [current] at found
    cases found
    exact other
  have progress := converging.progress
  cases step with
  | register same keyed =>
    exact converging.publish (silent rfl) same (keyed converging.keyed)
      (progress.step (late rfl) (by rintro _ ⟨⟩; rfl))
  | announce channels =>
    exact converging.receiveBroadcast (sends rfl) (fun registered => timely fun _ => registered)
      (progress.step (late rfl) nofun)
  | erase channelIds =>
    refine converging.publish (silent rfl) (fun id other => ?_)
      (converging.keyed.eraseAll channelIds) (progress.step (late rfl) (by rintro _ ⟨⟩; rfl))
    have kept : id ∉ channelIds := by
      intro listed
      have found := (Change.find_drops channelIds id).symm.trans other
      rw [if_pos listed] at found
      cases found
    rw [Table.lookup_eraseAll, if_neg kept]
  | withdraw channelIds =>
    exact converging.receiveBroadcast (sends rfl) (fun registered => timely fun _ => registered)
      (progress.step (late rfl) nofun)
  | enroll =>
    have admitted : Converging { before with registered := true } copied
        (Function.update labels thread (some (.sendServerInfo hdl))) := by
      refine ⟨converging.established, converging.keyed, .early rfl, nofun, ?_⟩
      rw [channelReplica_update]
      exact converging.agrees.publish (silent rfl) fun _ _ => rfl
    exact admitted
  | refuse => exact converging.silent (silent rfl) (progress.step (late rfl) nofun)
  | inform =>
    have registered := progress.replying thread _ current rfl
    rw [if_neg (by simp [converging.established])]
    refine converging.silent (silent rfl) ?_
    rw [registered]
    exact .early rfl
  | read => exact converging.copy (silent rfl) (progress.replying thread _ current rfl) hdl
  | send channels =>
    exact converging.receive (sends rfl) rfl (progress.replying thread _ current rfl)
      (timely nofun) (progress.step (late rfl) (by rintro _ ⟨⟩; rfl))
  | readServices =>
    exact converging.silent (silent rfl) (progress.step (late rfl) (by rintro _ ⟨⟩; rfl))
  | sendServices => exact converging.silent (silent rfl) (progress.step (late rfl) nofun)
  | drop refused =>
    rw [refused] at written
    cases written

omit [DecidableEq Caller] in
/-- The first section of a call. -/
theorem ChannelCall.begins (call : ChannelCall config hdl thread program) :
    program.label? = none ∨ program.label? = some (.registerClient hdl) ∨
      program.label? = some .registerChannels ∨
        ∃ ids, program.label? = some (.eraseChannels ids) := by
  cases call with
  | login payload =>
    unfold handleLoginSections
    rcases payload.atKey "username" >>= Json.getString with _ | userName
    · exact .inl rfl
    rcases payload.atKey "userId" >>= Json.getString with _ | userId
    · exact .inl rfl
    · exact .inr (.inl rfl)
  | addChannels caller channels =>
    unfold addChannelsSections
    split
    · exact .inl rfl
    · exact .inr (.inr (.inl rfl))
  | removeChannels caller channelIds =>
    unfold removeChannelsSections
    split
    · exact .inl rfl
    · exact .inr (.inr (.inr ⟨channelIds, rfl⟩))

omit [DecidableEq Caller] in
theorem ChannelCall.follows (call : ChannelCall config hdl thread program) :
    program.Follows (SeenBy config.dump hdl) := by
  cases call with
  | login payload => exact handleLoginSections_follows hdl config payload
  | addChannels caller channels => exact (addChannelsSections_follows _ hdl channels).discard ()
  | removeChannels caller channelIds => exact removeChannelsSections_follows _ hdl channelIds

theorem Converging.start (converging : Converging before copied labels)
    (idle : labels thread = none) (call : ChannelCall config hdl thread program) :
    Converging before copied (Function.update labels thread program.label?) := by
  have current : pendingChannels (labels thread) = [] := by
    rw [idle]
    rfl
  have late : ∀ next, labels thread = some next → next.beforeCopy = false := by
    intro next found
    rw [idle] at found
    cases found
  have starts {first : Option Section}
      (leads : ∀ next, first = some next → next.repliesToLogin = false) :
      Converging before copied (Function.update labels thread first) :=
    converging.silent current (converging.progress.step late leads)
  rcases call.begins with first | first | first | ⟨ids, first⟩
  · rw [first]
    exact starts nofun
  · rw [first]
    exact starts (by rintro _ ⟨⟩; rfl)
  · rw [first]
    exact starts (by rintro _ ⟨⟩; rfl)
  · rw [first]
    exact starts (by rintro _ ⟨⟩; rfl)

end Steps

/-- The programs follow the steps, and the steps keep the invariant. -/
theorem channelCalls_followed (config : Config Bridge) (hdl : ConnHandle) :
    Pool.Followed copyRecorded (ChannelCall config hdl : ChannelThread Caller → _ → Prop)
      (fun _ _ => False) (fun _ => SeenBy config.dump hdl)
      (fun thread label shared labels => label.written config.dump = true ∧
        FrameTimely (shared.1.channelState hdl) shared.2 labels thread label)
      fun shared labels => Converging (shared.1.channelState hdl) shared.2 labels where
  follows _ _ call := call.follows
  starts converging idle call := converging.start idle call
  enters converging current guarded step := converging.enter current guarded.1 guarded.2 step
  surroundings _ acts := acts.elim

/-- Every run converges. -/
theorem converging_of_run {config : Config Bridge} {hdl : ConnHandle}
    {events : List (PoolEvent (ChannelThread Caller) Section)}
    {pool : Pool (ChannelThread Caller) Section (World Bridge) Bool Fault}
    (run : (channelCalls Caller config hdl).GuardedRun (ChannelFramesTimely config.dump hdl) events
      pool) :
    Converging (pool.shared.1.channelState hdl) pool.shared.2 pool.labels := by
  refine Pool.invariant_of_follows (channelCalls_followed config hdl) ?_ ?_ run
  · rintro shared ⟨established, keyed, unregistered, uninformed, uncopied⟩
    refine ⟨established, keyed, ⟨nofun, ?_, ?_⟩, fun _ => uninformed,
      Replica.agrees_of_blank uncopied uninformed⟩
    · rw [unregistered]
      nofun
    · rw [uncopied]
      nofun
  · intro pool thread label guarded _
    exact guarded

/-- Once all calls have finished, the view of a client that is logged in is the
channel table, provided that every frame could be written and was timely. -/
theorem channel_view_converges {config : Config Bridge} {hdl : ConnHandle}
    {events : List (PoolEvent (ChannelThread Caller) Section)}
    {pool : Pool (ChannelThread Caller) Section (World Bridge) Bool Fault}
    (run : (channelCalls Caller config hdl).GuardedRun (ChannelFramesTimely config.dump hdl) events
      pool)
    (finished : ∀ thread, pool.Idle thread) (loggedIn : hdl ∈ pool.shared.1.server.clients)
    (id : ChannelId) :
    (pool.shared.1.channelView hdl).lookup id = pool.shared.1.server.channels.lookup id := by
  have converging := converging_of_run run
  have copied : pool.shared.2 = true := by
    refine (converging.progress.informed (AList.lookup_isSome.mpr loggedIn)).resolve_right ?_
    rintro ⟨thread, label, found, _⟩
    rw [(finished thread).labels] at found
    cases found
  have settled (thread : ChannelThread Caller) : pendingChannels (pool.labels thread) = [] := by
    rw [(finished thread).labels]
    rfl
  exact congrFun (converging.agrees.settled copied settled) id

abbrev OneCallerPool : Type := Pool (ChannelThread Unit) Section (World Unit) Bool Fault

def beforeCalls : OneCallerPool where
  shared := (World.initial (), false)
  threads := fun _ => .done (.ok ())

/-- One channel was added, then a login has copied the table. -/
def copiedPool : OneCallerPool :=
  Pool.play copyRecorded .login 3
    ((Pool.play copyRecorded (.update ()) 2
      (beforeCalls.setThread (.update ())
        (addChannelsSections writesAll [⟨"/a", "cdr", "demo/msg/T", "", none⟩] >>=
          fun _ => pure ()))).setThread
          .login (handleLoginSections .accepting loginPayload ⟨1⟩))

/-- After that a caller removes the channel again. -/
def removingPool : OneCallerPool :=
  copiedPool.setThread (.update ()) (removeChannelsSections [1])

theorem removingPool_reached :
    Pool.Reached (channelCalls Unit .accepting ⟨1⟩) (ChannelFramesTimely writesAll ⟨1⟩)
      removingPool := by
  have started : Pool.Reached (channelCalls Unit .accepting ⟨1⟩) (ChannelFramesTimely writesAll ⟨1⟩)
      beforeCalls :=
    ⟨[], .initial ⟨⟨rfl, nofun, rfl, fun _ => rfl, rfl⟩, fun _ => ⟨_, rfl⟩⟩⟩
  have added :=
    (started.start trivial rfl (.addChannels () [⟨"/a", "cdr", "demo/msg/T", "", none⟩])).play
    (.update ()) 2 (by decide +kernel)
  have copied := (added.start trivial (by decide +kernel) (.login loginPayload)).play
    .login 3 (by decide +kernel)
  exact copied.start trivial (by decide +kernel) (.removeChannels () [1])

/-- The copy is sent between the removal and its announcement. -/
def settledPool : OneCallerPool :=
  Pool.play copyRecorded (.update ()) 1 (Pool.play copyRecorded .login 3
    (Pool.play copyRecorded (.update ()) 1 removingPool))

/-- The copy was out of date when it was sent. -/
theorem channel_view_converges_settled :
    ⟨1⟩ ∈ settledPool.shared.1.server.clients ∧ ∀ id,
      (settledPool.shared.1.channelView ⟨1⟩).lookup id =
        settledPool.shared.1.server.channels.lookup id := by
  have loggedIn : ⟨1⟩ ∈ settledPool.shared.1.server.clients := by decide +kernel
  have idle : ∀ thread, settledPool.isIdle thread = true := by decide +kernel
  obtain ⟨events, run⟩ := ((removingPool_reached.play (.update ()) 1 (by decide +kernel)).play
    .login 3 (by decide +kernel)).play (.update ()) 1 (by decide +kernel)
  exact ⟨loggedIn, channel_view_converges run (fun thread => Pool.idle_of_isIdle (idle thread))
    loggedIn⟩

/-- The copy is sent when the removed channel was withdrawn already. -/
def stalePool : OneCallerPool :=
  Pool.play copyRecorded .login 3 (Pool.play copyRecorded (.update ()) 2 removingPool)

/-- The client ends up with a channel that the server does not have. -/
theorem channel_view_stale :
    Pool.Reached (channelCalls Unit .accepting ⟨1⟩) (fun _ _ => True) stalePool ∧
      (∀ thread, stalePool.Idle thread) ∧ ⟨1⟩ ∈ stalePool.shared.1.server.clients ∧
      ((stalePool.shared.1.channelView ⟨1⟩).lookup 1).isSome = true ∧
      stalePool.shared.1.server.channels.lookup 1 = none := by
  have idle : ∀ thread, stalePool.isIdle thread = true := by decide +kernel
  refine ⟨?_, fun thread => Pool.idle_of_isIdle (idle thread), by decide +kernel,
    by decide +kernel, by decide +kernel⟩
  exact (removingPool_reached.unguarded.play (.update ()) 2 (by decide +kernel)).play
    .login 3 (by decide +kernel)

end CoBridge

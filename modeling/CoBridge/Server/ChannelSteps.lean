import CoBridge.Library.Change
import CoBridge.Server.LoginEffects
import CoBridge.Server.Sections
import CoBridge.Library.Schedule

/-!
# A client's view of the channels

A client learns the channels from `advertise` and `unadvertise` frames, in the
order they were enqueued on its connection. `ChannelState` is what its view
depends on, and this module says what enqueueing frames does to it.
-/

namespace CoBridge

open Library Table

section

variable {Bridge Value : Type}

/-- What a client does to its list of channels on a frame. -/
def ServerMessage.applyTo (view : Table ChannelId Channel) : ServerMessage → Table ChannelId Channel
  | .advertise channels => view.setAll (channels.map fun channel => (channel.id, channel))
  | .unadvertise channelIds => view.eraseAll channelIds
  | _ => view

/-- The channels a client knows from the frames enqueued on its connection. -/
def World.channelView (world : World Bridge) (hdl : ConnHandle) : Table ChannelId Channel :=
  (world.sentTo hdl).foldl ServerMessage.applyTo ∅

/-- The channels a frame tells of, by id; `none` for one that is withdrawn. -/
def ServerMessage.channelChange : ServerMessage → Change ChannelId (Option Channel)
  | .advertise channels => .puts (channels.map fun channel => (channel.id, channel))
  | .unadvertise channelIds => .drops channelIds
  | _ => []

/-- A frame changes the view as its change says. -/
theorem ServerMessage.lookup_applyTo (message : ServerMessage) (view : Table ChannelId Channel)
    (id : ChannelId) :
    (message.applyTo view).lookup id =
      message.channelChange.apply (fun id => view.lookup id) id := by
  cases message with
  | advertise channels => exact lookup_setAll _ view id
  | unadvertise channelIds => exact lookup_eraseAll_eq_apply channelIds view id
  | _ => rfl

/-- What one client's view of the channels depends on. -/
structure ChannelState where
  channels : Table ChannelId Channel
  registered : Bool
  link : Link
  view : Table ChannelId Channel

def World.channelState (world : World Bridge) (hdl : ConnHandle) : ChannelState where
  channels := world.server.channels
  registered := (world.server.clients.lookup hdl).isSome
  link := world.link hdl
  view := world.channelView hdl

namespace ChannelState

/-- A frame enqueued on the client's connection. -/
def receive (message : ServerMessage) (state : ChannelState) : ChannelState :=
  if state.link = .established then { state with view := message.applyTo state.view } else state

/-- A frame enqueued for every registered client. -/
def receiveBroadcast (message : ServerMessage) (state : ChannelState) : ChannelState :=
  if state.registered then state.receive message else state

/-- Every channel is stored under its own id. -/
def Keyed (state : ChannelState) : Prop :=
  ∀ id channel, state.channels.lookup id = some channel → channel.id = id

end ChannelState

/-- The frame about channels that a section sends. -/
def Section.channelFrame : Section → Option ServerMessage
  | .announceChannels channels => some (.advertise channels)
  | .announceRemoval channelIds => some (.unadvertise channelIds)
  | .sendChannels _ channels => some (.advertise channels)
  | _ => none

/-- The section writes to all registered clients. -/
def Section.isBroadcast : Section → Bool
  | .announceChannels _ | .announceRemoval _ => true
  | _ => false

/-- What the section sends is enqueued on the connection. -/
def Section.Reaches (state : ChannelState) (label : Section) : Prop :=
  label.isBroadcast = true → state.registered = true

instance (state : ChannelState) (label : Section) : Decidable (label.Reaches state) :=
  inferInstanceAs (Decidable (_ → _))

/-- The message that the section sends about channels can be written. -/
def Section.written (check : TextCheck) : Section → Bool
  | .announceChannels channels | .sendChannels _ channels => (dumpChannels check channels).isOk
  | _ => true

section Frames

variable {hdl : ConnHandle}
variable (world : World Bridge)

theorem World.channelState_enqueue (message : ServerMessage) :
    (world.enqueue hdl message).channelState hdl = (world.channelState hdl).receive message := by
  have sent : (world.enqueue hdl message).channelView hdl =
      if world.link hdl = .established then message.applyTo (world.channelView hdl)
      else world.channelView hdl := by
    unfold World.channelView
    rw [World.sentTo_enqueue, List.foldl_append]
    by_cases established : world.link hdl = .established <;> simp [established]
  unfold World.channelState ChannelState.receive
  rw [sent, World.enqueue_server, World.enqueue_link]
  split <;> rfl

theorem World.channelState_enqueue_of_ne {other : ConnHandle} (different : other ≠ hdl)
    (message : ServerMessage) :
    (world.enqueue other message).channelState hdl = world.channelState hdl := by
  have sent : (world.enqueue other message).channelView hdl = world.channelView hdl := by
    unfold World.channelView
    rw [World.sentTo_enqueue, if_neg fun reached => different reached.1, List.append_nil]
  unfold World.channelState
  rw [sent, World.enqueue_server, World.enqueue_link]

/-- A frame to all registered clients. -/
theorem World.channelState_enqueueAll (message : ServerMessage) :
    (world.enqueueAll world.server.clients.keys message).channelState hdl =
      (world.channelState hdl).receiveBroadcast message := by
  have sent : (world.enqueueAll world.server.clients.keys message).channelView hdl =
      if hdl ∈ world.server.clients.keys ∧ world.link hdl = .established then
        message.applyTo (world.channelView hdl)
      else world.channelView hdl := by
    unfold World.channelView
    rw [World.sentTo_enqueueAll (AList.keys_nodup _), List.foldl_append]
    split <;> rfl
  unfold World.channelState ChannelState.receiveBroadcast ChannelState.receive
  rw [sent, World.enqueueAll_server, World.enqueueAll_link]
  rcases found : world.server.clients.lookup hdl with _ | client
  · have unregistered : hdl ∉ world.server.clients.keys := AList.lookup_eq_none.mp found
    simp [unregistered]
  · have registered : hdl ∈ world.server.clients.keys := mem_of_lookup found
    by_cases established : world.link hdl = .established <;> simp [registered, established]

/-- A frame that is not about channels leaves the view alone. -/
theorem conSend_channelState (hdl other : ConnHandle) {message : ServerMessage}
    (unrelated : ∀ view, message.applyTo view = view) :
    (conSend other message : ServerAction Bridge Unit).Meets
      (.frame fun world => world.channelState hdl) := by
  intro world
  change (world.enqueue other message).channelState hdl = world.channelState hdl
  by_cases same : other = hdl
  · subst same
    rw [World.channelState_enqueue, ChannelState.receive, unrelated, ite_self]
  · exact world.channelState_enqueue_of_ne same message

theorem sendServerInfo_channelState (config : Config Bridge) (other : ConnHandle) :
    (sendServerInfo config other).Meets (.frame fun world => world.channelState hdl) :=
  (getConFromHdl_meets _ other).bind fun _ => conSend_channelState hdl other fun _ => rfl

theorem kickClient_channelState (userId userName : String) (other : ConnHandle) :
    (kickClient userId userName other : ServerAction Bridge Unit).Meets
      (.frame fun world => world.channelState hdl) := by
  apply (getConFromHdl_meets _ other).bind
  intro _
  apply (conSend_channelState hdl other fun _ => rfl).bind
  intro _ world
  have registered :
      ((world.server.modifyClient other ClientInfo.logOut).clients.lookup hdl).isSome =
      (world.server.clients.lookup hdl).isSome := by
    rw [Bool.eq_iff_iff, AList.lookup_isSome, AList.lookup_isSome]
    exact mem_modify _ _ _ _
  exact congrArg (fun found => { world.channelState hdl with registered := found }) registered

theorem kickClients_channelState (userId userName : String) :
    (kickClients userId userName : ServerAction Bridge Unit).Meets
      (.frame fun world => world.channelState hdl) :=
  (Action.meets_gets _).bind fun _ =>
    Action.meets_forEach fun other _ => kickClient_channelState userId userName other

theorem registerClient_channelState (client : ClientInfo) (world : World Bridge) :
    World.channelState { world with server := world.server.registerClient hdl client } hdl =
      { world.channelState hdl with registered := true } := by
  have registered :
      ((world.server.registerClient hdl client).clients.lookup hdl).isSome = true := by
    rw [AList.lookup_isSome]
    exact (mem_emplace _ _ _ _).mpr (.inl rfl)
  exact congrArg (fun found => { world.channelState hdl with registered := found }) registered

theorem announceRemoval_channelState (channelIds : List ChannelId) (world : World Bridge) :
    (announceRemoval channelIds world).2.channelState hdl =
      (world.channelState hdl).receiveBroadcast (.unadvertise channelIds) := by
  unfold announceRemoval
  rw [modifyServer_bind_apply, broadcast_apply, World.channelState_enqueueAll]
  have registered : ((world.server.dropChannels channelIds).clients.lookup hdl).isSome =
      (world.server.clients.lookup hdl).isSome := by
    simp [Server.dropChannels]
  exact congrArg (fun found => ChannelState.receiveBroadcast (.unadvertise channelIds)
    { world.channelState hdl with registered := found }) registered

end Frames

end

/-!
## Logins and channel calls as steps on one client's view

The sections of a login, of `addChannels` and of `removeChannels`, reduced to what
they do to the channel table, to the view of one client and to the frame that is
sent next. The programs follow these steps.
-/

open Action

variable {Bridge : Type}

/-- What the sections of a login and of the channel calls do, as far as one client's
view is concerned, and which section comes next. -/
inductive ChannelStep (check : TextCheck) (hdl : ConnHandle) :
    Section → ChannelState → ChannelState → Option Section → Prop where
  | register {state : ChannelState} {channels : List Channel} {table : Table ChannelId Channel}
      (same : ∀ id, (ServerMessage.channelChange (.advertise channels)).find id = none →
        table.lookup id = state.channels.lookup id)
      (keyed : state.Keyed → ChannelState.Keyed { state with channels := table }) :
      ChannelStep check hdl .registerChannels state { state with channels := table }
        (some (.announceChannels channels))
  | announce (channels : List Channel) (state : ChannelState) :
      ChannelStep check hdl (.announceChannels channels) state
        (state.receiveBroadcast (.advertise channels)) none
  | erase (channelIds : List ChannelId) (state : ChannelState) :
      ChannelStep check hdl (.eraseChannels channelIds) state
        { state with channels := state.channels.eraseAll channelIds }
        (some (.announceRemoval channelIds))
  | withdraw (channelIds : List ChannelId) (state : ChannelState) :
      ChannelStep check hdl (.announceRemoval channelIds) state
        (state.receiveBroadcast (.unadvertise channelIds)) none
  | enroll (state : ChannelState) :
      ChannelStep check hdl (.registerClient hdl) state { state with registered := true }
        (some (.sendServerInfo hdl))
  | refuse (state : ChannelState) : ChannelStep check hdl (.registerClient hdl) state state none
  | inform (state : ChannelState) :
      ChannelStep check hdl (.sendServerInfo hdl) state state
        (if state.link = .gone then none else some .readChannels)
  | read (state : ChannelState) :
      ChannelStep check hdl .readChannels state state
        (some (.sendChannels hdl state.channels.values))
  | send (channels : List Channel) (state : ChannelState) :
      ChannelStep check hdl (.sendChannels hdl channels) state (state.receive (.advertise channels))
        (some .readServices)
  | readServices (state : ChannelState) :
      ChannelStep check hdl .readServices state state (some (.sendServices hdl))
  | sendServices (state : ChannelState) :
      ChannelStep check hdl (.sendServices hdl) state state none
  | drop {label : Section} (refused : label.written check = false) (state : ChannelState)
      (following : Option Section) : ChannelStep check hdl label state state following

/-- Registering channels changes the table only at the ids it hands out. -/
theorem Server.registerChannels_lookup (channels : List ChannelWithoutId) (server : Server)
    {id : ChannelId}
    (other : (ServerMessage.channelChange
      (.advertise (server.registerChannels channels).1)).find id = none) :
    (server.registerChannels channels).2.channels.lookup id = server.channels.lookup id := by
  induction channels generalizing server with
  | nil => rfl
  | cons channel rest ih =>
    have unmentioned := (Change.find_cons _ _ id).symm.trans other
    rw [Option.or_eq_none_iff] at unmentioned
    obtain ⟨later, here⟩ := unmentioned
    refine (ih _ later).trans ?_
    have different : id ≠ server.nextChannelId + 1 := by
      rintro rfl
      simp at here
    simp [Table.lookup_emplace, different]

/-- A new channel is stored under its id; one that meets an entry is not stored. -/
theorem Server.registerChannels_keyed (channels : List ChannelWithoutId) {server : Server}
    (keyed : ∀ id channel, server.channels.lookup id = some channel → channel.id = id)
    (id : ChannelId) (channel : Channel)
    (found : (server.registerChannels channels).2.channels.lookup id = some channel) :
    channel.id = id := by
  induction channels generalizing server with
  | nil => exact keyed id channel found
  | cons new rest ih =>
    refine ih (fun id stored present => ?_) found
    rw [Table.lookup_emplace] at present
    split at present
    · next same =>
      subst same
      rcases existing : server.channels.lookup (server.nextChannelId + 1) with _ | old
      · rw [existing] at present
        cases present
        rfl
      · rw [existing] at present
        cases present
        exact keyed _ _ existing
    · exact keyed id stored present

section Follows

variable (check : TextCheck) (hdl : ConnHandle)

/-- The steps of the code, seen from the client. -/
def SeenBy (label : Section) (before after : World Bridge) (next : Option Section) : Prop :=
  ChannelStep check hdl label (before.channelState hdl) (after.channelState hdl) next

variable {check hdl} in
/-- A section that the client's view does not notice. -/
theorem seenBy_of_same {label : Section} {before after : World Bridge} {next : Option Section}
    (same : after.channelState hdl = before.channelState hdl)
    (step : ChannelStep check hdl label (before.channelState hdl) (before.channelState hdl) next) :
    SeenBy check hdl label before after next :=
  Eq.mpr (congrArg (fun state => ChannelStep check hdl label _ state next) same) step

/-- A call of `addChannels`, as one client sees it, takes the steps of the view. -/
theorem addChannelsSections_follows (channels : List ChannelWithoutId) :
    (addChannelsSections check channels : ServerProgram Bridge _).Follows (SeenBy check hdl) := by
  unfold addChannelsSections
  split
  · exact Program.follows_pure _
  apply Program.follows_perform_bind
  · intro world
    obtain ⟨nextChannelId, table, registered⟩ := world.server.registerChannels_eq channels
    have stored : (world.server.registerChannels channels).2.channels = table := by rw [registered]
    change ChannelStep check hdl _ _ (World.channelState { world with
      server := (world.server.registerChannels channels).2 } hdl) _
    rw [registered]
    subst stored
    exact .register (fun id => world.server.registerChannels_lookup channels)
      fun keyed id channel => Server.registerChannels_keyed channels keyed id channel
  intro newChannels
  apply Program.follows_perform
  intro world
  change ChannelStep check hdl _ _ (World.channelState (announceChannels check newChannels world).2
    hdl) _
  unfold announceChannels
  cases written : dumpChannels check newChannels with
  | error exception =>
    exact .drop (by rw [Section.written, written]; rfl) _ _
  | ok _ =>
    rw [Except.mapError, ofExcept_ok_bind_apply, bind_ok (broadcast_apply _ _)]
    change ChannelStep check hdl _ _ (World.channelState (world.enqueueAll _ _) hdl) _
    rw [World.channelState_enqueueAll]
    exact .announce newChannels _

theorem removeChannelsSections_follows (channelIds : List ChannelId) :
    (removeChannelsSections channelIds : ServerProgram Bridge _).Follows (SeenBy check hdl) := by
  unfold removeChannelsSections
  split
  · exact Program.follows_pure _
  apply Program.follows_perform_bind
  · intro world
    exact .erase channelIds (world.channelState hdl)
  intro _
  apply Program.follows_perform
  intro world
  unfold SeenBy
  rw [announceRemoval_channelState]
  exact .withdraw channelIds _

theorem sendServerInfo_returns (config : Config Bridge) (world : World Bridge) :
    (sendServerInfo config hdl world).1 =
      if world.link hdl = .gone then .error (.raised (.std "Bad Connection")) else .ok () := by
  unfold sendServerInfo
  rw [bind_apply, getConFromHdl_apply]
  by_cases gone : world.link hdl = .gone <;> simp [gone]

theorem loginReplySections_follows (config : Config Bridge) :
    (loginReplySections config hdl).Follows (SeenBy config.dump hdl) := by
  apply Program.follows_perform_bind
  · intro world
    apply seenBy_of_same (sendServerInfo_channelState config hdl world)
    have informs : ChannelStep config.dump hdl _ _ _ _ := .inform (world.channelState hdl)
    rw [sendServerInfo_returns]
    change ChannelStep config.dump hdl _ _ _ (if world.link hdl = .gone then none else _) at informs
    split
    · next gone => rwa [if_pos gone] at informs
    · next linked => rwa [if_neg linked] at informs
  intro _
  apply Program.follows_perform_bind
  · intro world
    exact .read (world.channelState hdl)
  intro channels
  apply Program.follows_perform_bind
  · intro world
    rw [sendJson_returns]
    unfold SeenBy
    cases written : dumpChannels config.dump channels with
    | error exception =>
      rw [sendJson_error]
      exact .drop (by rw [Section.written, written]; rfl) _ _
    | ok _ =>
      rw [sendJson_apply, World.channelState_enqueue]
      exact .send channels _
  intro _
  apply Program.follows_perform_bind
  · intro world
    exact .readServices (world.channelState hdl)
  intro services
  apply Program.follows_perform
  intro world
  have unrelated (view : Table ChannelId Channel) :
      (ServerMessage.advertiseServices services).applyTo view = view := rfl
  exact seenBy_of_same (sendJson_meets hdl _ (conSend_channelState hdl hdl unrelated) _ world)
    (.sendServices _)

/-- A login, as its client sees it, takes the steps of the view. -/
theorem handleLoginSections_follows (config : Config Bridge) (payload : Json) :
    (handleLoginSections config payload hdl).Follows (SeenBy config.dump hdl) := by
  apply Program.follows_ofExcept_bind
  intro userName
  apply Program.follows_ofExcept_bind
  intro userId
  apply Program.follows_perform_bind
  · intro world
    unfold admitClient remoteEndpointString
    rw [gets_bind_apply, bind_apply]
    have kicked : (kickClients userId userName world).2.channelState hdl =
        world.channelState hdl := kickClients_channelState userId userName world
    revert kicked
    rcases kickClients userId userName world with ⟨fault | _, reached⟩
    · exact fun kicked => seenBy_of_same kicked (.refuse _)
    · intro kicked
      change ChannelStep config.dump hdl _ _ (World.channelState { reached with
        server := reached.server.registerClient hdl _ } hdl) _
      rw [registerClient_channelState, kicked]
      exact .enroll _
  · intro _
    exact loginReplySections_follows hdl config

end Follows

end CoBridge

import CoBridge.Server.OperationEffects
import CoBridge.Library.Transition

/-!
# What requests do to the connection graph subscriptions

The view of a world that the reference count is about: the clients with their
flags, the count, and the last argument the bridge was given. Each request is
described by the view it leaves.
-/

namespace CoBridge

open Library Action

section

variable {Bridge : Type}

/-- The argument of a call to the connection graph handler. -/
def HandlerCall.graphArgument? : HandlerCall → Option Bool
  | .subscribeConnectionGraph argument => some argument
  | _ => none

/-- The last argument the connection graph handler was called with. -/
def lastGraphArgument (calls : List HandlerCall) : Option Bool :=
  (calls.filterMap HandlerCall.graphArgument?).getLast?

theorem lastGraphArgument_append (calls : List HandlerCall) (call : HandlerCall) :
    lastGraphArgument (calls ++ [call]) = call.graphArgument?.or (lastGraphArgument calls) := by
  unfold lastGraphArgument
  rcases found : call.graphArgument? with _ | argument
  · simp [found]
  · simp [found]

/-- What the count is about: the clients, the count and the last argument. -/
def World.graphView (world : World Bridge) :
    Table ConnHandle ClientInfo × Int × Option Bool :=
  (world.server.clients, world.server.subscriptionCount, lastGraphArgument world.calls)

/-- The clients that are flagged as subscribed. -/
def Server.flaggedCount (server : Server) : Nat :=
  server.clients.count ClientInfo.subscribedToConnectionGraph

theorem Server.graphSubscribers_eq_nil (server : Server) :
    server.graphSubscribers = [] ↔ server.flaggedCount = 0 := by
  simp [Server.graphSubscribers, Server.flaggedCount, Table.count]

/-- Handlers behave: no call is undefined behaviour, and the connection graph
handler does not throw when nobody is subscribed. -/
structure HandlersReturn (config : Config Bridge) : Prop where
  defined : HandlersDefined config
  graph : ∀ subscribe (world : World Bridge), world.server.graphSubscribers = [] →
    (callHandler config (.subscribeConnectionGraph subscribe) world).1 = .ok ()

/-- A call of another handler does not concern the count. -/
theorem callHandler_graphView (config : Config Bridge) {call : HandlerCall}
    (other : call.graphArgument? = none) :
    (callHandler config call).Meets (.frame World.graphView) := by
  intro world
  have clients := callHandler_frame Server.clients (fun _ => rfl) config call world
  have count := callHandler_frame Server.subscriptionCount (fun _ => rfl) config call world
  have argument : lastGraphArgument (callHandler config call world).2.calls =
      lastGraphArgument world.calls := by
    rcases registered : config.handlers.resolve call with _ | handler
    · rw [callHandler_of_none registered]
    · rw [callHandler_calls registered, lastGraphArgument_append, other, Option.none_or]
  exact Prod.ext clients (Prod.ext count argument)

section Steps

variable {config : Config Bridge}
variable (world : World Bridge)

theorem HandlersReturn.resolved (handlers : HandlersReturn config) (world : World Bridge)
    (subscribe : Bool) :
    ∃ handler, config.handlers.resolve (.subscribeConnectionGraph subscribe) = some handler := by
  have accepted := handlers.graph subscribe { world with server := .initial } rfl
  rcases registered : config.handlers.resolve (.subscribeConnectionGraph subscribe) with _ | handler
  · rw [callHandler_of_none registered] at accepted
    cases accepted
  · exact ⟨handler, rfl⟩

/-- The view after a call of the connection graph handler. -/
theorem callHandler_graph_graphView (handlers : HandlersReturn config) (subscribe : Bool)
    (world : World Bridge) :
    (callHandler config (.subscribeConnectionGraph subscribe) world).2.graphView =
      (world.server.clients, world.server.subscriptionCount, some subscribe) := by
  obtain ⟨handler, registered⟩ := handlers.resolved world subscribe
  have clients := callHandler_frame Server.clients (fun _ => rfl) config
    (.subscribeConnectionGraph subscribe) world
  have count := callHandler_frame Server.subscriptionCount (fun _ => rfl) config
    (.subscribeConnectionGraph subscribe) world
  refine Prod.ext clients (Prod.ext count ?_)
  change lastGraphArgument (callHandler config _ world).2.calls = some subscribe
  rw [callHandler_calls registered, lastGraphArgument_append]
  rfl

@[simp] theorem World.enqueue_graphView (hdl : ConnHandle) (message : ServerMessage) :
    (world.enqueue hdl message).graphView = world.graphView := by
  simp [World.graphView]

/-- The only subscriber is announced, flagged and counted. -/
theorem handleSubscribeConnectionGraph_sole (handlers : HandlersReturn config) {hdl : ConnHandle}
    {world : World Bridge} (registered : hdl ∈ world.server.clients)
    (uncounted : world.server.subscriptionCount = 0)
    (nobody : world.server.graphSubscribers = []) :
    (handleSubscribeConnectionGraph config hdl world).1 = .ok () ∧
      (handleSubscribeConnectionGraph config hdl world).2.graphView =
        (world.server.clients.modify hdl (ClientInfo.setSubscribedToConnectionGraph true), 1,
          some true) := by
  let counted : World Bridge := { world with server := world.server.addToSubscriptionCount 1 }
  have accepted := handlers.graph true counted nobody
  have view := callHandler_graph_graphView handlers true counted
  have clients : (callHandler config (.subscribeConnectionGraph true) counted).2.server.clients =
      world.server.clients := congrArg (·.1) view
  have announced : announceConnectionGraph config hdl
      (world.server.addToSubscriptionCount 1).subscriptionCount counted =
        (.ok (), { (callHandler config (.subscribeConnectionGraph true) counted).2 with
          server := (callHandler config (.subscribeConnectionGraph true)
            counted).2.server.modifyClient hdl
              (ClientInfo.setSubscribedToConnectionGraph true) }) := by
    unfold announceConnectionGraph
    rw [if_pos (by simp [Server.addToSubscriptionCount, uncounted]),
      bind_ok (Prod.ext accepted rfl), updateClient_apply, clients, if_pos registered]
  unfold handleSubscribeConnectionGraph
  rw [modifyServer_bind_apply, gets_bind_apply, bind_ok announced,
    sendConnectionGraph_apply]
  refine ⟨rfl, ?_⟩
  rw [World.enqueue_graphView]
  have count : (callHandler config (.subscribeConnectionGraph true)
      counted).2.server.subscriptionCount = 1 := by
    have same : _ = world.server.subscriptionCount + 1 := congrArg (·.2.1) view
    rwa [uncounted] at same
  exact Prod.ext (congrArg (Table.modify hdl _) clients) (Prod.ext count (congrArg (·.2.2) view))

/-- A flagged client that unsubscribes is counted out; the last one is announced. -/
theorem handleUnsubscribeConnectionGraph_flagged (handlers : HandlersReturn config)
    {hdl : ConnHandle} {client : ClientInfo} {world : World Bridge}
    (found : world.server.clients.lookup hdl = some client)
    (flagged : client.subscribedToConnectionGraph = true)
    (last : world.server.subscriptionCount = 1 → (world.server.modifyClient hdl
      (ClientInfo.setSubscribedToConnectionGraph false)).graphSubscribers = []) :
    (handleUnsubscribeConnectionGraph config hdl world).1 = .ok () ∧
      (handleUnsubscribeConnectionGraph config hdl world).2.graphView =
        (world.server.clients.modify hdl (ClientInfo.setSubscribedToConnectionGraph false),
          world.server.subscriptionCount - 1,
          if world.server.subscriptionCount = 1 then some false
          else lastGraphArgument world.calls) := by
  have looked : clientAt hdl world = (.ok client, world) := by rw [clientAt_apply, found]
  unfold handleUnsubscribeConnectionGraph
  rw [bind_ok looked, if_pos flagged, modifyServer_bind_apply]
  unfold withdrawConnectionGraph
  rw [modifyServer_bind_apply, gets_bind_apply]
  have zero_iff : world.server.subscriptionCount + -1 = 0 ↔
      world.server.subscriptionCount = 1 := by omega
  split
  · next zero =>
    have only := zero_iff.mp zero
    rw [if_pos only]
    refine ⟨handlers.graph false _ (last only), ?_⟩
    rw [callHandler_graph_graphView handlers]
    rfl
  · next nonzero =>
    rw [if_neg fun only => nonzero (zero_iff.mpr only)]
    exact ⟨rfl, rfl⟩

/-- The release after a disconnect is counted out; the last one is announced. -/
theorem releaseConnectionGraph_graphView (handlers : HandlersReturn config)
    (world : World Bridge) :
    (releaseConnectionGraph config world).2.graphView =
      (world.server.clients, world.server.subscriptionCount - 1,
        if world.server.subscriptionCount = 1 then some false
        else lastGraphArgument world.calls) := by
  obtain ⟨handler, registered⟩ := handlers.resolved world false
  have isSome : config.handlers.subscribeConnectionGraphHandler.isSome := by
    have resolves := Option.isSome_of_eq_some registered
    simpa [ServerHandlers.resolve] using resolves
  unfold releaseConnectionGraph
  rw [modifyServer_bind_apply, gets_bind_apply]
  have zero_iff : world.server.subscriptionCount + -1 = 0 ↔
      world.server.subscriptionCount = 1 := by omega
  split
  · next zero =>
    rw [if_pos (zero_iff.mp zero.1)]
    have view := callHandler_graph_graphView handlers false
      { world with server := world.server.addToSubscriptionCount (-1) }
    unfold callHandlerLogged
    rw [catchAll_apply]
    revert view
    rcases callHandler config _ _ with ⟨(exception | _) | value, reached⟩
    · exact id
    · exact id
    · exact id
  · next nonzero =>
    rw [if_neg fun only => nonzero ⟨zero_iff.mpr only, isSome⟩]
    rfl

end Steps

end

/-!
## The connection graph reference count

Runs of logins, connection graph requests and disconnects. The count, the flags
of the clients and the last argument given to the bridge agree as long as a
subscription is requested only by a registered client while nobody else is
subscribed: a second subscriber is counted without its flag being set, and a
connection that is not registered is counted before it is found missing.
-/

open Table

variable {Bridge : Type}

/-- The requests that concern the connection graph, and changes of a connection. -/
inductive GraphEvent where
  | login (payload : Json) (hdl : ConnHandle)
  | subscribe (hdl : ConnHandle)
  | unsubscribe (hdl : ConnHandle)
  | closed (hdl : ConnHandle)
  | transport (hdl : ConnHandle) (link : Link)

/-- A world with the connections whose subscription was granted and neither
withdrawn nor ended by a disconnect. -/
structure GraphState (Bridge : Type) where
  world : World Bridge
  granted : List ConnHandle

def graphStep (config : Config Bridge) (state : GraphState Bridge) :
    GraphEvent → GraphState Bridge
  | .login payload hdl =>
    { state with world := (handleLogin config payload hdl state.world).2 }
  | .subscribe hdl =>
    let result := handleSubscribeConnectionGraph config hdl state.world
    ⟨result.2, if result.1.isOk then hdl :: state.granted else state.granted⟩
  | .unsubscribe hdl =>
    let result := handleUnsubscribeConnectionGraph config hdl state.world
    ⟨result.2, if result.1.isOk then state.granted.filter (· ≠ hdl) else state.granted⟩
  | .closed hdl =>
    ⟨(handleConnectionClosed config hdl state.world).2, state.granted.filter (· ≠ hdl)⟩
  | .transport hdl link => { state with world := state.world.setLink hdl link }

/-- Runs from a server that was just constructed, over any bridge and connections. -/
def graphSystem (config : Config Bridge) : TransitionSystem (GraphState Bridge) GraphEvent where
  Initial state := state.world.server = .initial ∧ state.world.calls = [] ∧ state.granted = []
  Step state event next := next = graphStep config state event

/-- The count, the flags and the handler's last argument agree. -/
structure GraphCounted (state : GraphState Bridge) : Prop where
  count : state.world.server.subscriptionCount = state.world.server.flaggedCount
  granted : ∀ hdl ∈ state.granted, ∃ client, state.world.server.clients.lookup hdl = some client ∧
    client.subscribedToConnectionGraph = true
  argument : lastGraphArgument state.world.calls = some true ↔ 0 < state.world.server.flaggedCount

/-- A subscription is requested by a registered client while nobody is subscribed. -/
def SoleSubscriber (state : GraphState Bridge) : GraphEvent → Prop
  | .subscribe hdl =>
    hdl ∈ state.world.server.clients ∧ state.world.server.subscriptionCount = 0
  | _ => True

/-- Agreement depends on the view only, for any part of the granted connections. -/
theorem GraphCounted.of_view {state next : GraphState Bridge} (counted : GraphCounted state)
    (view : next.world.graphView = state.world.graphView) (granted : next.granted ⊆ state.granted) :
    GraphCounted next := by
  have clients : next.world.server.clients = state.world.server.clients := congrArg (·.1) view
  have count : next.world.server.subscriptionCount = state.world.server.subscriptionCount :=
    congrArg (·.2.1) view
  have argument : lastGraphArgument next.world.calls = lastGraphArgument state.world.calls :=
    congrArg (·.2.2) view
  constructor
  · rw [count, counted.count, Server.flaggedCount, Server.flaggedCount, clients]
  · intro hdl member
    rw [clients]
    exact counted.granted hdl (granted member)
  · rw [argument, counted.argument, Server.flaggedCount, Server.flaggedCount, clients]

section Steps

variable {config : Config Bridge}
variable {state : GraphState Bridge} {clients : Table ConnHandle ClientInfo}

theorem GraphCounted.of_graphView {count : Int} {argument : Option Bool}
    (view : state.world.graphView = (clients, count, argument))
    (counts : count = clients.count ClientInfo.subscribedToConnectionGraph)
    (granted : ∀ hdl ∈ state.granted, ∃ client, clients.lookup hdl = some client ∧
      client.subscribedToConnectionGraph = true)
    (argues : argument = some true ↔ 0 < clients.count ClientInfo.subscribedToConnectionGraph) :
    GraphCounted state := by
  obtain ⟨rfl, rest⟩ := Prod.mk.inj view
  obtain ⟨rfl, rfl⟩ := Prod.mk.inj rest
  exact ⟨counts, granted, argues⟩

/-- The flags other than one client's, and its own. -/
theorem flaggedCount_eq {server : Server} {hdl : ConnHandle} {client : ClientInfo}
    (found : server.clients.lookup hdl = some client) :
    server.flaggedCount = (if client.subscribedToConnectionGraph then 1 else 0) +
      Table.count ClientInfo.subscribedToConnectionGraph (server.clients.erase hdl) := by
  unfold Server.flaggedCount
  rw [count_eq_erase _ hdl, found, Option.any_some]

theorem count_setFlag {server : Server} {hdl : ConnHandle} {client : ClientInfo} (flag : Bool)
    (found : server.clients.lookup hdl = some client) :
    (server.clients.modify hdl (ClientInfo.setSubscribedToConnectionGraph flag)).count
        ClientInfo.subscribedToConnectionGraph =
      (if flag then 1 else 0) +
        Table.count ClientInfo.subscribedToConnectionGraph (server.clients.erase hdl) := by
  rw [count_modify, found, Option.map_some, Option.any_some]
  rfl

/-- A granted subscription of another connection outlives a change of one record. -/
theorem granted_of_lookup {granted : List ConnHandle} {after : Table ConnHandle ClientInfo}
    (flagged : ∀ hdl ∈ granted, ∃ client, clients.lookup hdl = some client ∧
      client.subscribedToConnectionGraph = true)
    (kept : ∀ hdl ∈ granted, ∀ client, clients.lookup hdl = some client →
      ∃ next, after.lookup hdl = some next ∧
        next.subscribedToConnectionGraph = client.subscribedToConnectionGraph) :
    ∀ hdl ∈ granted, ∃ client, after.lookup hdl = some client ∧
      client.subscribedToConnectionGraph = true := by
  intro hdl member
  obtain ⟨client, found, flag⟩ := flagged hdl member
  obtain ⟨next, foundNext, same⟩ := kept hdl member client found
  exact ⟨next, foundNext, same.trans flag⟩

theorem graphStep_login (counted : GraphCounted state) (payload : Json) (hdl : ConnHandle) :
    GraphCounted (graphStep config state (.login payload hdl)) := by
  obtain ⟨outcome, calls, _, _⟩ := handleLogin_outcome config payload hdl state.world
  have flagged : (handleLogin config payload hdl state.world).2.server.flaggedCount =
      state.world.server.flaggedCount := outcome.count (fun _ => rfl) fun _ _ _ => rfl
  constructor
  · change (handleLogin config payload hdl state.world).2.server.subscriptionCount = _
    rw [outcome.tables]
    exact counted.count.trans (congrArg Nat.cast flagged.symm)
  · apply granted_of_lookup counted.granted
    intro other _ client found
    rcases outcome.lookup other with ⟨before, login, foundBefore, foundAfter⟩ | ⟨missing, _⟩
    · rw [found] at foundBefore
      cases foundBefore
      exact ⟨_, foundAfter, rfl⟩
    · rw [found] at missing
      cases missing
  · change lastGraphArgument (handleLogin config payload hdl state.world).2.calls = some true ↔
      0 < (handleLogin config payload hdl state.world).2.server.flaggedCount
    rw [calls, flagged]
    exact counted.argument

theorem graphStep_subscribe (handlers : HandlersReturn config) {state : GraphState Bridge}
    (counted : GraphCounted state) {hdl : ConnHandle}
    (sole : SoleSubscriber state (.subscribe hdl)) :
    GraphCounted (graphStep config state (.subscribe hdl)) := by
  obtain ⟨registered, uncounted⟩ := sole
  have noFlags : state.world.server.flaggedCount = 0 := by
    have count := counted.count
    omega
  obtain ⟨returned, view⟩ := handleSubscribeConnectionGraph_sole handlers registered uncounted
    (state.world.server.graphSubscribers_eq_nil.mpr noFlags)
  have stepped : graphStep config state (.subscribe hdl) =
      ⟨(handleSubscribeConnectionGraph config hdl state.world).2, hdl :: state.granted⟩ := by
    simp only [graphStep, returned, Except.isOk, Except.toBool, if_true]
  obtain ⟨client, found⟩ := (mem_iff_lookup hdl _).mp registered
  have flags := flaggedCount_eq found
  have flagsAfter := count_setFlag true found
  rw [if_pos rfl] at flagsAfter
  rw [stepped]
  apply GraphCounted.of_graphView view
  · rw [flagsAfter]
    omega
  · intro other member
    rcases List.mem_cons.mp member with same | member
    · subst same
      refine ⟨client.setSubscribedToConnectionGraph true, ?_, rfl⟩
      rw [lookup_modify, if_pos rfl, found, Option.map_some]
    · -- Nobody else was subscribed, so nobody else was granted a subscription.
      obtain ⟨record, foundOther, flag⟩ := counted.granted other member
      have contradiction := flaggedCount_eq foundOther
      rw [flag, if_pos rfl] at contradiction
      omega
  · rw [flagsAfter]
    exact iff_of_true rfl (by omega)

/-- The handler's last argument after a subscriber left. -/
theorem argument_after_leaving (counted : GraphCounted state) {others : Nat}
    (flags : state.world.server.flaggedCount = 1 + others) :
    (if state.world.server.subscriptionCount = 1 then some false
      else lastGraphArgument state.world.calls) = some true ↔ 0 < others := by
  have count := counted.count
  split
  · refine iff_of_false (by simp) ?_
    omega
  · rw [counted.argument]
    omega

theorem graphStep_unsubscribe (handlers : HandlersReturn config) {state : GraphState Bridge}
    (counted : GraphCounted state) (hdl : ConnHandle) :
    GraphCounted (graphStep config state (.unsubscribe hdl)) := by
  rcases found : state.world.server.clients.lookup hdl with _ | client
  · have failed : handleUnsubscribeConnectionGraph config hdl state.world =
        (.error (.raised (.std "map::at")), state.world) :=
      Action.bind_error (by rw [clientAt_apply, found])
    have stepped : graphStep config state (.unsubscribe hdl) = state := by
      simp only [graphStep, failed, Except.isOk, Except.toBool, Bool.false_eq_true, if_false]
    rwa [stepped]
  have flags := flaggedCount_eq found
  have flagsAfter := count_setFlag false found
  rcases flag : client.subscribedToConnectionGraph with _ | _
  · have refused : handleUnsubscribeConnectionGraph config hdl state.world =
        (.ok (), state.world.enqueue hdl
          (.status .error "Client was not subscribed to connection graph updates")) := by
      unfold handleUnsubscribeConnectionGraph
      rw [Action.bind_ok (show clientAt hdl state.world = (.ok client, state.world) by
        rw [clientAt_apply, found]), flag, if_neg Bool.false_ne_true, sendStatusAndLogMsg_apply]
    simp only [graphStep, refused, Except.isOk, Except.toBool, if_true]
    exact counted.of_view (World.enqueue_graphView _ _ _) (List.filter_subset_self _)
  · rw [flag, if_pos rfl] at flags
    rw [if_neg Bool.false_ne_true, Nat.zero_add] at flagsAfter
    have count := counted.count
    obtain ⟨returned, view⟩ := handleUnsubscribeConnectionGraph_flagged handlers found flag
      (fun only => by
        rw [Server.graphSubscribers_eq_nil]
        change Table.count _ (Table.modify hdl _ _) = 0
        omega)
    have stepped : graphStep config state (.unsubscribe hdl) =
        ⟨(handleUnsubscribeConnectionGraph config hdl state.world).2,
          state.granted.filter (· ≠ hdl)⟩ := by
      simp only [graphStep, returned, Except.isOk, Except.toBool, if_true]
    rw [stepped]
    apply GraphCounted.of_graphView view
    · omega
    · intro other member
      obtain ⟨member, different⟩ := List.mem_filter.mp member
      rw [lookup_modify, if_neg (by simpa using different)]
      exact counted.granted other member
    · rw [flagsAfter]
      exact argument_after_leaving counted flags

theorem graphStep_closed (handlers : HandlersReturn config) {state : GraphState Bridge}
    (counted : GraphCounted state) (hdl : ConnHandle) :
    GraphCounted (graphStep config state (.closed hdl)) := by
  change GraphCounted ⟨(handleConnectionClosed config hdl state.world).2,
    state.granted.filter (· ≠ hdl)⟩
  rcases found : state.world.server.clients.lookup hdl with _ | client
  · rw [handleConnectionClosed_of_none found]
    exact counted.of_view rfl (List.filter_subset_self _)
  have released : (releaseClient config hdl client).Meets (.frame World.graphView) :=
    releaseClient_meets (fun _ _ => callHandler_graphView config rfl)
      (fun _ _ => callHandler_graphView config rfl) (fun _ => callHandler_graphView config rfl)
      (fun _ _ world => by rw [sendStatusAndLogMsg_apply]; exact world.enqueue_graphView hdl _)
      (fun _ => rfl) (fun _ => rfl)
  obtain ⟨reached, kept, closed⟩ := handleConnectionClosed_apply handlers.defined found released
  have flags := flaggedCount_eq found
  have count := counted.count
  have others : ∀ other ∈ state.granted.filter (· ≠ hdl), ∃ record,
      (state.world.server.clients.erase hdl).lookup other = some record ∧
        record.subscribedToConnectionGraph = true := by
    intro other member
    obtain ⟨member, different⟩ := List.mem_filter.mp member
    rw [lookup_erase_ite, if_neg (by simpa using different)]
    exact counted.granted other member
  rw [closed]
  rcases flag : client.subscribedToConnectionGraph with _ | _
  · rw [flag, if_neg Bool.false_ne_true, Nat.zero_add] at flags
    refine GraphCounted.of_graphView (show World.graphView _ = _ from kept) ?_ others ?_
    · exact count.trans (congrArg Nat.cast flags)
    · exact counted.argument.trans (iff_of_eq (congrArg (0 < ·) flags))
  · rw [flag, if_pos rfl] at flags
    have view := releaseConnectionGraph_graphView handlers reached
    obtain ⟨clients, rest⟩ := Prod.mk.inj kept
    obtain ⟨counts, argues⟩ := Prod.mk.inj rest
    rw [clients, counts, argues] at view
    refine GraphCounted.of_graphView view ?_ others ?_
    · change state.world.server.subscriptionCount - 1 = _
      change _ = ((Table.count _ (state.world.server.clients.erase hdl) : Nat) : Int)
      omega
    · exact argument_after_leaving counted flags

end Steps

/-- In every run in which subscriptions are requested by registered clients
while nobody is subscribed, the count, the flags and the handler's last argument
agree in every state reached. -/
theorem graphCount_of_soleSubscriber {config : Config Bridge} (handlers : HandlersReturn config)
    {events : List GraphEvent} {state : GraphState Bridge}
    (run : (graphSystem config).GuardedRun SoleSubscriber events state) : GraphCounted state := by
  refine run.invariant ?_ ?_
  · rintro initial ⟨server, calls, granted⟩
    refine ⟨by rw [server]; rfl, by simp [granted], ?_⟩
    rw [calls, server]
    exact iff_of_false (by simp [lastGraphArgument]) (by simp [Server.flaggedCount, Server.initial])
  · rintro state event next counted sole rfl
    -- One step keeps the agreement.
    cases event with
    | login payload hdl => exact graphStep_login counted payload hdl
    | subscribe hdl => exact graphStep_subscribe handlers counted sole
    | unsubscribe hdl => exact graphStep_unsubscribe handlers counted hdl
    | closed hdl => exact graphStep_closed handlers counted hdl
    | transport hdl link => exact counted.of_view rfl (List.Subset.refl _)

/-- A server over handlers that accept every call. -/
def graphConfig : Config Unit where
  name := ""
  options := ⟨[capabilityConnectionGraph], [], [], "", []⟩
  handlers := .accepting
  parse := fun _ => .ok .null

theorem graphConfig_returns : HandlersReturn graphConfig where
  defined call world := by
    rw [callHandler_accepting rfl]
    simp
  graph subscribe world _ := callHandler_accepting rfl _ world

/-- The state after a list of events. -/
def graphRun (events : List GraphEvent) : GraphState Unit :=
  events.foldl (graphStep graphConfig) ⟨World.initial (), []⟩

theorem graphRun_run (events : List GraphEvent) :
    (graphSystem graphConfig).Run events (graphRun events) := by
  apply TransitionSystem.run_foldl
  · exact fun _ _ => rfl
  · exact ⟨rfl, rfl, rfl⟩

/-- One client logs in and subscribes. -/
theorem graphCount_one_subscriber :
    GraphCounted (graphRun [.login loginPayload ⟨1⟩, .subscribe ⟨1⟩]) := by
  have started : (graphSystem graphConfig).GuardedRun SoleSubscriber [] (graphRun []) :=
    .initial ⟨rfl, rfl, rfl⟩
  have loggedIn : (graphSystem graphConfig).GuardedRun SoleSubscriber
      [.login loginPayload ⟨1⟩] (graphRun [.login loginPayload ⟨1⟩]) :=
    .step started trivial rfl
  have admitted : SoleSubscriber (graphRun [.login loginPayload ⟨1⟩]) (.subscribe ⟨1⟩) :=
    ⟨by decide +kernel, by decide +kernel⟩
  exact graphCount_of_soleSubscriber graphConfig_returns (.step loggedIn admitted rfl)

/-- A second client subscribes: two subscriptions are counted, one flag is set. -/
theorem graphCount_two_subscribers :
    ∃ events state, (graphSystem graphConfig).Run events state ∧ ¬GraphCounted state := by
  refine ⟨[.login loginPayload ⟨1⟩, .subscribe ⟨1⟩, .login loginPayload ⟨2⟩, .subscribe ⟨2⟩], _,
    graphRun_run _, fun counted => ?_⟩
  exact absurd counted.count (by decide +kernel)

end CoBridge

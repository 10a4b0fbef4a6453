import CoBridge.Properties.Disconnect
import CoBridge.Properties.LeakedSubscription

/-!
# Disconnects along runs of a node

Messages, disconnects, polls and changes of ROS keep the holdings of every
connection accounted for and every ROS subscription recorded, so that a
disconnect finds what it has to release.
-/

namespace CoBridge.Ros2

open Library

variable {Rest : Type} {setup : Setup Rest} {world : World (Bridge Rest)} {hdl : ConnHandle}
variable {next : World (Bridge Rest)}

section Tracked

/-- A callback that runs alone leaves every ROS subscription recorded. -/
theorem tracked_of_obeys {program : ServerProgram (Bridge Rest) Unit}
    (obeys : program.Obeys callbacksOutline (fun _ => restsTracked .callbacks)
      (world, ⟨false, []⟩)) : Tracked NoException (program.run world).2 := by
  obtain ⟨_, tracked, _⟩ := obeys.run (fun shared => shared.2.subscriptionsLocked = false)
    (fun _ _ unlocked _ => unlocked)
    (fun _ _ (kept : CallbacksKeep _ _) unlocked => kept.locked.trans unlocked) rfl
  exact tracked

theorem handleConnectionClosed_tracked (tracked : Tracked NoException world) :
    Tracked NoException (handleConnectionClosed setup.config hdl world).2 := by
  rw [← handleConnectionClosedSections_run]
  exact tracked_of_obeys (handleConnectionClosedSections_obeys hdl tracked)

theorem handleOperation_tracked (tracked : Tracked NoException world) (operation : Operation)
    (payload : Json) :
    Tracked NoException (handleOperation setup.config operation payload hdl world).2 := by
  have unrecorded {action : ServerAction (Bridge Rest) Unit}
      (kept : action.Meets (.frame recordedSubscriptions)) : Tracked NoException (action world).2 :=
    tracked.of_recorded (kept world)
  cases operation with
  | login =>
    change Tracked NoException (handleLogin setup.config payload hdl world).2
    rw [← handleLoginSections_run]
    exact tracked_of_obeys (handleLoginSections_obeys payload hdl tracked)
  | subscribe =>
    change Tracked NoException (handleSubscribe setup.config payload hdl world).2
    rw [← handleSubscribeSections_run]
    exact tracked_of_obeys (handleSubscribeSections_obeys payload hdl tracked)
  | unsubscribe =>
    change Tracked NoException (handleUnsubscribe setup.config payload hdl world).2
    rw [← handleUnsubscribeSections_run]
    exact tracked_of_obeys (handleUnsubscribeSections_obeys payload hdl tracked)
  | advertise => exact unrecorded (handleAdvertise_recorded payload hdl)
  | unadvertise => exact unrecorded (handleUnadvertise_recorded payload hdl)
  | _ =>
    apply unrecorded ((recorded_kept setup hdl).operation ?_ rfl payload)
    nofun

/-- One step leaves every ROS subscription recorded. -/
theorem NodeStep.tracked {event : NodeEvent} {next : World (Bridge Rest)}
    (step : NodeStep setup world event next) (tracked : Tracked NoException world) :
    Tracked NoException next := by
  have neutral {next : World (Bridge Rest)} (same : account next = account world) :
      Tracked NoException next := tracked.of_recorded (congrArg Prod.snd same)
  cases step with
  | message hdl frame =>
    have kept : (Guarantee.invariant fun world : World (Bridge Rest) =>
        Tracked NoException world).rel world
          (handleMessage setup.config hdl frame world).2 := by
      apply handleMessage_rel
      · exact fun level text => (status_recorded hdl level text).keeps fun _ _ same here =>
          here.of_recorded same
      · exact fun operation payload _ here => handleOperation_tracked here operation payload
      · exact fun message => (callHandler_recorded rfl).keeps fun _ _ same here =>
          here.of_recorded same
      · exact fun request => (callHandler_recorded rfl).keeps fun _ _ same here =>
          here.of_recorded same
    exact kept tracked
  | closed hdl => exact handleConnectionClosed_tracked tracked
  | updateAdvertisedTopics =>
    rw [← updateAdvertisedTopicsSections_run]
    have obeys : (updateAdvertisedTopicsSections setup.dump setup.options).Obeys pollOutline
        (fun _ => restsTracked .poll) (world, ⟨false, []⟩) :=
      updateAdvertisedTopicsSections_obeys rfl
    obtain ⟨_, _, kept⟩ := obeys.run (fun shared => Tracked NoException shared.1)
      (fun _ _ _ => trivial) (fun _ _ kept here => Tracked.afterPoll here kept) tracked
    exact kept
  | updateConnectionGraph => exact neutral (pollConnectionGraph_account setup.options world)
  | surroundings acts =>
    obtain ⟨environment, rest, link, now, rfl⟩ := acts
    exact neutral rfl

theorem tracked_initial (initial : (nodeRuns setup).Initial world) : Tracked NoException world := by
  obtain ⟨server, environment, rest, bridge⟩ := initial
  have started : Started (world, ⟨false, []⟩) := ⟨server, ⟨environment, rest, bridge⟩, rfl⟩
  exact restsTracked_started started .callbacks

end Tracked

/-- A request after which a disconnect still finds everything: the connection
logged in before it advertises or touches parameters, and ROS creates the first
publisher of a client. -/
def RequestAccountable (setup : Setup Rest) (world : World (Bridge Rest)) (hdl : ConnHandle)
    (payload : Json) : Operation → Prop
  | .advertise => hdl ∈ world.server.clients ∧
      ∀ channels ∈ (payload.atKey "channels").toOption,
        FirstCreated setup.config.options (decide (hdl ∉ world.server.clientChannels)) hdl
          channels.elements world
  | .subscribeParameterUpdates | .unsubscribeParameterUpdates =>
    ∀ _ ∈ (parameterNameSet payload).toOption, hdl ∈ world.server.clients
  | _ => True

instance (setup : Setup Rest) (world : World (Bridge Rest)) (hdl : ConnHandle) (payload : Json) :
    (operation : Operation) → Decidable (RequestAccountable setup world hdl payload operation)
  | .advertise => inferInstanceAs (Decidable (_ ∧ _))
  | .subscribeParameterUpdates => inferInstanceAs (Decidable (∀ _ ∈ _, _))
  | .unsubscribeParameterUpdates => inferInstanceAs (Decidable (∀ _ ∈ _, _))
  | .login | .subscribe | .unsubscribe | .unadvertise | .getParameters | .setParameters
  | .subscribeConnectionGraph | .unsubscribeConnectionGraph | .fetchAsset => .isTrue trivial

/-- The messages after which a disconnect still finds everything. -/
def Accountable (setup : Setup Rest) (world : World (Bridge Rest)) : NodeEvent → Prop
  | .message hdl frame => ∀ request ∈ frame.request? setup.config,
      RequestAccountable setup world hdl request.2 request.1
  | _ => True

instance (setup : Setup Rest) (world : World (Bridge Rest)) :
    (event : NodeEvent) → Decidable (Accountable setup world event)
  | .message _ _ => inferInstanceAs (Decidable (∀ _ ∈ _, _))
  | .closed _ | .updateAdvertisedTopics | .updateConnectionGraph | .surroundings => .isTrue trivial

section Accounted

theorem hasParameters_of_handler (registered : hasHandler setup.config .subscribeParameterUpdates) :
    setup.options.hasParameters = true := by
  by_contra without
  change (ite _ _ _ : Option _).isSome = true at registered
  rw [if_neg without] at registered
  cases registered

/-- A request about parameters whose names cannot be read does nothing. -/
theorem parameterRequest_accounted {request : KeySet String → ServerAction (Bridge Rest) Unit}
    (accounted : Accounted setup world) {payload : Json}
    (readable : ∀ _ ∈ (parameterNameSet payload).toOption, hdl ∈ world.server.clients)
    (served : ∀ client, world.server.clients.lookup hdl = some client →
      Accounted setup ((Action.ofExcept (parameterNameSet payload) >>= request) world).2) :
    Accounted setup ((Action.ofExcept (parameterNameSet payload) >>= request) world).2 := by
  rcases read : parameterNameSet payload with fault | names
  · exact accounted
  · obtain ⟨client, found⟩ := (Table.mem_iff_lookup _ _).mp (readable names (by rw [read]; rfl))
    rw [← read]
    exact served client found

theorem handleOperation_accounted (accounted : Accounted setup world) {operation : Operation}
    (registered : hasHandler setup.config operation) {payload : Json}
    (accountable : RequestAccountable setup world hdl payload operation) :
    Accounted setup (handleOperation setup.config operation payload hdl world).2 := by
  have neutral {action : ServerAction (Bridge Rest) Unit} (kept : action.Meets (.frame account)) :
      Accounted setup (action world).2 :=
    accounted.of_holdings (congrArg Prod.fst (kept world))
  cases operation with
  | login => exact handleLogin_accounted accounted payload
  | subscribe => exact accounted.of_holdings (handleSubscribe_holdings payload hdl world)
  | unsubscribe => exact accounted.of_holdings (handleUnsubscribe_holdings payload hdl world)
  | advertise => exact handleAdvertise_accounted accounted accountable.1 accountable.2
  | unadvertise => exact handleUnadvertise_accounted accounted payload
  | getParameters => exact neutral (callWith_meets _ fun _ => callHandler_account rfl)
  | setParameters => exact neutral (callWith_meets _ fun _ => callHandler_account rfl)
  | subscribeParameterUpdates =>
    exact parameterRequest_accounted accounted accountable fun client found =>
      handleSubscribeParameterUpdates_accounted accounted found
        (hasParameters_of_handler registered) payload
  | unsubscribeParameterUpdates =>
    exact parameterRequest_accounted accounted accountable fun client found =>
      handleUnsubscribeParameterUpdates_accounted accounted found
        (hasParameters_of_handler registered) payload
  | subscribeConnectionGraph => exact neutral (handleSubscribeConnectionGraph_account hdl)
  | unsubscribeConnectionGraph => exact neutral (handleUnsubscribeConnectionGraph_account hdl)
  | fetchAsset => exact neutral (callWith_meets _ fun _ => callHandler_account rfl)

end Accounted

/-- What holds in every state of a run whose requests are accountable. -/
structure Orderly (setup : Setup Rest) (world : World (Bridge Rest)) : Prop where
  accounted : Accounted setup world
  tracked : Tracked NoException world

/-- Every step of the node keeps the account. -/
theorem NodeStep.accounted {event : NodeEvent} (step : NodeStep setup world event next)
    (accountable : Accountable setup world event) (accounted : Accounted setup world) :
    Accounted setup next := by
  have neutral {next : World (Bridge Rest)} (same : account next = account world) :
      Accounted setup next := accounted.of_holdings (congrArg Prod.fst same)
  cases step with
  | message hdl frame =>
    have kept : (Guarantee.invariant (Accounted setup)).rel world
        (handleMessage setup.config hdl frame world).2 := by
      apply handleMessage_rel
      · exact fun level text => (status_holdings hdl level text).keeps fun _ _ same here =>
          here.of_holdings same
      · intro operation payload requested here
        refine handleOperation_accounted here ?_ (accountable _ requested)
        -- An operation is run only when the bridge registered what it needs.
        unfold ClientFrame.request? at requested
        split at requested
        · split at requested
          · cases requested
          split at requested
          · cases requested
          split at requested
          · obtain ⟨selected, kept, same⟩ := Option.map_eq_some_iff.mp requested
            cases same
            exact (Option.filter_eq_some_iff.mp kept).2
          · cases requested
        · cases requested
      · exact fun message => (callHandler_holdings rfl).keeps fun _ _ same here =>
          here.of_holdings same
      · exact fun request => (callHandler_holdings rfl).keeps fun _ _ same here =>
          here.of_holdings same
    exact kept accounted
  | closed hdl =>
    rcases found : world.server.clients.lookup hdl with _ | client
    · rw [handleConnectionClosed_of_none found]
      exact accounted
    · obtain ⟨nothing, others⟩ := handleConnectionClosed_holdings accounted found
      refine accounted.of_others hdl others ?_
      rw [nothing]
      exact ⟨rfl, rfl, rfl⟩
  | updateAdvertisedTopics =>
    exact accounted.of_holdings (updateAdvertisedTopics_holdings _ _ world)
  | updateConnectionGraph => exact neutral (pollConnectionGraph_account setup.options world)
  | surroundings acts =>
    obtain ⟨environment, rest, link, now, rfl⟩ := acts
    exact neutral rfl

/-- One step keeps the node orderly. -/
theorem NodeStep.orderly {event : NodeEvent} (step : NodeStep setup world event next)
    (accountable : Accountable setup world event) (orderly : Orderly setup world) :
    Orderly setup next :=
  ⟨step.accounted accountable orderly.accounted, step.tracked orderly.tracked⟩

theorem orderly_initial (initial : (nodeRuns setup).Initial world) : Orderly setup world := by
  refine ⟨fun hdl => ?_, tracked_initial initial⟩
  obtain ⟨server, environment, rest, bridge⟩ := initial
  unfold holdings
  rw [server, bridge]
  exact ⟨rfl, rfl, rfl⟩

/-- In every run in which connections log in before they advertise or touch
parameters and ROS creates each client's first publisher, a disconnect leaves
nothing of the connection behind. -/
theorem disconnect_releases {events : List NodeEvent}
    (run : (nodeRuns setup).GuardedRun (Accountable setup) events world) (hdl : ConnHandle) :
    Released hdl world (handleConnectionClosed setup.config hdl world).2 := by
  have orderly : Orderly setup world := run.invariant (fun _ => orderly_initial)
    fun here accountable step => NodeStep.orderly step accountable here
  exact handleConnectionClosed_released orderly.accounted
    (handleConnectionClosed_tracked orderly.tracked)

/-- A request to advertise a topic under the ids. -/
def advertises (ids : List UInt64) : TextRequest where
  text := listText "advertise" "channels" (ids.map fun id => "\x7b\"id\":" ++ toString id ++
    ",\"topic\":\"/t\",\"encoding\":\"cdr\",\"schemaName\":\"demo/msg/T\"\x7d")
  payload := .object [("op", .string "advertise"), ("channels", .array (ids.map fun id =>
    .object [("id", .numberUnsigned id), ("topic", .string "/t"), ("encoding", .string "cdr"),
      ("schemaName", .string "demo/msg/T")]))]

def subscribesParameter : TextRequest where
  text := listText "subscribeParameterUpdates" "parameterNames" ["\"p\""]
  payload := .object [("op", .string "subscribeParameterUpdates"),
    ("parameterNames", .array [.string "p"])]

def clientRequests : List TextRequest := [userRequest "u" "i", advertises [5], subscribesParameter]

def publishingSetup : Setup Unit :=
  .open [capabilityClientPublish, capabilityParametersSubscribe] (readRequests clientRequests)

def quietWorld : World (Bridge Unit) := .initial (.initial .quiet ())

theorem quietWorld_initial : (nodeRuns publishingSetup).Initial quietWorld := ⟨rfl, .quiet, (), rfl⟩

/-- A client logs in, advertises a channel and subscribes to a parameter. -/
def clientEvents : List NodeEvent :=
  clientRequests.map fun request => .message ⟨1⟩ request.frame

def clientWorld : World (Bridge Unit) :=
  clientEvents.foldl (NodeEvent.apply publishingSetup) quietWorld

/-- The client with a channel and a parameter disconnects. -/
theorem disconnect_releases_client :
    (⟨1⟩ ∈ clientWorld.bridge.clientAdvertisedTopics ∧
      "p" ∈ clientWorld.server.paramSubscriptions ⟨1⟩) ∧
      Released ⟨1⟩ clientWorld
        (handleConnectionClosed publishingSetup.config ⟨1⟩ clientWorld).2 := by
  have run : (nodeRuns publishingSetup).GuardedRun (Accountable publishingSetup) clientEvents
      clientWorld :=
    (TransitionSystem.GuardedRun.initial quietWorld_initial).foldl (NodeEvent.apply_step _)
      (by decide +kernel)
  exact ⟨by decide +kernel, disconnect_releases run ⟨1⟩⟩

/-- A connection that never logged in advertises a channel and disconnects. -/
theorem disconnect_leaves_channels :
    ∃ events world hdl, (nodeRuns publishingSetup).Run events world ∧
    ¬Released hdl world (handleConnectionClosed publishingSetup.config hdl world).2 := by
  refine ⟨[.message ⟨1⟩ (advertises [5]).frame], _, ⟨1⟩,
    TransitionSystem.run_foldl (NodeEvent.apply_step _) quietWorld_initial _, fun released => ?_⟩
  exact released.clientChannels (by decide +kernel)

end CoBridge.Ros2

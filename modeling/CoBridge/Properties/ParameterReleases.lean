import CoBridge.Properties.ParameterMaps
import CoBridge.Properties.ParameterProtocol
import CoBridge.Ros2.Effects

/-!
# The parameters the ROS 2 bridge is asked to release

The server hands names over, the bridge splits them into node and parameter. When
every name is whitelisted and no name that is released shares node and parameter
with another one that is subscribed to, every parameter the bridge is asked to
release is in the set of its node.
-/

namespace CoBridge.Ros2

open Library ParameterInterface

namespace ParameterInterface

variable {paramNames : List String} {interface : ParameterInterface}

/-- Releasing names takes no other parameter away. -/
theorem holds_unsubscribeParams {name : String × String} (holds : interface.Holds name)
    (other : ∀ paramName ∈ paramNames, getNodeAndParamName paramName ≠ name) :
    (unsubscribeParams paramNames interface).2.Holds name := by
  induction paramNames generalizing interface with
  | nil => exact holds
  | cons paramName rest ih =>
    have left : (interface.release (getNodeAndParamName paramName)).Holds name :=
      (holds_release _ _ _).mpr ⟨holds, (other paramName List.mem_cons_self).symm⟩
    have others : ∀ later ∈ rest, getNodeAndParamName later ≠ name :=
      fun later member => other later (List.mem_cons_of_mem _ member)
    by_cases present : (getNodeAndParamName paramName).1 ∈ interface.subscribedParamsByNode
    · by_cases held : interface.Holds (getNodeAndParamName paramName)
      · rcases unsubscribeParams_held_cases held rest with continued | stopped
        · rw [continued]
          exact ih left others
        · exact stopped name left
      · rw [unsubscribeParams_missing present held]
        exact holds
    · rw [unsubscribeParams_absent present]
      exact ih holds others

/-- Followed parameters under different names can be released in any order. -/
theorem releasable_of_holds (different : (paramNames.map getNodeAndParamName).Nodup)
    (holds : ∀ paramName ∈ paramNames, interface.Holds (getNodeAndParamName paramName)) :
    Releasable paramNames interface := by
  induction paramNames generalizing interface with
  | nil => trivial
  | cons paramName rest ih =>
    rw [List.map_cons, List.nodup_cons] at different
    have held := holds paramName List.mem_cons_self
    refine (releasable_cons_of_mem held.mem rest).mpr ⟨held, ?_⟩
    apply ih different.2
    intro later member
    refine (holds_release _ _ _).mpr ⟨holds later (List.mem_cons_of_mem _ member), ?_⟩
    intro same
    exact different.1 (List.mem_map.mpr ⟨later, member, same⟩)

/-- Reading a set that is missing creates an empty one. -/
theorem holds_onParameterEvent (interface : ParameterInterface) (nodeName : String)
    (changed : List RosParameter) (name : String × String) :
    (onParameterEvent nodeName changed interface).2.Holds name ↔ interface.Holds name := by
  unfold Holds subscribedParams onParameterEvent
  rw [Table.lookup_emplace]
  by_cases same : name.1 = nodeName
  · rw [same, if_pos rfl]
    rcases interface.subscribedParamsByNode.lookup nodeName with _ | names
    · rfl
    · rfl
  · rw [if_neg same]

end ParameterInterface

/-- The names an event hands over with `unsubscribe`: those of its names that nobody
else is subscribed to. -/
def releasedNames {Bridge : Type} (world : World Bridge) : ParameterEvent Bridge → List String
  | .unsubscribe payload hdl =>
    match parameterNameSet payload with
    | .ok names =>
      (world.server.removeParamSubscriptions hdl names.keys).unsubscribedParams names.keys
    | .error _ => []
  | .closed hdl => (world.server.eraseParamSubscriptions hdl).unsubscribedParams
      (world.server.paramSubscriptions hdl).keys
  | _ => []

theorem releasedNames_unsubscribe {Bridge : Type} {world : World Bridge} {payload : Json}
    {names : KeySet String} (parsed : parameterNameSet payload = .ok names) (hdl : ConnHandle) :
    releasedNames world (.unsubscribe payload hdl) =
      (world.server.removeParamSubscriptions hdl names.keys).unsubscribedParams names.keys := by
  simp only [releasedNames, parsed]

theorem releasedNames_malformed {Bridge : Type} {world : World Bridge} {payload : Json}
    {fault : Fault} (parsed : parameterNameSet payload = .error fault) (hdl : ConnHandle) :
    releasedNames world (.unsubscribe payload hdl) = [] := by
  simp only [releasedNames, parsed]

def setLibrary (library : ParameterClients) (bridge : Bridge ParameterNode) :
    Bridge ParameterNode :=
  { bridge with rest := { bridge.rest with library := library } }

def receiveEvent (nodeName : String) (changed : List RosParameter) (bridge : Bridge ParameterNode) :
    Bridge ParameterNode :=
  { bridge with
    rest := { bridge.rest with
      interface := (onParameterEvent nodeName changed bridge.rest.interface).2 } }

/-- Names to subscribe to are whitelisted. Inside the bridge, the library changes its
answers and parameter events arrive. -/
def Accepted (patterns : List Regex) : ParameterEvent (Bridge ParameterNode) → Prop
  | .subscribe payload _ => ∀ names, parameterNameSet payload = .ok names →
      ∀ name ∈ names, isWhitelisted name patterns = true
  | .bridge change => (∃ library, change = setLibrary library) ∨
      ∃ nodeName changed, change = receiveEvent nodeName changed
  | _ => True

/-- No released name shares node and parameter with another name in use. -/
def Separate {Bridge : Type} (world : World Bridge) (event : ParameterEvent Bridge) : Prop :=
  ∀ name ∈ releasedNames world event, ∀ other, world.server.isParameterSubscribed other = true →
    getNodeAndParamName other = getNodeAndParamName name → other = name

structure Sound (patterns : List Regex) (world : World (Bridge ParameterNode))
    (event : ParameterEvent (Bridge ParameterNode)) : Prop where
  known : KnownNames world event
  accepted : Accepted patterns event
  separate : Separate world event

/-- Every parameter somebody is subscribed to is followed. -/
def FollowsSubscribed (world : World (Bridge ParameterNode)) : Prop :=
  ∀ name, world.server.isParameterSubscribed name = true →
    world.bridge.rest.interface.Holds (getNodeAndParamName name)

section Frames

variable {setup : Setup ParameterNode}

/-- What the bridge and the server know about parameters. -/
def releaseView (world : World (Bridge ParameterNode)) :
    (Table ConnHandle (KeySet String) × List ParameterOperation) × ParameterNode :=
  (world.parameterView, world.bridge.rest)

theorem unsubscribe_rest {Rest : Type} (channelId : ChannelId) (hdl : ConnHandle)
    (bridge : Bridge Rest) : (unsubscribe channelId hdl bridge).bridge.rest = bridge.rest := by
  obtain ⟨_, same⟩ := unsubscribe_others bridge channelId hdl
  rw [same]

theorem clientUnadvertise_rest {Rest : Type} (channelId : ClientChannelId) (hdl : ConnHandle)
    (bridge : Bridge Rest) :
    (clientUnadvertise channelId hdl bridge).bridge.rest = bridge.rest := by
  rw [clientUnadvertise_bridge]

/-- A handler for something else leaves the parameters alone. -/
theorem callHandler_releaseView {call : HandlerCall} (other : call.parameterOperation? = none)
    {handler : Bridge ParameterNode → Reply (Bridge ParameterNode)}
    (registered : setup.config.handlers.resolve call = some handler)
    (rest : ∀ bridge, (handler bridge).bridge.rest = bridge.rest) :
    (callHandler setup.config call).Meets (.frame releaseView) := by
  intro world
  refine Prod.ext (callHandler_parameterView other world) ?_
  change (callHandler setup.config call world).2.bridge.rest = world.bridge.rest
  rw [callHandler_bridge registered]
  exact rest world.bridge

theorem handleConnectionClosed_releaseView (hdl : ConnHandle)
    (world : World (Bridge ParameterNode)) :
    releaseView (handleConnectionClosed setup.config hdl world).2 = releaseView world ∨
      ∃ reached, releaseView reached = releaseView world ∧
        releaseView (handleConnectionClosed setup.config hdl world).2 =
          releaseView (withdrawParameters setup.config hdl reached).2 :=
  handleConnectionClosed_cases (.frame releaseView) world (fun _ => rfl)
    (fun _ => withdrawChannels_meets
      (fun channelId _ => callHandler_releaseView rfl rfl (clientUnadvertise_rest channelId hdl))
      (fun channelId _ => callHandler_releaseView rfl rfl (unsubscribe_rest channelId hdl))
      fun _ => rfl)
    (releaseConnectionGraph_meets (fun _ _ => rfl) (callHandler_releaseView rfl rfl fun _ => rfl))

end Frames

section Steps

variable {setup : Setup ParameterNode} {patterns : List Regex}
  {world : World (Bridge ParameterNode)}

/-- The node registers the handler of the interface. -/
def RegistersInterface (setup : Setup ParameterNode) (patterns : List Regex) : Prop :=
  setup.options.hasParameters = true ∧
    setup.rest.subscribeParameters = subscribeParameters patterns

theorem RegistersInterface.resolved (registers : RegistersInterface setup patterns) :
    setup.config.handlers.parameterSubscriptionHandler =
      some fun names op hdl => liftRest (subscribeParameters patterns names op hdl) := by
  change (if setup.options.hasParameters then some _ else none) = _
  rw [if_pos registers.1, registers.2]

theorem FollowsSubscribed.of_releaseView {next : World (Bridge ParameterNode)}
    (follows : FollowsSubscribed world) (view : releaseView next = releaseView world) :
    FollowsSubscribed next := by
  intro name subscribed
  have table : next.server.clientParamSubscriptions = world.server.clientParamSubscriptions :=
    congrArg (·.1.1) view
  have rest : next.bridge.rest = world.bridge.rest := congrArg Prod.snd view
  rw [rest]
  exact follows name ((Server.isParameterSubscribed_congr table name).symm.trans subscribed)

theorem follows_subscribe (registers : RegistersInterface setup patterns)
    (follows : FollowsSubscribed world) {payload : Json} {hdl : ConnHandle}
    (accepted : Accepted patterns (.subscribe payload hdl)) :
    FollowsSubscribed (handleSubscribeParameterUpdates setup.config payload hdl world).2 := by
  rcases parsed : parameterNameSet payload with fault | names
  · unfold handleSubscribeParameterUpdates
    rw [parsed]
    exact follows
  intro name subscribed
  have isSome : setup.config.handlers.parameterSubscriptionHandler.isSome := by
    rw [registers.resolved]
    rfl
  have view := handleSubscribeParameterUpdates_parameterView isSome parsed hdl world
  rw [Server.isParameterSubscribed_congr (congrArg Prod.fst view),
    isParameterSubscribed_add] at subscribed
  rw [handleSubscribeParameterUpdates_bridge registers.resolved parsed]
  -- A name that was not subscribed to is among those handed over.
  have handedOver : world.server.isParameterSubscribed name = true ∨
      name ∈ world.server.unsubscribedParams names.keys := by
    by_cases before : world.server.isParameterSubscribed name = true
    · exact .inl before
    · exact .inr ((Server.mem_unsubscribedParams _ _ _).mpr
        ⟨subscribed.resolve_right before, by simpa using before⟩)
  split
  · next none =>
    rw [none] at handedOver
    exact follows name (handedOver.resolve_right List.not_mem_nil)
  · have listed : (world.server.unsubscribedParams names.keys).all
        fun paramName => isWhitelisted paramName patterns := by
      rw [List.all_eq_true]
      intro paramName member
      exact accepted names parsed paramName
        (AList.mem_keys.mpr ((Server.mem_unsubscribedParams _ _ _).mp member).1)
    change Holds (subscribeParams world.bridge.rest.library patterns
      (world.server.unsubscribedParams names.keys) world.bridge.rest.interface).2 _
    unfold Holds subscribedParams
    rw [subscribeParams_params, recorded_of_all patterns listed]
    exact (holds_recordAll _ _ _).mpr (handedOver.imp (follows name) fun member =>
      ⟨name, member, rfl⟩)

/-- Releasing separate names keeps the parameters of those still subscribed to. -/
theorem follows_release {before after : Server} {interface : ParameterInterface}
    {released : List String}
    (follows : ∀ name, before.isParameterSubscribed name = true →
      interface.Holds (getNodeAndParamName name))
    (fewer : ∀ name, after.isParameterSubscribed name = true →
      before.isParameterSubscribed name = true)
    (unused : ∀ name ∈ released, after.isParameterSubscribed name = false)
    (separate : ∀ name ∈ released, ∀ other, before.isParameterSubscribed other = true →
      getNodeAndParamName other = getNodeAndParamName name → other = name) :
    ∀ name, after.isParameterSubscribed name = true →
      (unsubscribeParams released interface).2.Holds (getNodeAndParamName name) := by
  intro name subscribed
  apply holds_unsubscribeParams (follows name (fewer name subscribed))
  intro dropped member same
  obtain rfl := separate dropped member name (fewer name subscribed) same.symm
  rw [unused name member] at subscribed
  cases subscribed

/-- The interface after names were handed over, if there were any. -/
theorem unsubscribeParamsWithoutSubscriptions_interface
    (registers : RegistersInterface setup patterns) (hdl : ConnHandle) (names : List String)
    (world : World (Bridge ParameterNode)) :
    (unsubscribeParamsWithoutSubscriptions setup.config hdl names world).2.bridge.rest.interface =
      (unsubscribeParams (world.server.unsubscribedParams names)
        world.bridge.rest.interface).2 := by
  rw [unsubscribeParamsWithoutSubscriptions_bridge registers.resolved]
  split
  · next none =>
    rw [none]
    rfl
  · rfl

theorem unused_released {server : Server} {names : List String} :
    ∀ name ∈ server.unsubscribedParams names, server.isParameterSubscribed name = false :=
  fun _ member => ((Server.mem_unsubscribedParams _ _ _).mp member).2

theorem follows_unsubscribe (registers : RegistersInterface setup patterns)
    (follows : FollowsSubscribed world) {payload : Json} {hdl : ConnHandle}
    (separate : Separate world (.unsubscribe payload hdl)) :
    FollowsSubscribed (handleUnsubscribeParameterUpdates setup.config payload hdl world).2 := by
  rcases parsed : parameterNameSet payload with fault | names
  · unfold handleUnsubscribeParameterUpdates
    rw [parsed]
    exact follows
  have isSome : setup.config.handlers.parameterSubscriptionHandler.isSome := by
    rw [registers.resolved]
    rfl
  have view := handleUnsubscribeParameterUpdates_parameterView isSome parsed hdl world
  have drops := isParameterSubscribed_drop (paramSubscriptions_removed world.server hdl names.keys)
  intro name subscribed
  rw [Server.isParameterSubscribed_congr (congrArg Prod.fst view)] at subscribed
  have interface : (handleUnsubscribeParameterUpdates setup.config payload hdl
      world).2.bridge.rest.interface =
        (unsubscribeParams ((world.server.removeParamSubscriptions hdl
        names.keys).unsubscribedParams names.keys) world.bridge.rest.interface).2 := by
    unfold handleUnsubscribeParameterUpdates
    rw [parsed, Action.ofExcept_ok_bind_apply, modifyServer_bind_apply]
    exact unsubscribeParamsWithoutSubscriptions_interface registers hdl _ _
  rw [interface]
  apply follows_release follows (fun other => (drops other).1) unused_released _ name subscribed
  rw [← releasedNames_unsubscribe parsed]
  exact separate

theorem follows_withdrawParameters (registers : RegistersInterface setup patterns)
    (follows : FollowsSubscribed world) {hdl : ConnHandle}
    (separate : Separate world (.closed hdl)) :
    FollowsSubscribed (withdrawParameters setup.config hdl world).2 := by
  have isSome : setup.config.handlers.parameterSubscriptionHandler.isSome := by
    rw [registers.resolved]
    rfl
  have view := withdrawParameters_parameterView isSome hdl world
  have drops := isParameterSubscribed_drop (paramSubscriptions_erased world.server hdl)
  intro name subscribed
  rw [Server.isParameterSubscribed_congr (congrArg Prod.fst view)] at subscribed
  have interface : (withdrawParameters setup.config hdl world).2.bridge.rest.interface =
      (unsubscribeParams ((world.server.eraseParamSubscriptions hdl).unsubscribedParams
        (world.server.paramSubscriptions hdl).keys) world.bridge.rest.interface).2 := by
    exact unsubscribeParamsWithoutSubscriptions_interface registers hdl _ _
  rw [interface]
  exact follows_release follows (fun other => (drops other).1)
    unused_released separate name subscribed

/-- What a disconnect releases depends on the table of subscriptions only. -/
theorem withdrawn_congr {first second : Server} {hdl : ConnHandle}
    (same : second.clientParamSubscriptions = first.clientParamSubscriptions) :
    (second.eraseParamSubscriptions hdl).unsubscribedParams (second.paramSubscriptions hdl).keys =
      (first.eraseParamSubscriptions hdl).unsubscribedParams
        (first.paramSubscriptions hdl).keys := by
  have erased : (second.eraseParamSubscriptions hdl).clientParamSubscriptions =
      (first.eraseParamSubscriptions hdl).clientParamSubscriptions := by
    simp only [Server.eraseParamSubscriptions, same]
  rw [unsubscribedParams_congr erased]
  simp only [Server.paramSubscriptions, same]

theorem separate_closed_congr {first second : World (Bridge ParameterNode)} {hdl : ConnHandle}
    (same : second.server.clientParamSubscriptions = first.server.clientParamSubscriptions)
    (separate : Separate first (.closed hdl)) : Separate second (.closed hdl) := by
  have released : releasedNames second (.closed hdl) = releasedNames first (.closed hdl) :=
    withdrawn_congr same
  intro name member other subscribed
  rw [released] at member
  rw [Server.isParameterSubscribed_congr same] at subscribed
  exact separate name member other subscribed

/-- Every request keeps the interface in step with the subscriptions. -/
theorem follows_step (registers : RegistersInterface setup patterns)
    (follows : FollowsSubscribed world) {event : ParameterEvent (Bridge ParameterNode)}
    (sound : Sound patterns world event) :
    FollowsSubscribed (parameterEventStep setup.config world event) := by
  cases event with
  | login payload hdl =>
    refine follows.of_releaseView ?_
    obtain ⟨_, _, bridge, _⟩ := handleLogin_outcome setup.config payload hdl world
    exact Prod.ext (handleLogin_parameterView payload hdl world) (congrArg Bridge.rest bridge)
  | subscribe payload hdl => exact follows_subscribe registers follows sound.accepted
  | unsubscribe payload hdl => exact follows_unsubscribe registers follows sound.separate
  | closed hdl =>
    rcases handleConnectionClosed_releaseView hdl world with kept | ⟨reached, before, after⟩
    · exact follows.of_releaseView kept
    · have separateReached := separate_closed_congr (congrArg (·.1.1) before) sound.separate
      exact (follows_withdrawParameters registers (follows.of_releaseView before)
        separateReached).of_releaseView after
  | transport hdl link => exact follows.of_releaseView rfl
  | bridge change =>
    rcases sound.accepted with ⟨library, rfl⟩ | ⟨nodeName, changed, rfl⟩
    · exact follows
    · exact fun name subscribed => (holds_onParameterEvent _ nodeName changed _).mpr
        (follows name subscribed)

/-- What a step hands over with `unsubscribe` are its released names. -/
theorem eq_releasedNames (isSome : setup.config.handlers.parameterSubscriptionHandler.isSome)
    {event : ParameterEvent (Bridge ParameterNode)} {names : List String}
    (calls : (parameterEventStep setup.config world event).parameterCalls =
      world.parameterCalls ++ [(names, .unsubscribe)]) : names = releasedNames world event := by
  have fromHanded {released : List String} {op : ParameterSubscriptionOperation}
      (same : world.parameterCalls ++ handed released op =
        world.parameterCalls ++ [(names, .unsubscribe)]) :
          op = .unsubscribe ∧ names = released := by
    have one := List.append_cancel_left same
    unfold handed at one
    split at one
    · cases one
    · cases one
      exact ⟨rfl, rfl⟩
  have unchanged {next : World (Bridge ParameterNode)}
      (view : next.parameterView = world.parameterView)
      (added : next.parameterCalls = world.parameterCalls ++ [(names, .unsubscribe)]) : False := by
    have kept : next.parameterCalls = world.parameterCalls := congrArg Prod.snd view
    rw [kept] at added
    simpa using congrArg List.length added
  cases event with
  | login payload hdl => exact (unchanged (handleLogin_parameterView payload hdl world) calls).elim
  | subscribe payload hdl =>
    change (handleSubscribeParameterUpdates setup.config payload hdl world).2.parameterCalls = _
      at calls
    rcases parsed : parameterNameSet payload with fault | requested
    · refine (unchanged ?_ calls).elim
      unfold handleSubscribeParameterUpdates
      rw [parsed]
      rfl
    · have view := handleSubscribeParameterUpdates_parameterView isSome parsed hdl world
      exact nomatch (fromHanded ((congrArg Prod.snd view).symm.trans calls)).1
  | unsubscribe payload hdl =>
    change (handleUnsubscribeParameterUpdates setup.config payload hdl world).2.parameterCalls = _
      at calls
    rcases parsed : parameterNameSet payload with fault | requested
    · refine (unchanged ?_ calls).elim
      unfold handleUnsubscribeParameterUpdates
      rw [parsed]
      rfl
    · have view := handleUnsubscribeParameterUpdates_parameterView isSome parsed hdl world
      rw [releasedNames_unsubscribe parsed]
      exact (fromHanded ((congrArg Prod.snd view).symm.trans calls)).2
  | closed hdl =>
    rcases handleConnectionClosed_parameterView hdl world with kept | ⟨reached, before, after⟩
    · exact (unchanged kept calls).elim
    · have table : reached.server.clientParamSubscriptions =
          world.server.clientParamSubscriptions := congrArg Prod.fst before
      have view := after.trans (withdrawParameters_parameterView isSome hdl reached)
      have added := (congrArg Prod.snd view).symm.trans calls
      rw [show reached.parameterCalls = world.parameterCalls from congrArg Prod.snd before] at added
      exact (fromHanded added).2.trans (withdrawn_congr table)
  | transport hdl link => exact (unchanged rfl calls).elim
  | bridge change => exact (unchanged rfl calls).elim

/-- Released names were subscribed to, so their parameters are followed. -/
theorem releasedNames_subscribed {event : ParameterEvent (Bridge ParameterNode)}
    (known : KnownNames world event) {name : String} (member : name ∈ releasedNames world event) :
    world.server.isParameterSubscribed name = true := by
  cases event with
  | unsubscribe payload hdl =>
    rcases parsed : parameterNameSet payload with fault | names
    · simp [releasedNames_malformed parsed] at member
    · rw [releasedNames_unsubscribe parsed] at member
      exact known names parsed name
        (AList.mem_keys.mpr ((Server.mem_unsubscribedParams _ _ _).mp member).1)
  | closed hdl =>
    have own := ((Server.mem_unsubscribedParams _ _ _).mp member).1
    exact (world.server.isParameterSubscribed_iff_exists name).mpr ⟨hdl, AList.mem_keys.mpr own⟩
  | login | subscribe | transport | bridge => simp [releasedNames] at member

theorem nodup_releasedNames (event : ParameterEvent (Bridge ParameterNode)) :
    (releasedNames world event).Nodup := by
  cases event with
  | unsubscribe payload hdl =>
    rcases parsed : parameterNameSet payload with fault | names
    · rw [releasedNames_malformed parsed]
      exact List.nodup_nil
    · rw [releasedNames_unsubscribe parsed]
      exact names.keys_nodup.filter _
  | closed hdl => exact (AList.keys_nodup _).filter _
  | login | subscribe | transport | bridge => exact List.nodup_nil

end Steps

theorem follows_run {setup : Setup ParameterNode} {patterns : List Regex}
    (registers : RegistersInterface setup patterns)
    {events : List (ParameterEvent (Bridge ParameterNode))} {world : World (Bridge ParameterNode)}
    (run : (parameterProtocol setup.config).GuardedRun (Sound patterns) events world) :
    FollowsSubscribed world := by
  apply run.invariant
  · intro initial valid name subscribed
    rw [valid.1] at subscribed
    simp [Server.isParameterSubscribed_iff, Server.initial] at subscribed
  · rintro state event next follows sound rfl
    exact follows_step registers follows sound

/-- Over any bridge, runs in which only names somebody is subscribed to are
unsubscribed obey the protocol of the handler, and a step leaves it exactly when it
unsubscribes another name. Over the ROS 2 bridge, the names handed over in sound runs
are each found in the set of their node. -/
theorem parameter_subscriptions_paired (Bridge : Type) (config : Config Bridge)
    (setup : Setup ParameterNode) (patterns : List Regex) :
    (∀ (events : List (ParameterEvent Bridge)) (world : World Bridge),
      (parameterProtocol config).GuardedRun KnownNames events world →
        Obeys world.parameterCalls ∧
          (config.handlers.parameterSubscriptionHandler.isSome → ∀ event,
            (Obeys (parameterEventStep config world event).parameterCalls ↔
              KnownNames world event))) ∧
    (RegistersInterface setup patterns →
      ∀ events world, (parameterProtocol setup.config).GuardedRun (Sound patterns) events world →
        ∀ event, Sound patterns world event → ∀ names,
          (parameterEventStep setup.config world event).parameterCalls =
              world.parameterCalls ++ [(names, .unsubscribe)] →
            Releasable names world.bridge.rest.interface) := by
  refine ⟨fun events world run => ?_, ?_⟩
  -- In every run in which only known names are unsubscribed, the handler's calls obey the
  -- protocol, and the next step does exactly when its names are known.
  · rcases registered : config.handlers.parameterSubscriptionHandler with _ | handler
    · rw [parameterCalls_eq_nil registered run]
      exact ⟨obeys_nil, fun absurdity => nomatch absurdity⟩
    · have isSome : config.handlers.parameterSubscriptionHandler.isSome := by rw [registered]; rfl
      have tracked := tracked_run isSome run
      exact ⟨tracked.obeys, fun _ event => (tracked_step isSome tracked event).1⟩
  intro registers events world run event sound names calls
  have isSome : setup.config.handlers.parameterSubscriptionHandler.isSome := by
    rw [registers.resolved]
    rfl
  rw [eq_releasedNames isSome calls]
  -- In a sound step every released parameter is in the set of its node at its turn.
  apply releasable_of_holds
  · apply (nodup_releasedNames event).map_on
    intro first _ second member same
    exact sound.separate second member first
      (releasedNames_subscribed sound.known ‹first ∈ _›) same
  · intro name member
    exact (follows_run registers run) name (releasedNames_subscribed sound.known member)

/-- A node that serves parameters of its whitelist. -/
def parameterSetup (patterns : List Regex) : Setup ParameterNode where
  options := ⟨true, [], [], [capabilityParameters, capabilityParametersSubscribe]⟩
  rest :=
    { RestHandlers.accepting with subscribeParameters := subscribeParameters patterns }
  useSimTime := false
  metadata := []
  sessionId := ""
  clientTopicWhitelistPatterns := []
  parse := fun _ => .error ""

def parameterWorld : World (Bridge ParameterNode) := .initial (.initial .quiet ⟨.initial, .working⟩)

/-- A request that lists parameter names. -/
def namesPayload (names : List String) : Json :=
  .object [("parameterNames", .array (names.map .string))]

/-- Every name somebody is subscribed to. -/
def subscribedNames (server : Server) : List String :=
  server.clientParamSubscriptions.values.flatMap AList.keys

theorem mem_subscribedNames {server : Server} {name : String}
    (subscribed : server.isParameterSubscribed name = true) : name ∈ subscribedNames server := by
  obtain ⟨hdl, names, found, member⟩ := (server.isParameterSubscribed_iff name).mp subscribed
  exact List.mem_flatMap.mpr ⟨names, (Table.mem_values_iff _ _).mpr ⟨hdl, found⟩,
    AList.mem_keys.mp member⟩

/-- A client logs in and subscribes to a parameter of the node. -/
def rateEvents : List (ParameterEvent (Bridge ParameterNode)) :=
  [.login loginPayload ⟨1⟩, .subscribe (namesPayload ["/talker.rate"]) ⟨1⟩]

def rateWorld : World (Bridge ParameterNode) :=
  rateEvents.foldl (parameterEventStep (parameterSetup talkerOnly).config) parameterWorld

theorem sound_rateEvents : TransitionSystem.Admits (Sound talkerOnly)
    (parameterEventStep (parameterSetup talkerOnly).config) parameterWorld rateEvents := by
  refine ⟨⟨trivial, trivial, fun name member => nomatch member⟩,
    ⟨trivial, ?_, fun name member => nomatch member⟩, trivial⟩
  intro names parsed name member
  have requested : parameterNameSet (namesPayload ["/talker.rate"]) =
      .ok (KeySet.insertAll ["/talker.rate"] ∅) := rfl
  cases parsed
  obtain rfl : name = "/talker.rate" := by simpa using member
  decide +kernel

theorem sound_closed : Sound talkerOnly rateWorld (.closed ⟨1⟩) := by
  have knownNames : KnownNames rateWorld (.closed ⟨1⟩) := trivial
  refine ⟨knownNames, trivial, ?_⟩
  have one : ∀ other ∈ subscribedNames rateWorld.server, other = "/talker.rate" := by
    decide +kernel
  intro name member other subscribed _
  have known := releasedNames_subscribed knownNames member
  rw [one other (mem_subscribedNames subscribed), one name (mem_subscribedNames known)]

/-- The only subscriber of a parameter disconnects. -/
theorem parameter_subscriptions_paired_rate :
    (parameterProtocol (parameterSetup talkerOnly).config).GuardedRun (Sound talkerOnly) rateEvents
        rateWorld ∧
      Obeys rateWorld.parameterCalls ∧
      (parameterEventStep (parameterSetup talkerOnly).config rateWorld
        (.closed ⟨1⟩)).parameterCalls =
        rateWorld.parameterCalls ++ [(["/talker.rate"], .unsubscribe)] ∧
      Releasable ["/talker.rate"] rateWorld.bridge.rest.interface := by
  have start : (parameterProtocol (parameterSetup talkerOnly).config).GuardedRun (Sound talkerOnly)
      [] parameterWorld := .initial ⟨rfl, rfl⟩
  have run := start.foldl (fun _ _ => rfl) sound_rateEvents
  have known := run.mono fun _ _ sound => sound.known
  have calls : (parameterEventStep (parameterSetup talkerOnly).config rateWorld
      (.closed ⟨1⟩)).parameterCalls =
        rateWorld.parameterCalls ++ [(["/talker.rate"], .unsubscribe)] := by decide +kernel
  obtain ⟨obey, releasable⟩ := parameter_subscriptions_paired _ (parameterSetup talkerOnly).config
    (parameterSetup talkerOnly) talkerOnly
  exact ⟨run, (obey _ _ known).1, calls,
    releasable ⟨by decide +kernel, rfl⟩ _ _ run _ sound_closed _ calls⟩

/-- A client that is subscribed to one parameter of a node unsubscribes from another
one. The name is handed over although nobody ever subscribed to it, and the bridge
erases at the end of the node's set. -/
theorem parameter_released_unknown :
    (parameterProtocol (parameterSetup talkerOnly).config).Run rateEvents rateWorld ∧
      ¬ Obeys (parameterEventStep (parameterSetup talkerOnly).config rateWorld
        (.unsubscribe (namesPayload ["/talker.gain"]) ⟨1⟩)).parameterCalls ∧
      isWhitelisted "/talker.gain" talkerOnly = true ∧
      (handleUnsubscribeParameterUpdates (parameterSetup talkerOnly).config
        (namesPayload ["/talker.gain"]) ⟨1⟩ rateWorld).1 = .error .undefinedBehavior := by
  have initial : (parameterProtocol (parameterSetup talkerOnly).config).Initial parameterWorld :=
    ⟨rfl, rfl⟩
  refine ⟨TransitionSystem.run_foldl (fun _ _ => rfl) initial _, ?_, by decide +kernel,
    by decide +kernel⟩
  have calls : (parameterEventStep (parameterSetup talkerOnly).config rateWorld
      (.unsubscribe (namesPayload ["/talker.gain"]) ⟨1⟩)).parameterCalls =
        [(["/talker.rate"], .subscribe)] ++ (["/talker.gain"], .unsubscribe) :: [] := by
    decide +kernel
  intro obeys
  have last := obeys _ _ _ calls "/talker.gain" List.mem_cons_self
  simp [lastOperation] at last

/-- The names the bridge was last told to watch are exactly those that some connection is
subscribed to. -/
theorem watched_parameters_exact {Bridge : Type} {config : Config Bridge}
    (registered : config.handlers.parameterSubscriptionHandler.isSome)
    {events : List (ParameterEvent Bridge)} {world : World Bridge}
    (run : (parameterProtocol config).GuardedRun KnownNames events world) (name : String) :
    lastOperation name world.parameterCalls = some .subscribe ↔
      ∃ hdl, name ∈ world.server.paramSubscriptions hdl := by
  rw [(tracked_run registered run).last, Server.isParameterSubscribed_iff_exists]

/-- A watched parameter and its subscriber. -/
theorem watched_parameters_exact_rate :
    ∃ hdl, "/talker.rate" ∈ rateWorld.server.paramSubscriptions hdl := by
  have start : (parameterProtocol (parameterSetup talkerOnly).config).GuardedRun (Sound talkerOnly)
      [] parameterWorld := .initial ⟨rfl, rfl⟩
  have run := start.foldl (fun _ _ => rfl) sound_rateEvents
  exact (watched_parameters_exact rfl (run.mono fun _ _ sound => sound.known) _).mp
    (by decide +kernel)

end CoBridge.Ros2

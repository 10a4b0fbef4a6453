import CoBridge.Properties.CallbacksObey
import CoBridge.Server.ParameterCalls

/-!
# What a connection holds

Four tables besides the subscriptions have entries of a connection: the clients,
their channels and their parameters in the server, the publishers in the bridge.
`Holdings.Accounted` says that a disconnect would find them all: it looks at
registered clients only, and it withdraws the publishers whose ids the client's
record lists.
-/

namespace CoBridge.Ros2

open Library Action Table

section

variable {Rest : Type} {setup : Setup Rest}

structure Holdings where
  advertised : Option (KeySet ClientChannelId)
  channels : Bool
  params : Bool
  publishers : Option (Table ClientChannelId TopicAndDatatype)

def holdings (world : World (Bridge Rest)) (hdl : ConnHandle) : Holdings where
  advertised := (world.server.clients.lookup hdl).map ClientInfo.advertisedChannels
  channels := (world.server.clientChannels.lookup hdl).isSome
  params := (world.server.clientParamSubscriptions.lookup hdl).isSome
  publishers := world.bridge.clientAdvertisedTopics.lookup hdl

/-- A connection that is not registered holds nothing, a client's publishers are
listed in its record, and parameters are held only if the node has any. -/
def Holdings.Accounted (hasParameters : Bool) (holdings : Holdings) : Prop :=
  match holdings.advertised with
  | none => holdings.channels = false ∧ holdings.params = false ∧ holdings.publishers = none
  | some ids => (holdings.params = true → hasParameters = true) ∧
      Listed (· ∈ ids) holdings.publishers

/-- The subscriptions in the clients' records and what the bridge has of them. -/
def recordedSubscriptions (world : World (Bridge Rest)) :
    (ConnHandle → Option (Table ChannelId SubscriptionId)) × Table ChannelId ChannelWithoutId ×
      Table ChannelId (Table ConnHandle TopicAndDatatype) :=
  (fun hdl => (world.server.clients.lookup hdl).map ClientInfo.subscriptionsByChannel,
    world.bridge.channelTables)

/-- All that a disconnect has to find. -/
def account (world : World (Bridge Rest)) :=
  (holdings world, recordedSubscriptions world)

theorem Tracked.of_recorded {excepted : ChannelId → ConnHandle → Prop}
    {world next : World (Bridge Rest)}
    (same : recordedSubscriptions next = recordedSubscriptions world)
    (tracked : Tracked excepted world) : Tracked excepted next := by
  have records (hdl : ConnHandle) : (next.server.clients.lookup hdl).map
      ClientInfo.subscriptionsByChannel = (world.server.clients.lookup hdl).map
      ClientInfo.subscriptionsByChannel := congrFun (congrArg Prod.fst same) hdl
  have tables : next.bridge.channelTables = world.bridge.channelTables := congrArg Prod.snd same
  have subscribed (channelId : ChannelId) (hdl : ConnHandle) :
      next.bridge.Subscribed channelId hdl ↔ world.bridge.Subscribed channelId hdl := by
    unfold Bridge.Subscribed Bridge.subscriptionsByClient
    rw [show next.bridge.subscriptions = world.bridge.subscriptions from congrArg Prod.snd tables]
  constructor
  · intro channelId hdl here
    refine (tracked.recorded channelId hdl ((subscribed channelId hdl).mp here)).imp_right ?_
    rintro ⟨client, found, member⟩
    have record := records hdl
    rw [found, Option.map_some] at record
    obtain ⟨after, foundAfter, same⟩ := Option.map_eq_some_iff.mp record
    exact ⟨after, foundAfter, by rwa [same]⟩
  · intro channelId hdl here
    rw [show next.bridge.advertisedTopics = world.bridge.advertisedTopics from
      congrArg Prod.fst tables]
    exact tracked.advertised channelId hdl ((subscribed channelId hdl).mp here)

section Blocks

theorem callHandler_publishers (setup : Setup Rest) {call : HandlerCall}
    (other : changesPublishers call = false) (world : World (Bridge Rest)) :
    (callHandler setup.config call world).2.bridge.clientAdvertisedTopics =
      world.bridge.clientAdvertisedTopics := by
  rcases registered : setup.config.handlers.resolve call with _ | handler
  · rw [callHandler_of_none registered]
  · rw [callHandler_bridge registered, resolve_publishers registered other]

variable {call : HandlerCall}

theorem callHandler_holdings (other : changesPublishers call = false) :
    (callHandler setup.config call).Meets (.frame holdings) := by
  intro world
  change holdings (callHandler setup.config call world).2 = holdings world
  have publishers := callHandler_publishers setup other world
  have clients := callHandler_frame Server.clients (fun _ => rfl) setup.config call world
  have channels := callHandler_frame Server.clientChannels (fun _ => rfl) setup.config call world
  have params := callHandler_frame Server.clientParamSubscriptions (fun _ => rfl) setup.config call
    world
  dsimp only [Guarantee.frame] at clients channels params
  unfold holdings
  rw [publishers, clients, channels, params]

theorem callHandler_recorded (other : changesSubscriptions call = false) :
    (callHandler setup.config call).Meets (.frame recordedSubscriptions) := by
  intro world
  have view := callHandler_view setup other world
  exact congrArg (fun view : Table ConnHandle ClientInfo × _ × _ =>
    (fun hdl => (view.1.lookup hdl).map ClientInfo.subscriptionsByChannel, view.2)) view

theorem callHandler_account (other : changesTables call = false) :
    (callHandler setup.config call).Meets (.frame account) := by
  intro world
  refine Prod.ext (callHandler_holdings ?_ world) (callHandler_recorded ?_ world)
  · cases call <;> first | rfl | cases other
  · cases call <;> first | rfl | cases other

theorem account_of_unsent {world next : World (Bridge Rest)} (same : next.unsent = world.unsent) :
    account next = account world := by
  unfold account holdings recordedSubscriptions
  rw [show next.server = world.server from congrArg (·.1) same,
    show next.bridge = world.bridge from congrArg (·.2.2.1) same]

theorem sendJson_account (hdl : ConnHandle) (message : ServerMessage) :
    (sendJson hdl message : ServerAction (Bridge Rest) Unit).Meets (.frame account) :=
  fun world => account_of_unsent (sendJson_unsent hdl message _ world)

theorem status_account (hdl : ConnHandle) :
    StatusKeeps (.frame (account : World (Bridge Rest) → _)) hdl :=
  fun _ _ => sendJson_account hdl _

/-- A change of one client's record that keeps what it advertised. -/
theorem modifyClient_holdings (change : ClientInfo → ClientInfo)
    (keeps : ∀ client, (change client).advertisedChannels = client.advertisedChannels)
    (hdl : ConnHandle) (world : World (Bridge Rest)) :
    holdings { world with server := world.server.modifyClient hdl change } = holdings world := by
  funext other
  have kept : ((world.server.clients.modify hdl change).lookup other).map
      ClientInfo.advertisedChannels = (world.server.clients.lookup other).map
      ClientInfo.advertisedChannels := by
    rw [lookup_modify]
    split
    · subst other
      simp [Function.comp_def, keeps]
    · rfl
  exact congrArg (fun advertised => { holdings world other with advertised := advertised }) kept

/-- A change of one client's record that keeps its subscriptions. -/
theorem modifyClient_recorded (change : ClientInfo → ClientInfo)
    (keeps : ∀ client, (change client).subscriptionsByChannel = client.subscriptionsByChannel)
    (hdl : ConnHandle) (world : World (Bridge Rest)) :
    recordedSubscriptions { world with server := world.server.modifyClient hdl change } =
      recordedSubscriptions world := by
  refine Prod.ext ?_ rfl
  funext other
  change ((world.server.clients.modify hdl change).lookup other).map _ = _
  rw [lookup_modify]
  split
  · subst other
    simp [Function.comp_def, keeps, recordedSubscriptions]
  · rfl

theorem setFlag_account (flag : Bool) (hdl : ConnHandle) (world : World (Bridge Rest)) :
    account { world with server :=
        world.server.modifyClient hdl (ClientInfo.setSubscribedToConnectionGraph flag) } =
      account world :=
  Prod.ext (modifyClient_holdings (.setSubscribedToConnectionGraph flag) (fun _ => rfl) hdl world)
    (modifyClient_recorded (.setSubscribedToConnectionGraph flag) (fun _ => rfl) hdl world)

end Blocks

section Requests

theorem handleSubscribeConnectionGraph_account (hdl : ConnHandle) :
    (handleSubscribeConnectionGraph setup.config hdl).Meets (.frame account) :=
  handleSubscribeConnectionGraph_meets (fun _ => meets_modify fun _ => rfl)
    (fun _ => callHandler_account rfl) (updateClient_meets (setFlag_account true hdl))
    (sendJson_account hdl)

theorem handleUnsubscribeConnectionGraph_account (hdl : ConnHandle) :
    (handleUnsubscribeConnectionGraph setup.config hdl).Meets (.frame account) :=
  handleUnsubscribeConnectionGraph_meets (fun _ => meets_modify fun _ => rfl)
    (fun _ => callHandler_account rfl) (status_account hdl) (setFlag_account false hdl)

end Requests

section Polls

theorem broadcast_holdings (message : ServerMessage) :
    (broadcast message : ServerAction (Bridge Rest) Unit).Meets (.frame holdings) := by
  intro world
  rw [broadcast_apply]
  change holdings (world.enqueueAll _ message) = holdings world
  unfold holdings
  simp

/-- Dropping channels from the clients' subscriptions keeps what they hold otherwise. -/
theorem dropChannels_holdings (channelIds : List ChannelId) (world : World (Bridge Rest)) :
    holdings { world with server := world.server.dropChannels channelIds } = holdings world := by
  funext hdl
  unfold holdings Server.dropChannels
  simp only [lookup_mapWithKey, Option.map_map]
  rfl

theorem removeChannels_holdings (channelIds : List ChannelId) :
    (removeChannels channelIds : ServerAction (Bridge Rest) Unit).Meets (.frame holdings) := by
  apply Meets.ite (meets_pure _)
  apply Meets.bind (meets_modify fun _ => rfl)
  intro _
  apply Meets.bind
  · exact dropChannels_holdings channelIds
  intro _
  exact broadcast_holdings _

theorem addChannels_holdings (check : TextCheck) (channels : List ChannelWithoutId) :
    (addChannels check channels : ServerAction (Bridge Rest) _).Meets (.frame holdings) := by
  refine addChannels_meets check channels (fun world => ?_) broadcast_holdings
  obtain ⟨nextChannelId, table, registered⟩ := world.server.registerChannels_eq channels
  change holdings { world with server := (world.server.registerChannels channels).2 } = _
  rw [registered]
  rfl

theorem updateAdvertisedTopics_holdings (check : TextCheck) (options : Options) :
    (updateAdvertisedTopics check options : ServerAction (Bridge Rest) Unit).Meets
      (.frame holdings) := by
  refine updateAdvertisedTopics_meets (exchangeChannels_meets ?_ removeChannels_holdings
    (addChannels_holdings check) ?_) options
  · exact fun _ => meets_modify fun _ => rfl
  · exact fun _ => meets_modify fun _ => rfl

theorem pollConnectionGraph_account (options : Options) :
    (pollConnectionGraph options : ServerAction (Bridge Rest) Unit).Meets (.frame account) := by
  apply Meets.bind (meets_gets _)
  intro bridge
  apply Meets.ite _ (meets_pure _)
  intro world
  have kept := updateConnectionGraph_kept (connectionGraph options bridge.environment) world
  exact congrArg (fun kept : Server × List HandlerCall × Bridge Rest × (ConnHandle → Link) =>
    account { world with server := kept.1, bridge := kept.2.2.1 }) kept

end Polls

end

/-!
## Requests and what their connection holds

Subscribe and unsubscribe requests leave the other tables alone, requests about
publishers and parameters leave the subscriptions alone. A registered client's
requests keep its holdings accounted for, as long as ROS creates its first
publisher.
-/

variable {Rest : Type} {setup : Setup Rest} {world : World (Bridge Rest)} {hdl : ConnHandle}

section Frames

theorem status_holdings (hdl : ConnHandle) :
    StatusKeeps (.frame (holdings : World (Bridge Rest) → _)) hdl :=
  fun level text world => congrArg Prod.fst (status_account hdl level text world)

theorem status_recorded (hdl : ConnHandle) :
    StatusKeeps (.frame (recordedSubscriptions : World (Bridge Rest) → _)) hdl :=
  fun level text world => congrArg Prod.snd (status_account hdl level text world)

variable (payload : Json)

theorem handleSubscribe_holdings (hdl : ConnHandle) :
    (handleSubscribe setup.config payload hdl).Meets (.frame holdings) := by
  refine handleSubscribe_meets (subscribeEntry_meets (status_holdings hdl)
    (fun _ => callHandler_holdings rfl) ?_) payload
  intro channelId subId
  exact updateClient_meets
    (modifyClient_holdings (.addSubscription channelId subId) (fun _ => rfl) hdl)

theorem handleUnsubscribe_holdings (hdl : ConnHandle) :
    (handleUnsubscribe setup.config payload hdl).Meets (.frame holdings) := by
  refine handleUnsubscribe_meets (unsubscribeEntry_meets (status_holdings hdl)
    (fun _ => callHandler_holdings rfl) ?_) payload
  intro channelId
  exact updateClient_meets
    (modifyClient_holdings (.removeSubscription channelId) (fun _ => rfl) hdl)

theorem handleAdvertise_recorded (hdl : ConnHandle) :
    (handleAdvertise setup.config payload hdl).Meets (.frame recordedSubscriptions) := by
  refine handleAdvertise_meets (meets_modify fun _ => rfl) (advertiseEntry_meets
    (advertiseChannel_meets (status_recorded hdl) (fun _ => callHandler_recorded rfl) ?_
      fun _ => meets_modify fun _ => rfl)) payload
  intro channelId
  exact updateClient_meets
    (modifyClient_recorded (.addAdvertisedChannel channelId) (fun _ => rfl) hdl)

theorem handleUnadvertise_recorded (hdl : ConnHandle) :
    (handleUnadvertise setup.config payload hdl).Meets (.frame recordedSubscriptions) := by
  refine handleUnadvertise_meets (status_recorded hdl) (unadvertiseEntry_meets
    (fun _ => callHandler_recorded rfl) ?_ fun _ => meets_modify fun _ => rfl) payload
  intro channelId
  exact updateClient_meets
    (modifyClient_recorded (.removeAdvertisedChannel channelId) (fun _ => rfl) hdl)

/-- Handing parameters that nobody subscribes to any more to the bridge. -/
theorem unsubscribeParams_account (hdl : ConnHandle) (names : List String) :
    (unsubscribeParamsWithoutSubscriptions setup.config hdl names).Meets (.frame account) :=
  unsubscribeParams_meets (status_account hdl) (fun _ => callHandler_account rfl) names

/-- Requests that are not about channels do not touch the subscriptions. -/
theorem recorded_kept (setup : Setup Rest) (hdl : ConnHandle) :
    KeptBesidesChannels setup.config (.frame recordedSubscriptions) hdl where
  sends message world := congrArg Prod.snd (sendJson_account hdl message world)
  parameterRequest _ _ := callHandler_recorded rfl
  parameterChange _ _ := callHandler_recorded rfl
  parameterSubscription _ _ := callHandler_recorded rfl
  connectionGraph _ := callHandler_recorded rfl
  fetchAsset _ _ := callHandler_recorded rfl
  tables update clients _ := by
    intro world
    change recordedSubscriptions { world with server := update world.server } = _
    unfold recordedSubscriptions
    simp only [clients]
  flags flag := modifyClient_recorded (.setSubscribedToConnectionGraph flag) (fun _ => rfl) hdl

end Frames

/-- A disconnect would find everything that any connection holds. -/
def Accounted (setup : Setup Rest) (world : World (Bridge Rest)) : Prop :=
  ∀ hdl, (holdings world hdl).Accounted setup.options.hasParameters

section Accounted

variable {next : World (Bridge Rest)} {client : ClientInfo}

theorem Accounted.of_holdings (accounted : Accounted setup world)
    (same : holdings next = holdings world) : Accounted setup next := by
  intro hdl
  rw [same]
  exact accounted hdl

/-- Only one connection's holdings changed. -/
theorem Accounted.of_others (accounted : Accounted setup world) (hdl : ConnHandle)
    (others : ∀ other, other ≠ hdl → holdings next other = holdings world other)
    (here : (holdings next hdl).Accounted setup.options.hasParameters) : Accounted setup next := by
  intro other
  by_cases same : other = hdl
  · subst other
    exact here
  · rw [others other same]
    exact accounted other

theorem holdings_accounted_iff (found : world.server.clients.lookup hdl = some client) :
    (holdings world hdl).Accounted setup.options.hasParameters ↔
      (hdl ∈ world.server.clientParamSubscriptions → setup.options.hasParameters = true) ∧
        Listed (· ∈ client.advertisedChannels)
          (world.bridge.clientAdvertisedTopics.lookup hdl) := by
  unfold Holdings.Accounted holdings
  rw [found, Option.map_some, AList.lookup_isSome]

theorem Accounted.listed (accounted : Accounted setup world)
    (found : world.server.clients.lookup hdl = some client) :
    Listed (· ∈ client.advertisedChannels) (world.bridge.clientAdvertisedTopics.lookup hdl) :=
  ((holdings_accounted_iff found).mp (accounted hdl)).2

theorem holdings_accounted_iff_of_none (missing : world.server.clients.lookup hdl = none) :
    (holdings world hdl).Accounted setup.options.hasParameters ↔
      hdl ∉ world.server.clientChannels ∧ hdl ∉ world.server.clientParamSubscriptions ∧
        hdl ∉ world.bridge.clientAdvertisedTopics := by
  unfold Holdings.Accounted holdings
  rw [missing, Option.map_none]
  simp [← AList.lookup_eq_none, Option.isSome_eq_false_iff]

/-- A registered client may have entries of its own in the tables of channels and
parameters. -/
theorem Accounted.of_entries (accounted : Accounted setup world)
    (found : world.server.clients.lookup hdl = some client)
    (clients : next.server.clients = world.server.clients)
    (publishers : next.bridge.clientAdvertisedTopics = world.bridge.clientAdvertisedTopics)
    (channels : ∀ other, other ≠ hdl →
      next.server.clientChannels.lookup other = world.server.clientChannels.lookup other)
    (params : ∀ other, other ≠ hdl → next.server.clientParamSubscriptions.lookup other =
      world.server.clientParamSubscriptions.lookup other)
    (hasParameters : hdl ∈ next.server.clientParamSubscriptions →
      setup.options.hasParameters = true) : Accounted setup next := by
  apply accounted.of_others hdl
  · intro other different
    unfold holdings
    rw [clients, publishers, channels other different, params other different]
  · rw [holdings_accounted_iff (by rwa [clients]), publishers]
    exact ⟨hasParameters, accounted.listed found⟩

theorem handleSubscribeParameterUpdates_accounted (accounted : Accounted setup world)
    (found : world.server.clients.lookup hdl = some client)
    (hasParameters : setup.options.hasParameters = true) (payload : Json) :
    Accounted setup (handleSubscribeParameterUpdates setup.config payload hdl world).2 := by
  unfold handleSubscribeParameterUpdates
  rcases parameterNameSet payload with fault | names
  · exact accounted
  have added : Accounted setup { world with
      server := world.server.addParamSubscriptions hdl names.keys } := by
    refine accounted.of_entries found rfl rfl (fun _ _ => rfl) (fun other different => ?_)
      fun _ => hasParameters
    change (Table.modify hdl _ _).lookup other = _
    rw [lookup_modify, if_neg different, lookup_emplace, if_neg different]
  have called : (if world.server.unsubscribedParams names.keys ≠ [] then
      callHandler setup.config (.parameterSubscription
        (world.server.unsubscribedParams names.keys) .subscribe hdl)
      else pure ()).Meets (.frame holdings) :=
    .ite (callHandler_holdings rfl) (meets_pure _)
  exact added.of_holdings (called _)

theorem handleUnsubscribeParameterUpdates_accounted (accounted : Accounted setup world)
    (found : world.server.clients.lookup hdl = some client)
    (hasParameters : setup.options.hasParameters = true) (payload : Json) :
    Accounted setup (handleUnsubscribeParameterUpdates setup.config payload hdl world).2 := by
  unfold handleUnsubscribeParameterUpdates
  rcases parameterNameSet payload with fault | names
  · exact accounted
  have removed : Accounted setup { world with
      server := world.server.removeParamSubscriptions hdl names.keys } := by
    refine accounted.of_entries found rfl rfl (fun _ _ => rfl) (fun other different => ?_)
      fun _ => hasParameters
    change (Table.modify hdl _ _).lookup other = _
    rw [lookup_modify, if_neg different, lookup_emplace, if_neg different]
  exact removed.of_holdings (congrArg Prod.fst (unsubscribeParams_account hdl names.keys _))

end Accounted

end CoBridge.Ros2

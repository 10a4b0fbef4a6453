import CoBridge.Library.Batch
import CoBridge.Properties.SubscriptionIds

/-!
# What is kept for one connection

The requests about channels read and change five maps, two of them in the bridge. Seen
from one client, each entry of such a request is passed over, taken or refused by the
bridge. `Shows` relates a world to what it keeps for a client, here with what the entries
of subscribe and unsubscribe requests do to it.
-/

namespace CoBridge.Ros2

open Library Action Table

variable {Rest : Type} {setup : Setup Rest} {world next : World (Bridge Rest)} {hdl : ConnHandle}

/-- What server and bridge keep for a connection. -/
@[ext] structure ClientView where
  subscriptionsByChannel : Table ChannelId SubscriptionId
  advertisedChannels : KeySet ClientChannelId
  clientChannels : Option (Table ClientChannelId ClientAdvertisement)
  subscriptions : ChannelId → Option TopicAndDatatype
  clientAdvertisedTopics : Option (Table ClientChannelId TopicAndDatatype)

def ClientView.publications (view : ClientView) : Table ClientChannelId ClientAdvertisement :=
  view.clientChannels.getD ∅

def ClientView.publishers (view : ClientView) : Table ClientChannelId TopicAndDatatype :=
  view.clientAdvertisedTopics.getD ∅

/-- What the requests are checked against and leave alone. -/
structure Offer where
  channels : Table ChannelId Channel
  advertisedTopics : Table ChannelId ChannelWithoutId
  environment : Environment

/-- The part of the bridge that is about one client. -/
structure BridgeView where
  subscriptions : ChannelId → Option TopicAndDatatype
  clientAdvertisedTopics : Option (Table ClientChannelId TopicAndDatatype)
  advertisedTopics : Table ChannelId ChannelWithoutId
  environment : Environment

def Bridge.viewFor (bridge : Bridge Rest) (hdl : ConnHandle) : BridgeView where
  subscriptions channelId := (bridge.subscriptionsByClient channelId).lookup hdl
  clientAdvertisedTopics := bridge.clientAdvertisedTopics.lookup hdl
  advertisedTopics := bridge.advertisedTopics
  environment := bridge.environment

def clientView (hdl : ConnHandle) (world : World (Bridge Rest)) : ClientView where
  subscriptionsByChannel :=
    ((world.server.clients.lookup hdl).map ClientInfo.subscriptionsByChannel).getD ∅
  advertisedChannels := ((world.server.clients.lookup hdl).map ClientInfo.advertisedChannels).getD ∅
  clientChannels := world.server.clientChannels.lookup hdl
  subscriptions := (world.bridge.viewFor hdl).subscriptions
  clientAdvertisedTopics := (world.bridge.viewFor hdl).clientAdvertisedTopics

def offerOf (world : World (Bridge Rest)) : Offer where
  channels := world.server.channels
  advertisedTopics := world.bridge.advertisedTopics
  environment := world.bridge.environment

/-- The registered client is kept as in the view, under the given offer. -/
structure Shows (hdl : ConnHandle) (offer : Offer) (view : ClientView)
    (world : World (Bridge Rest)) : Prop where
  registered : hdl ∈ world.server.clients
  view : clientView hdl world = view
  offer : offerOf world = offer

variable {offer : Offer} {view : ClientView}

theorem Shows.self (registered : hdl ∈ world.server.clients) :
    Shows hdl (offerOf world) (clientView hdl world) world := ⟨registered, rfl, rfl⟩

/-- Only the tables matter. -/
theorem Shows.of_tables (shown : Shows hdl offer view world) (server : next.server = world.server)
    (bridge : next.bridge = world.bridge) : Shows hdl offer view next := by
  refine ⟨?_, ?_, ?_⟩
  · rw [server]
    exact shown.registered
  · rw [← shown.view]
    unfold clientView
    rw [server, bridge]
  · rw [← shown.offer]
    unfold offerOf
    rw [server, bridge]

theorem Shows.enqueue (shown : Shows hdl offer view world) (other : ConnHandle)
    (message : ServerMessage) : Shows hdl offer view (world.enqueue other message) :=
  shown.of_tables (World.enqueue_server _ _ _) (World.enqueue_bridge _ _ _)

/-- A handler call that leaves what the bridge keeps for the client. -/
theorem Shows.call (shown : Shows hdl offer view world) (call : HandlerCall)
    {bridge : Bridge Rest} (same : bridge.viewFor hdl = world.bridge.viewFor hdl) :
    Shows hdl offer view { world.recordCall call with bridge := bridge } := by
  refine ⟨shown.registered, ?_, ?_⟩
  · rw [← shown.view]
    unfold clientView
    rw [same]
    rfl
  · have topics : bridge.advertisedTopics = world.bridge.advertisedTopics :=
      congrArg BridgeView.advertisedTopics same
    have environment : bridge.environment = world.bridge.environment :=
      congrArg BridgeView.environment same
    rw [← shown.offer]
    unfold offerOf
    rw [topics, environment]
    rfl

/-- A handler call and a change of the tables, as the client sees it. -/
theorem Shows.take (shown : Shows hdl offer view world) (call : HandlerCall) (server : Server)
    {bridge : Bridge Rest} {after : BridgeView} {client : ClientInfo} {seen : ClientView}
    (answered : bridge.viewFor hdl = after) (found : server.clients.lookup hdl = some client)
    (topics : after.advertisedTopics = world.bridge.advertisedTopics)
    (environment : after.environment = world.bridge.environment)
    (channels : server.channels = world.server.channels)
    (looks : seen = ⟨client.subscriptionsByChannel, client.advertisedChannels,
      server.clientChannels.lookup hdl, after.subscriptions, after.clientAdvertisedTopics⟩) :
    Shows hdl offer seen { world.recordCall call with bridge := bridge, server := server } := by
  subst answered looks
  refine ⟨mem_of_lookup found, ?_, ?_⟩
  · unfold clientView
    simp only [found, Option.map_some, Option.getD_some]
  · rw [← shown.offer]
    change Offer.mk server.channels (bridge.viewFor hdl).advertisedTopics
      (bridge.viewFor hdl).environment = _
    rw [channels, topics, environment]
    rfl

/-- The client's record, before and after a change. -/
theorem lookup_modifyClient (registered : hdl ∈ world.server.clients)
    (change : ClientInfo → ClientInfo) :
    ∃ client, world.server.clients.lookup hdl = some client ∧
      (world.server.modifyClient hdl change).clients.lookup hdl = some (change client) := by
  obtain ⟨client, found⟩ := (mem_iff_lookup _ _).mp registered
  refine ⟨client, found, ?_⟩
  unfold Server.modifyClient
  rw [lookup_modify, if_pos rfl, found, Option.map_some]

theorem clientView_of_found {client : ClientInfo}
    (found : world.server.clients.lookup hdl = some client) :
    clientView hdl world = ⟨client.subscriptionsByChannel, client.advertisedChannels,
      world.server.clientChannels.lookup hdl, (world.bridge.viewFor hdl).subscriptions,
      (world.bridge.viewFor hdl).clientAdvertisedTopics⟩ := by
  unfold clientView
  simp only [found, Option.map_some, Option.getD_some]

section Subscribe

/-- The topic ROS subscribes to for a channel, unless something fails. -/
def Environment.subscribes (environment : Environment) (channel : ChannelWithoutId) : Prop :=
  environment.publishersInfoFailure channel.topic = none ∧
    environment.subscriptionFailure (channel.topic, channel.schemaName) = none

instance (environment : Environment) (channel : ChannelWithoutId) :
    Decidable (environment.subscribes channel) :=
  inferInstanceAs (Decidable (_ ∧ _))

/-- The topic the bridge subscribes a client to. -/
def grantedTopic (topics : Table ChannelId ChannelWithoutId) (environment : Environment)
    (channelId : ChannelId) : Option TopicAndDatatype :=
  (topics.lookup channelId).bind fun channel =>
    if environment.subscribes channel then some (channel.topic, channel.schemaName) else none

theorem viewFor_emplace (bridge : Bridge Rest) (channelId : ChannelId) (hdl : ConnHandle) :
    Bridge.viewFor { bridge with subscriptions := bridge.subscriptions.emplace channelId ∅ } hdl =
      bridge.viewFor hdl := by
  have same (other : ChannelId) : ((bridge.subscriptions.emplace channelId ∅).lookup other).getD ∅ =
      (bridge.subscriptions.lookup other).getD ∅ := by
    rw [lookup_emplace]
    split
    · next same => rw [same, Option.getD_some]
    · rfl
  unfold Bridge.viewFor Bridge.subscriptionsByClient
  simp only [same]

variable {bridge : Bridge Rest} {channelId : ChannelId}

/-- A subscribe call of a client that is not subscribed yet. -/
theorem subscribe_granted {topic : TopicAndDatatype}
    (absent : (bridge.viewFor hdl).subscriptions channelId = none)
    (granted : grantedTopic bridge.advertisedTopics bridge.environment channelId = some topic) :
    (subscribe channelId hdl bridge).outcome = .ok () ∧
      (subscribe channelId hdl bridge).bridge.viewFor hdl = { bridge.viewFor hdl with
        subscriptions :=
          Function.update (bridge.viewFor hdl).subscriptions channelId (some topic) } := by
  obtain ⟨channel, found, grants⟩ := Option.bind_eq_some_iff.mp granted
  obtain ⟨⟨info, created⟩, topicEq⟩ := Option.ite_none_right_eq_some.mp grants
  cases topicEq
  have unlisted : hdl ∉ bridge.subscriptionsByClient channelId := AList.lookup_eq_none.mp absent
  have accepted : subscribe channelId hdl bridge = .accept { bridge with
      subscriptions := (bridge.subscriptions.emplace channelId ∅).modify channelId
        fun subscriptionsByClient =>
          subscriptionsByClient.emplace hdl (channel.topic, channel.schemaName) } := by
    rcases subscribe_cases channelId hdl bridge with ⟨_, unknown, _⟩ |
      ⟨_, _, known, refused, _⟩ | ⟨_, known, _, _, same⟩
    · cases unknown.symm.trans found
    · cases known.symm.trans found
      exact absurd ⟨info, created⟩ (refused.resolve_left unlisted)
    · cases known.symm.trans found
      exact same
  rw [accepted]
  refine ⟨rfl, ?_⟩
  unfold Bridge.viewFor Reply.accept
  simp only [BridgeView.mk.injEq, and_true]
  funext other
  unfold Bridge.subscriptionsByClient
  rw [lookup_modify, Function.update_apply]
  by_cases same : other = channelId
  · rw [if_pos same, if_pos same, lookup_emplace, if_pos rfl, Option.map_some,
      Option.getD_some, lookup_emplace, if_pos rfl]
    change some ((bridge.subscriptionsByClient channelId).lookup hdl |>.getD _) = _
    rw [show (bridge.subscriptionsByClient channelId).lookup hdl = none from absent]
    rfl
  · rw [if_neg same, if_neg same, lookup_emplace, if_neg same]

/-- Any other subscribe call fails. -/
theorem subscribe_denied (denied : (bridge.viewFor hdl).subscriptions channelId ≠ none ∨
      grantedTopic bridge.advertisedTopics bridge.environment channelId = none) :
    (∃ fault, (subscribe channelId hdl bridge).outcome = .error fault) ∧
      (subscribe channelId hdl bridge).bridge.viewFor hdl = bridge.viewFor hdl := by
  rcases subscribe_cases channelId hdl bridge with ⟨_, _, same⟩ | ⟨_, _, _, _, same⟩ |
    ⟨channel, found, unlisted, subscribes, _⟩
  · rw [same]
    exact ⟨⟨_, rfl⟩, rfl⟩
  · rw [same]
    exact ⟨⟨_, rfl⟩, viewFor_emplace _ _ _⟩
  · rcases denied with listed | ungranted
    · exact absurd (AList.lookup_eq_none.mpr unlisted) listed
    · have granted : bridge.environment.subscribes channel := subscribes
      rw [grantedTopic, found, Option.bind_some, if_pos granted] at ungranted
      cases ungranted

/-- The view after a client subscribed to a channel. -/
def ClientView.subscribe (view : ClientView) (entry : SubscriptionId × ChannelId)
    (topic : TopicAndDatatype) : ClientView :=
  { view with
    subscriptionsByChannel := view.subscriptionsByChannel.emplace entry.2 entry.1
    subscriptions := Function.update view.subscriptions entry.2 (some topic) }

/-- The decision on an entry of a subscribe request, given the subscriptions it is checked
against. -/
def subscribeDecision (offer : Offer) (snapshot : Table ChannelId SubscriptionId)
    (entry : SubscriptionId × ChannelId) (view : ClientView) : Decision ClientView :=
  if (findSubscriptionBySubId snapshot entry.1).isSome ∨ entry.2 ∉ offer.channels then .pass
  else if (view.subscriptions entry.2).isSome then .refuse
  else
    match grantedTopic offer.advertisedTopics offer.environment entry.2 with
    | none => .refuse
    | some topic => .take (view.subscribe entry topic)

/-- An entry of a subscribe request does to the maps what the decision says. -/
theorem subscribeEntry_serves (shown : Shows hdl offer view world)
    (snapshot : Table ChannelId SubscriptionId) (entry : SubscriptionId × ChannelId) :
    BatchPolicy.Serves (Shows hdl offer) id view (subscribeDecision offer snapshot entry view)
      (subscribeEntry setup.config hdl snapshot entry world) := by
  have kept := shown
  obtain ⟨registered, rfl, rfl⟩ := shown
  unfold subscribeDecision
  by_cases skipped : (findSubscriptionBySubId snapshot entry.1).isSome ∨
      entry.2 ∉ (offerOf world).channels
  · have answer : ∃ level text, subscribeEntry setup.config hdl snapshot entry world = _ :=
      subscribeEntry_skipped skipped
    obtain ⟨level, text, answered⟩ := answer
    rw [if_pos skipped, answered]
    exact ⟨rfl, kept.enqueue hdl _⟩
  have handed : subscribeEntry setup.config hdl snapshot entry world =
      (callHandler setup.config (.subscribe entry.2 hdl) >>= fun _ =>
        updateClient hdl (ClientInfo.addSubscription entry.2 entry.1)) world :=
    subscribeEntry_eligible skipped
  have called := callHandler_subscribe setup world entry.2 hdl
  have failing (denied : (world.bridge.viewFor hdl).subscriptions entry.2 ≠ none ∨
      grantedTopic world.bridge.advertisedTopics world.bridge.environment entry.2 = none) :
      (∃ fault, (subscribeEntry setup.config hdl snapshot entry world).1 = .error fault) ∧
        Shows hdl (offerOf world) (clientView hdl world)
          (subscribeEntry setup.config hdl snapshot entry world).2 := by
    obtain ⟨⟨fault, failed⟩, same⟩ := subscribe_denied denied
    rw [failed] at called
    rw [handed, bind_error called]
    exact ⟨⟨fault, rfl⟩, kept.call _ same⟩
  rw [if_neg skipped]
  by_cases subscribed : ((clientView hdl world).subscriptions entry.2).isSome
  · rw [if_pos subscribed]
    exact failing (.inl (Option.isSome_iff_ne_none.mp subscribed))
  rw [if_neg subscribed]
  cases granted : grantedTopic (offerOf world).advertisedTopics (offerOf world).environment
      entry.2 with
  | none => exact failing (.inr granted)
  | some topic =>
    have absent : (world.bridge.viewFor hdl).subscriptions entry.2 = none :=
      Option.not_isSome_iff_eq_none.mp subscribed
    obtain ⟨returned, after⟩ := subscribe_granted absent granted
    rw [returned] at called
    obtain ⟨client, found, changed⟩ := lookup_modifyClient registered
      (ClientInfo.addSubscription entry.2 entry.1)
    have recorded : updateClient hdl (ClientInfo.addSubscription entry.2 entry.1)
        { world.recordCall (.subscribe entry.2 hdl) with
          bridge := (subscribe entry.2 hdl world.bridge).bridge } =
        (.ok (), { world.recordCall (.subscribe entry.2 hdl) with
          bridge := (subscribe entry.2 hdl world.bridge).bridge
          server :=
            world.server.modifyClient hdl (ClientInfo.addSubscription entry.2 entry.1) }) := by
      rw [updateClient_apply]
      exact if_pos registered
    rw [handed, bind_ok called, recorded]
    refine ⟨rfl, kept.take _ _ after changed rfl rfl rfl ?_⟩
    rw [clientView_of_found found]
    rfl

end Subscribe

section Unsubscribe

variable {bridge : Bridge Rest} {channelId : ChannelId}

/-- An unsubscribe call of a client that is subscribed. -/
theorem unsubscribe_granted (advertised : channelId ∈ bridge.advertisedTopics)
    (subscribed : ((bridge.viewFor hdl).subscriptions channelId).isSome) :
    (unsubscribe channelId hdl bridge).outcome = .ok () ∧
      (unsubscribe channelId hdl bridge).bridge.viewFor hdl = { bridge.viewFor hdl with
        subscriptions := Function.update (bridge.viewFor hdl).subscriptions channelId none } := by
  have listed : hdl ∈ bridge.subscriptionsByClient channelId := AList.lookup_isSome.mp subscribed
  have accepted : unsubscribe channelId hdl bridge =
      .accept { bridge with subscriptions := bridge.subscriptions.eraseInner channelId hdl } := by
    rcases unsubscribe_cases channelId hdl bridge with ⟨_, refused, _⟩ | ⟨_, same⟩
    · exact absurd ⟨advertised, listed⟩ refused
    · exact same
  rw [accepted]
  refine ⟨rfl, ?_⟩
  unfold Bridge.viewFor Reply.accept
  simp only [BridgeView.mk.injEq, and_true]
  funext other
  unfold Bridge.subscriptionsByClient
  rw [lookup_lookup_eraseInner, Function.update_apply]

/-- Any other unsubscribe call fails. -/
theorem unsubscribe_denied (denied : ¬ (channelId ∈ bridge.advertisedTopics ∧
      ((bridge.viewFor hdl).subscriptions channelId).isSome)) :
    (∃ fault, (unsubscribe channelId hdl bridge).outcome = .error fault) ∧
      (unsubscribe channelId hdl bridge).bridge = bridge := by
  rcases unsubscribe_cases channelId hdl bridge with ⟨_, _, same⟩ | ⟨⟨advertised, subscribed⟩, _⟩
  · rw [same]
    exact ⟨⟨_, rfl⟩, rfl⟩
  · exact absurd ⟨advertised, AList.lookup_isSome.mpr subscribed⟩ denied

/-- The view after a client unsubscribed from a channel. -/
def ClientView.unsubscribe (view : ClientView) (channelId : ChannelId) : ClientView :=
  { view with
    subscriptionsByChannel := view.subscriptionsByChannel.erase channelId
    subscriptions := Function.update view.subscriptions channelId none }

/-- The decision on an entry of an unsubscribe request, given the subscriptions it is
looked up in. -/
def unsubscribeDecision (offer : Offer) (snapshot : Table ChannelId SubscriptionId)
    (subId : SubscriptionId) (view : ClientView) : Decision ClientView :=
  match findSubscriptionBySubId snapshot subId with
  | none => .pass
  | some channelId =>
    if channelId ∈ offer.advertisedTopics ∧ (view.subscriptions channelId).isSome then
      .take (view.unsubscribe channelId)
    else
      .refuse

/-- An id of an unsubscribe request does to the maps what the decision says. -/
theorem unsubscribeEntry_serves (shown : Shows hdl offer view world)
    (snapshot : Table ChannelId SubscriptionId) (subId : SubscriptionId) :
    BatchPolicy.Serves (Shows hdl offer) id view (unsubscribeDecision offer snapshot subId view)
      (unsubscribeEntry setup.config hdl snapshot subId world) := by
  have kept := shown
  obtain ⟨registered, rfl, rfl⟩ := shown
  unfold unsubscribeDecision unsubscribeEntry
  cases findSubscriptionBySubId snapshot subId with
  | none =>
    dsimp only
    rw [sendStatusAndLogMsg_apply]
    exact ⟨rfl, kept.enqueue hdl _⟩
  | some channelId =>
    dsimp only
    have called := callHandler_unsubscribe setup world channelId hdl
    by_cases granted : channelId ∈ (offerOf world).advertisedTopics ∧
        ((clientView hdl world).subscriptions channelId).isSome
    · obtain ⟨returned, after⟩ := unsubscribe_granted granted.1 granted.2
      rw [returned] at called
      obtain ⟨client, found, changed⟩ := lookup_modifyClient registered
        (ClientInfo.removeSubscription channelId)
      have recorded : updateClient hdl (ClientInfo.removeSubscription channelId)
          { world.recordCall (.unsubscribe channelId hdl) with
            bridge := (unsubscribe channelId hdl world.bridge).bridge } =
          (.ok (), { world.recordCall (.unsubscribe channelId hdl) with
            bridge := (unsubscribe channelId hdl world.bridge).bridge
            server :=
              world.server.modifyClient hdl (ClientInfo.removeSubscription channelId) }) := by
        rw [updateClient_apply]
        exact if_pos registered
      rw [if_pos granted, bind_ok called, recorded]
      refine ⟨rfl, kept.take _ _ after changed rfl rfl rfl ?_⟩
      rw [clientView_of_found found]
      rfl
    · obtain ⟨⟨fault, failed⟩, same⟩ := unsubscribe_denied granted
      rw [failed] at called
      rw [if_neg granted, bind_error called]
      exact ⟨⟨fault, rfl⟩, kept.call _ (congrArg (·.viewFor hdl) same)⟩

end Unsubscribe

end CoBridge.Ros2

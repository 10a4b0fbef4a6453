import CoBridge.Properties.SubscriptionsValid
import CoBridge.Library.Transition
import CoBridge.Ros2.Effects

/-!
# Subscribe and unsubscribe requests

A subscribe request checks the ids it lists against the subscriptions from
before the request, not against each other: `DistinctEntries` is what the
request itself has to provide.
-/

namespace CoBridge

open Library Action Table

section

variable {Bridge : Type}

/-- The entries of a list up to the first that cannot be read. -/
def readable {Value : Type} (read : Json → Except Fault Value) : List Json → List Value
  | [] => []
  | item :: rest =>
    match read item with
    | .ok value => value :: readable read rest
    | .error _ => []

/-- The entries of a subscribe request that are recorded, given the channels on
offer, the subscriptions when the request began and those recorded so far. The
request ends at a channel that is subscribed already. -/
def acceptedEntries (channels : Table ChannelId Channel)
    (snapshot : Table ChannelId SubscriptionId) :
    Table ChannelId SubscriptionId → List (SubscriptionId × ChannelId) →
      List (SubscriptionId × ChannelId)
  | _, [] => []
  | live, entry :: rest =>
    if (findSubscriptionBySubId snapshot entry.1).isSome ∨ entry.2 ∉ channels then
      acceptedEntries channels snapshot live rest
    else if entry.2 ∈ live then
      []
    else
      entry :: acceptedEntries channels snapshot (live.emplace entry.2 entry.1) rest

/-- A subscribe request does not list one id twice among the entries it gets recorded. -/
def DistinctEntries (world : World Bridge) (payload : Json) (hdl : ConnHandle) : Prop :=
  ∀ client subscriptions, world.server.clients.lookup hdl = some client →
    payload.atKey "subscriptions" = .ok subscriptions →
    ((acceptedEntries world.server.channels client.subscriptionsByChannel
      client.subscriptionsByChannel
      (readable subscriptionEntry subscriptions.elements)).map Prod.fst).Nodup

section Requests

variable {config : Config Bridge} {subscribed : Bridge → ChannelId → ConnHandle → Prop}
  {retire : List ChannelId → Bridge → Bridge}

/-- The entries a request still gets recorded have distinct ids, none of them in use. -/
structure PendingDistinct (channels : Table ChannelId Channel)
    (snapshot live : Table ChannelId SubscriptionId)
    (entries : List (SubscriptionId × ChannelId)) : Prop where
  nodup : ((acceptedEntries channels snapshot live entries).map Prod.fst).Nodup
  unused : ∀ entry ∈ acceptedEntries channels snapshot live entries,
    ∀ channel, live.lookup channel ≠ some entry.1

theorem PendingDistinct.skip {channels : Table ChannelId Channel}
    {snapshot live : Table ChannelId SubscriptionId} {entry : SubscriptionId × ChannelId}
    {rest : List (SubscriptionId × ChannelId)}
    (pending : PendingDistinct channels snapshot live (entry :: rest))
    (skipped : (findSubscriptionBySubId snapshot entry.1).isSome ∨ entry.2 ∉ channels) :
    PendingDistinct channels snapshot live rest := by
  obtain ⟨nodup, unused⟩ := pending
  rw [acceptedEntries, if_pos skipped] at nodup unused
  exact ⟨nodup, unused⟩

theorem PendingDistinct.accept {channels : Table ChannelId Channel}
    {snapshot live : Table ChannelId SubscriptionId} {entry : SubscriptionId × ChannelId}
    {rest : List (SubscriptionId × ChannelId)}
    (pending : PendingDistinct channels snapshot live (entry :: rest))
    (eligible : ¬((findSubscriptionBySubId snapshot entry.1).isSome ∨ entry.2 ∉ channels))
    (absent : entry.2 ∉ live) :
    (∀ channel, live.lookup channel ≠ some entry.1) ∧
      PendingDistinct channels snapshot (live.emplace entry.2 entry.1) rest := by
  obtain ⟨nodup, unused⟩ := pending
  rw [acceptedEntries, if_neg eligible, if_neg absent] at nodup unused
  rw [List.map_cons, List.nodup_cons] at nodup
  refine ⟨unused entry List.mem_cons_self, nodup.2, ?_⟩
  intro other member channel
  rw [lookup_emplace, AList.lookup_eq_none.mpr absent, Option.getD_none]
  split
  · intro same
    exact nodup.1 (List.mem_map.mpr ⟨other, member, (Option.some.inj same).symm⟩)
  · exact unused other (List.mem_cons_of_mem _ member) channel

theorem acceptedEntries_unused {channels : Table ChannelId Channel}
    {snapshot live : Table ChannelId SubscriptionId} {entries : List (SubscriptionId × ChannelId)}
    {entry : SubscriptionId × ChannelId}
    (member : entry ∈ acceptedEntries channels snapshot live entries) :
    findSubscriptionBySubId snapshot entry.1 = none := by
  induction entries generalizing live with
  | nil => cases member
  | cons first rest ih =>
    unfold acceptedEntries at member
    split at member
    · exact ih member
    · next eligible =>
      split at member
      · cases member
      · rcases List.mem_cons.mp member with same | later
        · subst same
          simpa using (not_or.mp eligible).1
        · exact ih later

/-- The loop of a subscribe request. The induction follows the entries; what is
still to be recorded stays distinct from what is. -/
theorem subscribeLoop_valid (contract : SubscriptionContract config subscribed retire)
    {hdl : ConnHandle} {snapshot : Table ChannelId SubscriptionId} (items : List Json)
    {world : World Bridge} (valid : SubscriptionsValid subscribed world) {client : ClientInfo}
    (found : world.server.clients.lookup hdl = some client)
    (pending : PendingDistinct world.server.channels snapshot client.subscriptionsByChannel
      (readable subscriptionEntry items)) :
    SubscriptionsValid subscribed (Action.forEach items (fun sub =>
      Action.ofExcept (subscriptionEntry sub) >>= subscribeEntry config hdl snapshot) world).2 := by
  induction items generalizing world client with
  | nil => exact valid
  | cons item rest ih =>
    rw [forEach_cons]
    unfold readable at pending
    rcases read : subscriptionEntry item with fault | entry
    · exact valid
    rw [read] at pending
    have body : (Action.ofExcept (.ok entry) >>= subscribeEntry config hdl snapshot) world =
      subscribeEntry config hdl snapshot entry world := rfl
    by_cases skipped : (findSubscriptionBySubId snapshot entry.1).isSome ∨
        entry.2 ∉ world.server.channels
    · obtain ⟨level, text, answered⟩ := subscribeEntry_skipped skipped
      rw [bind_ok (body.trans answered)]
      apply ih (valid.enqueue hdl _)
      · rw [World.enqueue_server]
        exact found
      · rw [World.enqueue_server]
        exact pending.skip skipped
    have handed := body.trans (subscribeEntry_eligible skipped)
    have called := valid.afterCall contract (.subscribe entry.2 hdl)
      (fun _ _ _ impossible => nomatch impossible)
    have clients : (callHandler config (.subscribe entry.2 hdl) world).2.server.clients =
        world.server.clients := callHandler_frame Server.clients (fun _ => rfl) config _ world
    have channels : (callHandler config (.subscribe entry.2 hdl) world).2.server.channels =
        world.server.channels := callHandler_frame Server.channels (fun _ => rfl) config _ world
    have refuses := contract.refuses world entry.2 hdl
    have records := contract.records world entry.2 hdl
    rcases outcome : callHandler config (.subscribe entry.2 hdl) world with ⟨fault | _, reached⟩
    · rw [outcome] at called
      rw [bind_error (handed.trans (bind_error outcome))]
      exact called
    rw [outcome] at called clients channels refuses records
    have absent : entry.2 ∉ client.subscriptionsByChannel := fun listed =>
      refuses (valid.mirrored hdl client found entry.2 listed) rfl
    obtain ⟨fresh, remaining⟩ := pending.accept skipped absent
    rw [← clients] at found
    have updated : updateClient hdl (ClientInfo.addSubscription entry.2 entry.1) reached =
        (.ok (), { reached with
          server := reached.server.modifyClient hdl
            (ClientInfo.addSubscription entry.2 entry.1) }) := by
      rw [updateClient_apply, if_pos (mem_of_lookup found)]
    rw [bind_ok (handed.trans ((bind_ok outcome).trans updated))]
    apply ih (called.addSubscription found fresh absent (records rfl))
    · change (reached.server.clients.modify hdl _).lookup hdl = _
      rw [lookup_modify, if_pos rfl, found, Option.map_some]
    · change PendingDistinct reached.server.channels snapshot _ _
      rw [channels]
      exact remaining

theorem handleSubscribe_valid (contract : SubscriptionContract config subscribed retire)
    {world : World Bridge} (valid : SubscriptionsValid subscribed world) {payload : Json}
    {hdl : ConnHandle} (distinct : DistinctEntries world payload hdl) :
    SubscriptionsValid subscribed (handleSubscribe config payload hdl world).2 := by
  unfold handleSubscribe
  rcases found : world.server.clients.lookup hdl with _ | client
  · rw [bind_error (by rw [clientAt_apply, found])]
    exact valid
  rw [bind_ok (by rw [clientAt_apply, found])]
  rcases listed : payload.atKey "subscriptions" with fault | subscriptions
  · exact valid
  apply subscribeLoop_valid contract _ valid found
  refine ⟨distinct client subscriptions found listed, ?_⟩
  intro entry member
  rw [← findSubscriptionBySubId_eq_none]
  exact acceptedEntries_unused member

/-- The loop of an unsubscribe request. -/
theorem handleUnsubscribe_valid (contract : SubscriptionContract config subscribed retire)
    {world : World Bridge} (valid : SubscriptionsValid subscribed world) (payload : Json)
    (hdl : ConnHandle) :
    SubscriptionsValid subscribed (handleUnsubscribe config payload hdl world).2 := by
  have serves : ∀ subscriptionsByChannel subId,
      (unsubscribeEntry config hdl subscriptionsByChannel subId).Meets
        (.invariant (SubscriptionsValid subscribed)) := by
    intro subscriptionsByChannel subId
    unfold unsubscribeEntry
    split
    · intro reached validReached
      rw [sendStatusAndLogMsg_apply]
      exact validReached.enqueue hdl _
    · intro reached validReached
      exact validReached.removeSubscription contract hdl _
  exact handleUnsubscribe_meets serves payload world valid

end Requests

end

/-!
## Subscription ids

Over any sequence of requests, logins, disconnects and changes to the channels,
the subscription ids of a client stay unique as long as no subscribe request
gets one id recorded twice.
-/

variable {Bridge : Type}

inductive SubscriptionEvent where
  | login (payload : Json) (hdl : ConnHandle)
  | subscribe (payload : Json) (hdl : ConnHandle)
  | unsubscribe (payload : Json) (hdl : ConnHandle)
  | closed (hdl : ConnHandle)
  | addChannels (channels : List ChannelWithoutId)
  | removeChannels (channelIds : List ChannelId)
  | transport (hdl : ConnHandle) (link : Link)

def subscriptionStep (config : Config Bridge) (retire : List ChannelId → Bridge → Bridge)
    (world : World Bridge) : SubscriptionEvent → World Bridge
  | .login payload hdl => (handleLogin config payload hdl world).2
  | .subscribe payload hdl => (handleSubscribe config payload hdl world).2
  | .unsubscribe payload hdl => (handleUnsubscribe config payload hdl world).2
  | .closed hdl => (handleConnectionClosed config hdl world).2
  | .addChannels channels => (addChannels config.dump channels world).2
  | .removeChannels channelIds =>
    (removeChannels channelIds { world with bridge := retire channelIds world.bridge }).2
  | .transport hdl link => world.setLink hdl link

def subscriptionSystem (config : Config Bridge) (retire : List ChannelId → Bridge → Bridge) :
    TransitionSystem (World Bridge) SubscriptionEvent where
  Initial world := world.server = .initial
  Step world event next := next = subscriptionStep config retire world event

/-- Subscribe requests do not get one id recorded twice. -/
def DistinctAccepted (world : World Bridge) : SubscriptionEvent → Prop
  | .subscribe payload hdl => DistinctEntries world payload hdl
  | _ => True

section Steps

variable {config : Config Bridge} {subscribed : Bridge → ChannelId → ConnHandle → Prop}
  {retire : List ChannelId → Bridge → Bridge}
variable {world : World Bridge}

theorem handleLogin_valid (valid : SubscriptionsValid subscribed world) (payload : Json)
    (hdl : ConnHandle) :
    SubscriptionsValid subscribed (handleLogin config payload hdl world).2 := by
  obtain ⟨outcome, _, bridge, _⟩ := handleLogin_outcome config payload hdl world
  have records (other : ConnHandle) (record : ClientInfo)
      (found : (handleLogin config payload hdl world).2.server.clients.lookup other = some record) :
      record.subscriptionsByChannel = ∅ ∨
        ∃ before, world.server.clients.lookup other = some before ∧
        record.subscriptionsByChannel = before.subscriptionsByChannel := by
    rcases outcome.lookup other with ⟨before, login, foundBefore, after⟩ |
      ⟨_, missing | ⟨_, _, _, _, fresh⟩⟩
    · rw [after] at found
      cases found
      exact .inr ⟨before, foundBefore, rfl⟩
    · rw [missing] at found
      cases found
    · rw [fresh] at found
      cases found
      exact .inl rfl
  constructor
  · intro other record found channel second subId atChannel atSecond
    rcases records other record found with empty | ⟨before, foundBefore, same⟩
    · rw [empty] at atChannel
      cases atChannel
    · rw [same] at atChannel atSecond
      exact valid.unique other before foundBefore channel second subId atChannel atSecond
  · intro other record found channel member
    rw [bridge]
    rcases records other record found with empty | ⟨before, foundBefore, same⟩
    · rw [empty] at member
      exact absurd member (AList.notMem_empty _)
    · rw [same] at member
      exact valid.mirrored other before foundBefore channel member

/-- A disconnect ends subscriptions of its own connection only, which is no
longer registered by then. -/
theorem handleConnectionClosed_valid (contract : SubscriptionContract config subscribed retire)
    {world : World Bridge} (valid : SubscriptionsValid subscribed world) (hdl : ConnHandle) :
    SubscriptionsValid subscribed (handleConnectionClosed config hdl world).2 := by
  rcases found : world.server.clients.lookup hdl with _ | client
  · rw [handleConnectionClosed_of_none found]
    exact valid
  let promise : Guarantee (World Bridge) :=
    .invariant fun world => SubscriptionsValid subscribed world ∧ hdl ∉ world.server.clients
  have called (call : HandlerCall) (own : ∀ channel other, call = .unsubscribe channel other →
      other = hdl) : (callHandler config call).Meets promise := by
    rintro reached ⟨validReached, absent⟩
    refine ⟨validReached.afterCall contract call ?_, ?_⟩
    · intro channel other record same foundRecord
      rw [own channel other same] at foundRecord
      exact absurd (mem_of_lookup foundRecord) absent
    · rwa [show (callHandler config call reached).2.server.clients = reached.server.clients from
        callHandler_frame Server.clients (fun _ => rfl) config call reached]
  have status (level : StatusLevel) (text : String) :
      (sendStatusAndLogMsg hdl level text : ServerAction Bridge Unit).Meets promise := by
    rintro reached ⟨validReached, absent⟩
    rw [sendStatusAndLogMsg_apply]
    exact ⟨validReached.enqueue hdl _, by rwa [World.enqueue_server]⟩
  have kept (update : Server → Server)
      (clients : ∀ server, (update server).clients = server.clients) :
      (modifyServer update : ServerAction Bridge Unit).Meets promise := by
    rintro reached ⟨validReached, absent⟩
    exact ⟨validReached.congr (clients reached.server) rfl, by
      change hdl ∉ (update reached.server).clients
      rwa [clients]⟩
  have released : (releaseClient config hdl client).Meets promise :=
    releaseClient_meets (fun _ _ => called _ nofun)
      (fun _ _ => called _ fun _ _ same => by cases same; rfl) (fun _ => called _ nofun) status
      (kept _ fun _ => rfl) (kept _ fun _ => rfl)
  have graph : (releaseConnectionGraph config).Meets promise :=
    releaseConnectionGraph_meets (fun _ => kept _ fun _ => rfl) (called _ nofun)
  have erased : SubscriptionsValid subscribed
      { world with server := world.server.eraseClient hdl } := by
    apply valid.shrink
    · intro other record foundRecord
      change (world.server.clients.erase hdl).lookup other = _ at foundRecord
      rw [lookup_erase_ite] at foundRecord
      split at foundRecord
      · cases foundRecord
      · exact ⟨record, foundRecord, fun _ _ => id⟩
    · exact fun _ _ _ _ _ => id
  exact (handleConnectionClosed_meets found released graph
    ⟨erased, by simp [Server.eraseClient]⟩).1

theorem addChannels_valid (check : TextCheck) (channels : List ChannelWithoutId) :
    (addChannels check channels : ServerAction Bridge _).Meets
      (.invariant (SubscriptionsValid subscribed)) := by
  refine addChannels_meets check channels (fun world valid => ?_) fun message world valid => ?_
  · exact valid.congr (Server.registerChannels_clients channels world.server) rfl
  · rw [broadcast_apply]
    exact valid.congr (by rw [World.enqueueAll_server]) (World.enqueueAll_bridge _ _ _)

theorem removeChannels_valid (contract : SubscriptionContract config subscribed retire)
    {world : World Bridge} (valid : SubscriptionsValid subscribed world)
    (channelIds : List ChannelId) :
    SubscriptionsValid subscribed
      (removeChannels channelIds { world with bridge := retire channelIds world.bridge }).2 := by
  by_cases some : channelIds = []
  · subst some
    apply valid.shrink
    · exact fun _ record found => ⟨record, found, fun _ _ => id⟩
    · intro hdl _ channel _ _ known
      exact contract.retires [] world.bridge channel hdl known List.not_mem_nil
  · rw [removeChannels_apply some]
    have lookups (hdl : ConnHandle) (record : ClientInfo)
        (found : ((world.server.eraseChannels channelIds).dropChannels channelIds).clients.lookup
          hdl = .some record) : ∃ before, world.server.clients.lookup hdl = .some before ∧
            record = before.dropChannels channelIds := by
      unfold Server.dropChannels at found
      rw [lookup_mapWithKey] at found
      obtain ⟨before, foundBefore, rfl⟩ := Option.map_eq_some_iff.mp found
      exact ⟨before, foundBefore, rfl⟩
    apply valid.shrink
    · intro hdl record found
      rw [World.enqueueAll_server] at found
      obtain ⟨before, foundBefore, rfl⟩ := lookups hdl record found
      refine ⟨before, foundBefore, fun channel subId stored => ?_⟩
      unfold ClientInfo.dropChannels at stored
      rw [lookup_eraseAll] at stored
      split at stored
      · cases stored
      · exact stored
    · intro hdl record channel found member known
      rw [World.enqueueAll_server] at found
      obtain ⟨before, _, rfl⟩ := lookups hdl record found
      rw [World.enqueueAll_bridge]
      exact contract.retires channelIds world.bridge channel hdl known
        ((mem_eraseAll _ _ _).mp member).1

theorem subscriptionStep_valid (contract : SubscriptionContract config subscribed retire)
    {world : World Bridge} (valid : SubscriptionsValid subscribed world)
    {event : SubscriptionEvent} (distinct : DistinctAccepted world event) :
    SubscriptionsValid subscribed (subscriptionStep config retire world event) := by
  cases event with
  | login payload hdl => exact handleLogin_valid valid payload hdl
  | subscribe payload hdl => exact handleSubscribe_valid contract valid distinct
  | unsubscribe payload hdl => exact handleUnsubscribe_valid contract valid payload hdl
  | closed hdl => exact handleConnectionClosed_valid contract valid hdl
  | addChannels channels => exact addChannels_valid config.dump channels world valid
  | removeChannels channelIds => exact removeChannels_valid contract valid channelIds
  | transport hdl link => exact valid.congr rfl rfl

end Steps

/-- In every run whose subscribe requests do not get one id recorded twice, the
subscription ids of every client are unique in every state reached. -/
theorem uniqueIds_of_distinctAccepted {config : Config Bridge}
    {subscribed : Bridge → ChannelId → ConnHandle → Prop}
    {retire : List ChannelId → Bridge → Bridge}
    (contract : SubscriptionContract config subscribed retire) {events : List SubscriptionEvent}
    {world : World Bridge}
    (run : (subscriptionSystem config retire).GuardedRun DistinctAccepted events world) :
    world.server.UniqueIds := by
  have valid : SubscriptionsValid subscribed world := by
    refine run.invariant ?_ ?_
    · intro initial server
      constructor
      · intro hdl client found
        rw [show initial.server = .initial from server] at found
        cases found
      · intro hdl client found
        rw [show initial.server = .initial from server] at found
        cases found
    · rintro reached event next valid distinct rfl
      exact subscriptionStep_valid contract valid distinct
  exact valid.unique

/-- The ROS 2 bridge fulfils the handlers' part. -/
theorem Ros2.subscriptionContract {Rest : Type} (setup : Ros2.Setup Rest) :
    SubscriptionContract setup.config Ros2.Bridge.Subscribed Ros2.Bridge.retire where
  refuses world channel hdl subscribed := by
    rw [Ros2.callHandler_subscribe]
    exact Ros2.subscribe_refuses subscribed
  records world channel hdl returned := by
    rw [Ros2.callHandler_subscribe] at returned ⊢
    exact (Ros2.subscribed_subscribe _ _ _ _ _).mpr (.inr ⟨returned, rfl, rfl⟩)
  keeps call world channel hdl subscribed ends := by
    rcases registered : setup.config.handlers.resolve call with _ | handler
    · rwa [callHandler_of_none registered]
    · rw [callHandler_bridge registered, Ros2.resolve_subscribed registered]
      refine .inl ⟨subscribed, ?_⟩
      rintro ⟨rfl, returned⟩
      cases Option.some.inj registered
      apply ends rfl
      rwa [Ros2.callHandler_unsubscribe]
  retires channelIds bridge channel hdl subscribed kept :=
    (Ros2.subscribed_retire _ _ _ _).mpr ⟨subscribed, kept⟩

def idsSetup : Ros2.Setup Unit := .open [] fun _ => .ok .null

/-- A ROS 2 bridge that advertises two channels. -/
def twoChannels : Ros2.Bridge Unit :=
  (Ros2.Bridge.initial .quiet ()).advertise
    [(1, ⟨"/a", "", "demo/msg/T", "", none⟩), (2, ⟨"/b", "", "demo/msg/T", "", none⟩)]

/-- The state after a list of events over that bridge. -/
def idsRun (events : List SubscriptionEvent) : World (Ros2.Bridge Unit) :=
  events.foldl (subscriptionStep idsSetup.config Ros2.Bridge.retire) (World.initial twoChannels)

def offeredChannels : List ChannelWithoutId :=
  [⟨"/a", "", "demo/msg/T", "", none⟩, ⟨"/b", "", "demo/msg/T", "", none⟩]

/-- A client logs in while two channels are on offer. -/
def clientWithChannels : List SubscriptionEvent :=
  [.addChannels offeredChannels, .login loginPayload ⟨1⟩]

/-- Two subscriptions with different ids. -/
theorem uniqueIds_two_channels :
    (idsRun (clientWithChannels ++
      [.subscribe (subscribePayload [(7, 1), (8, 2)]) ⟨1⟩])).server.UniqueIds := by
  let system := subscriptionSystem idsSetup.config Ros2.Bridge.retire
  have started : system.GuardedRun DistinctAccepted [] (idsRun []) := .initial rfl
  have offered : system.GuardedRun DistinctAccepted [.addChannels offeredChannels]
      (idsRun [.addChannels offeredChannels]) := .step started trivial rfl
  have loggedIn : system.GuardedRun DistinctAccepted clientWithChannels
      (idsRun clientWithChannels) := .step offered trivial rfl
  have admitted : DistinctAccepted (idsRun clientWithChannels)
      (.subscribe (subscribePayload [(7, 1), (8, 2)]) ⟨1⟩) := by
    intro client subscriptions found listed
    have empty : client.subscriptionsByChannel = ∅ := by
      cases found
      rfl
    cases listed
    rw [empty]
    decide +kernel
  exact uniqueIds_of_distinctAccepted (Ros2.subscriptionContract idsSetup)
    (.step loggedIn admitted rfl)

theorem idsRun_run (events : List SubscriptionEvent) :
    (subscriptionSystem idsSetup.config Ros2.Bridge.retire).Run events (idsRun events) := by
  apply TransitionSystem.run_foldl
  · exact fun _ _ => rfl
  · rfl

/-- One request with one id for two channels: both are recorded under it. -/
theorem uniqueIds_repeated_id :
    ∃ events world, (subscriptionSystem idsSetup.config Ros2.Bridge.retire).Run events world ∧
      ¬world.server.UniqueIds := by
  refine ⟨clientWithChannels ++ [.subscribe (subscribePayload [(7, 1), (7, 2)]) ⟨1⟩], _,
    idsRun_run _, fun unique => ?_⟩
  have first : (idsRun (clientWithChannels ++ [.subscribe (subscribePayload [(7, 1), (7, 2)])
      ⟨1⟩])).server.subscriptionId? ⟨1⟩ 1 = some 7 := by decide +kernel
  have second : (idsRun (clientWithChannels ++ [.subscribe (subscribePayload [(7, 1), (7, 2)])
      ⟨1⟩])).server.subscriptionId? ⟨1⟩ 2 = some 7 := by decide +kernel
  exact absurd (unique.channel_eq first second) (by decide)

end CoBridge

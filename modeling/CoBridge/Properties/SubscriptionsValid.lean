import CoBridge.Server.OperationEffects

/-!
# Subscriptions the bridge knows

A data frame names its channel by the client's subscription id, so no two
channels of a client may share one. That depends on the bridge, which refuses to
subscribe a client twice: what the server records has to be a subscription in
the bridge. `SubscriptionsValid` is both facts together, and the lemmas here say
which changes keep it.
-/

namespace CoBridge

open Library Table

variable {Bridge : Type}

/-- No two channels of a client share a subscription id. -/
def Server.UniqueIds (server : Server) : Prop :=
  ∀ hdl client, server.clients.lookup hdl = some client → ∀ channel other subId,
    client.subscriptionsByChannel.lookup channel = some subId →
    client.subscriptionsByChannel.lookup other = some subId → channel = other

/-- The id under which a client is subscribed to a channel. -/
def Server.subscriptionId? (server : Server) (hdl : ConnHandle) (channel : ChannelId) :
    Option SubscriptionId :=
  (server.clients.lookup hdl).bind fun client => client.subscriptionsByChannel.lookup channel

theorem Server.UniqueIds.channel_eq {server : Server} (unique : server.UniqueIds)
    {hdl : ConnHandle} {channel other : ChannelId} {subId : SubscriptionId}
    (first : server.subscriptionId? hdl channel = some subId)
    (second : server.subscriptionId? hdl other = some subId) : channel = other := by
  obtain ⟨client, found, stored⟩ := Option.bind_eq_some_iff.mp first
  obtain ⟨same, foundSame, storedOther⟩ := Option.bind_eq_some_iff.mp second
  cases found.symm.trans foundSame
  exact unique hdl client found channel other subId stored storedOther

/-- The handlers' part: a bridge with a notion of being subscribed refuses a
channel the client is subscribed to, and forgets a subscription only when it is
ended. `retire` is what the bridge does with channels that are removed. -/
structure SubscriptionContract (config : Config Bridge)
    (subscribed : Bridge → ChannelId → ConnHandle → Prop)
    (retire : List ChannelId → Bridge → Bridge) : Prop where
  refuses : ∀ world channel hdl, subscribed world.bridge channel hdl →
    (callHandler config (.subscribe channel hdl) world).1 ≠ .ok ()
  records : ∀ world channel hdl, (callHandler config (.subscribe channel hdl) world).1 = .ok () →
    subscribed (callHandler config (.subscribe channel hdl) world).2.bridge channel hdl
  keeps : ∀ call world channel hdl, subscribed world.bridge channel hdl →
    (call = .unsubscribe channel hdl → (callHandler config call world).1 ≠ .ok ()) →
    subscribed (callHandler config call world).2.bridge channel hdl
  retires : ∀ channelIds bridge channel hdl, subscribed bridge channel hdl →
    channel ∉ channelIds → subscribed (retire channelIds bridge) channel hdl

/-- Every subscription the server records is one in the bridge. -/
def Mirrored (subscribed : Bridge → ChannelId → ConnHandle → Prop) (world : World Bridge) : Prop :=
  ∀ hdl client, world.server.clients.lookup hdl = some client →
    ∀ channel ∈ client.subscriptionsByChannel, subscribed world.bridge channel hdl

theorem findSubscriptionBySubId_eq_none (subscriptions : Table ChannelId SubscriptionId)
    (subId : SubscriptionId) :
    findSubscriptionBySubId subscriptions subId = none ↔
      ∀ channel, subscriptions.lookup channel ≠ some subId := by
  unfold findSubscriptionBySubId
  rw [Option.map_eq_none_iff, List.find?_eq_none]
  constructor
  · intro absent channel found
    exact absent _ (AList.mem_lookup_iff.mp found) (by simp)
  · rintro absent ⟨channel, stored⟩ member same
    have equal : stored = subId := by simpa using same
    exact absent channel (equal ▸ AList.mem_lookup_iff.mpr member)

/-- What every step keeps: ids are unique and the bridge knows the subscriptions. -/
structure SubscriptionsValid (subscribed : Bridge → ChannelId → ConnHandle → Prop)
    (world : World Bridge) : Prop where
  unique : world.server.UniqueIds
  mirrored : Mirrored subscribed world

section Steps

variable {config : Config Bridge} {subscribed : Bridge → ChannelId → ConnHandle → Prop}
  {retire : List ChannelId → Bridge → Bridge}
variable {world : World Bridge}

/-- Validity depends on the clients and the bridge only. -/
theorem SubscriptionsValid.congr {next : World Bridge} (valid : SubscriptionsValid subscribed world)
    (clients : next.server.clients = world.server.clients) (bridge : next.bridge = world.bridge) :
    SubscriptionsValid subscribed next := by
  constructor
  · unfold Server.UniqueIds
    rw [clients]
    exact valid.unique
  · unfold Mirrored
    rw [clients, bridge]
    exact valid.mirrored

/-- Clients may lose subscriptions, as long as the bridge keeps the others. -/
theorem SubscriptionsValid.shrink {next : World Bridge}
    (valid : SubscriptionsValid subscribed world)
    (fewer : ∀ hdl client, next.server.clients.lookup hdl = some client →
      ∃ before, world.server.clients.lookup hdl = some before ∧
        ∀ channel subId, client.subscriptionsByChannel.lookup channel = some subId →
          before.subscriptionsByChannel.lookup channel = some subId)
    (kept : ∀ hdl client channel, next.server.clients.lookup hdl = some client →
      channel ∈ client.subscriptionsByChannel → subscribed world.bridge channel hdl →
      subscribed next.bridge channel hdl) : SubscriptionsValid subscribed next := by
  constructor
  · intro hdl client found channel other subId first second
    obtain ⟨before, foundBefore, lookups⟩ := fewer hdl client found
    exact valid.unique hdl before foundBefore channel other subId (lookups _ _ first)
      (lookups _ _ second)
  · intro hdl client found channel member
    obtain ⟨before, foundBefore, lookups⟩ := fewer hdl client found
    obtain ⟨subId, stored⟩ := (mem_iff_lookup channel _).mp member
    exact kept hdl client channel found member
      (valid.mirrored hdl before foundBefore channel (mem_of_lookup (lookups _ _ stored)))

/-- A handler call that ends no recorded subscription keeps validity. -/
theorem SubscriptionsValid.afterCall (contract : SubscriptionContract config subscribed retire)
    {world : World Bridge} (valid : SubscriptionsValid subscribed world) (call : HandlerCall)
    (ends : ∀ channel hdl client, call = .unsubscribe channel hdl →
      world.server.clients.lookup hdl = some client → channel ∈ client.subscriptionsByChannel →
      (callHandler config call world).1 ≠ .ok ()) :
    SubscriptionsValid subscribed (callHandler config call world).2 := by
  have clients : (callHandler config call world).2.server.clients =
      world.server.clients := callHandler_frame Server.clients (fun _ => rfl) config call world
  apply valid.shrink
  · intro hdl client found
    rw [clients] at found
    exact ⟨client, found, fun _ _ => id⟩
  · intro hdl client channel found member known
    rw [clients] at found
    exact contract.keeps call world channel hdl known fun same =>
      ends channel hdl client same found member

/-- Recording a fresh id for a channel the bridge accepted keeps validity. -/
theorem SubscriptionsValid.addSubscription (valid : SubscriptionsValid subscribed world)
    {hdl : ConnHandle} {client : ClientInfo} (found : world.server.clients.lookup hdl = some client)
    {channel : ChannelId} {subId : SubscriptionId}
    (fresh : ∀ other, client.subscriptionsByChannel.lookup other ≠ some subId)
    (absent : channel ∉ client.subscriptionsByChannel)
    (accepted : subscribed world.bridge channel hdl) :
    SubscriptionsValid subscribed { world with
      server := world.server.modifyClient hdl (ClientInfo.addSubscription channel subId) } := by
  have lookups (other : ConnHandle) : (world.server.modifyClient hdl
      (ClientInfo.addSubscription channel subId)).clients.lookup other =
        if other = hdl then some (client.addSubscription channel subId)
        else world.server.clients.lookup other := by
    unfold Server.modifyClient
    rw [lookup_modify, found, Option.map_some]
  have stored (other : ChannelId) :
      (client.addSubscription channel subId).subscriptionsByChannel.lookup other =
        if other = channel then some subId else client.subscriptionsByChannel.lookup other := by
    unfold ClientInfo.addSubscription
    rw [lookup_emplace, AList.lookup_eq_none.mpr absent, Option.getD_none]
  constructor
  · intro owner record foundRecord first second id atFirst atSecond
    rw [lookups] at foundRecord
    by_cases same : owner = hdl
    · rw [if_pos same] at foundRecord
      cases foundRecord
      rw [stored] at atFirst atSecond
      -- The new id is on no other channel, the others are as before.
      by_cases firstNew : first = channel <;> by_cases secondNew : second = channel
      · exact firstNew.trans secondNew.symm
      · rw [if_pos firstNew] at atFirst
        rw [if_neg secondNew, ← atFirst] at atSecond
        exact absurd atSecond (fresh second)
      · rw [if_pos secondNew] at atSecond
        rw [if_neg firstNew, ← atSecond] at atFirst
        exact absurd atFirst (fresh first)
      · rw [if_neg firstNew] at atFirst
        rw [if_neg secondNew] at atSecond
        exact valid.unique hdl client found first second id atFirst atSecond
    · rw [if_neg same] at foundRecord
      exact valid.unique owner record foundRecord first second id atFirst atSecond
  · intro owner record foundRecord other member
    rw [lookups] at foundRecord
    by_cases same : owner = hdl
    · rw [if_pos same] at foundRecord
      cases foundRecord
      subst same
      rcases (mem_emplace channel other subId _).mp member with new | old
      · rw [new]
        exact accepted
      · exact valid.mirrored owner client found other old
    · rw [if_neg same] at foundRecord
      exact valid.mirrored owner record foundRecord other member

theorem SubscriptionsValid.enqueue (valid : SubscriptionsValid subscribed world) (hdl : ConnHandle)
    (message : ServerMessage) :
    SubscriptionsValid subscribed (world.enqueue hdl message) :=
  valid.congr (by rw [World.enqueue_server]) (World.enqueue_bridge world hdl message)

theorem SubscriptionsValid.removeSubscription
    (contract : SubscriptionContract config subscribed retire) {world : World Bridge}
    (valid : SubscriptionsValid subscribed world) (hdl : ConnHandle) (channel : ChannelId) :
    SubscriptionsValid subscribed ((callHandler config (.unsubscribe channel hdl) >>= fun _ =>
      updateClient hdl (ClientInfo.removeSubscription channel)) world).2 := by
  have clients : (callHandler config (.unsubscribe channel hdl) world).2.server.clients =
      world.server.clients := callHandler_frame Server.clients (fun _ => rfl) config _ world
  have keeps := contract.keeps (.unsubscribe channel hdl) world
  have failing := valid.afterCall contract (.unsubscribe channel hdl)
  rcases outcome : callHandler config (.unsubscribe channel hdl) world with
    ⟨fault | _, reached⟩
  · rw [outcome] at failing
    rw [Action.bind_error outcome]
    exact failing fun _ _ _ _ _ _ => nofun
  rw [outcome] at clients keeps failing
  rw [Action.bind_ok outcome, updateClient_apply]
  split
  · -- The subscription that the bridge ended is the one that is erased.
    apply valid.shrink
    · intro other record foundRecord
      change (reached.server.clients.modify hdl _).lookup other = _ at foundRecord
      rw [clients, lookup_modify] at foundRecord
      by_cases same : other = hdl
      · subst same
        rw [if_pos rfl] at foundRecord
        obtain ⟨before, found, rfl⟩ := Option.map_eq_some_iff.mp foundRecord
        refine ⟨before, found, fun stored subId atStored => ?_⟩
        unfold ClientInfo.removeSubscription at atStored
        rw [lookup_erase_ite] at atStored
        split at atStored
        · cases atStored
        · exact atStored
      · rw [if_neg same] at foundRecord
        exact ⟨record, foundRecord, fun _ _ => id⟩
    · intro other record stored foundRecord member known
      change (reached.server.clients.modify hdl _).lookup other = _ at foundRecord
      refine keeps stored other known fun same => ?_
      cases same
      rw [lookup_modify, if_pos rfl] at foundRecord
      obtain ⟨before, _, rfl⟩ := Option.map_eq_some_iff.mp foundRecord
      exact absurd member (by simp [ClientInfo.removeSubscription])
  · next missing =>
    rw [clients] at missing
    apply failing
    intro _ other client same found
    cases same
    exact absurd (mem_of_lookup found) missing

end Steps

end CoBridge

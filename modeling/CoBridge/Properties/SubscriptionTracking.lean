import CoBridge.Ros2.Sections

/-!
# The subscriptions the server records

`Server.Records` is the relation the clients' subscription tables stand for, with
what each change of the tables does to it.
-/

namespace CoBridge

open Library Table

/-- The client is registered and its record lists the channel. -/
def Server.Records (server : Server) (hdl : ConnHandle) (channelId : ChannelId) : Prop :=
  ∃ client, server.clients.lookup hdl = some client ∧ channelId ∈ client.subscriptionsByChannel

namespace Server

variable {server : Server} {hdl other : ConnHandle} {channelId channel : ChannelId}

theorem records_congr {next : Server} (clients : next.clients = server.clients) :
    next.Records hdl channelId ↔ server.Records hdl channelId := by
  unfold Records
  rw [clients]

/-- A change of one client's record that keeps or replaces its subscriptions. -/
theorem records_modifyClient {change : ClientInfo → ClientInfo} :
    (server.modifyClient hdl change).Records other channel ↔
      ∃ client, server.clients.lookup other = some client ∧
        channel ∈ (if other = hdl then change client else client).subscriptionsByChannel := by
  unfold Records modifyClient
  rw [lookup_modify]
  split
  · subst other
    simp
  · rfl

theorem records_addSubscription {subId : SubscriptionId} :
    (server.modifyClient hdl (ClientInfo.addSubscription channelId subId)).Records other channel ↔
      server.Records other channel ∨
        (hdl ∈ server.clients ∧ other = hdl ∧ channel = channelId) := by
  rw [records_modifyClient]
  unfold Records ClientInfo.addSubscription
  by_cases same : other = hdl
  · subst other
    simp only [if_pos, mem_emplace, mem_iff_lookup hdl]
    grind
  · simp [same]

theorem records_removeSubscription :
    (server.modifyClient hdl (ClientInfo.removeSubscription channelId)).Records other channel ↔
      server.Records other channel ∧ ¬(other = hdl ∧ channel = channelId) := by
  rw [records_modifyClient]
  unfold Records ClientInfo.removeSubscription
  by_cases same : other = hdl
  · subst other
    simp only [if_pos, AList.mem_erase, true_and]
    grind
  · simp [same]

theorem records_dropChannels {channelIds : List ChannelId} :
    (server.dropChannels channelIds).Records hdl channelId ↔
      server.Records hdl channelId ∧ channelId ∉ channelIds := by
  unfold Records dropChannels
  rw [lookup_mapWithKey]
  simp only [Option.map_eq_some_iff, ClientInfo.dropChannels]
  constructor
  · rintro ⟨_, ⟨client, found, rfl⟩, member⟩
    rw [mem_eraseAll] at member
    exact ⟨⟨client, found, member.2⟩, member.1⟩
  · rintro ⟨⟨client, found, member⟩, kept⟩
    exact ⟨_, ⟨client, found, rfl⟩, (mem_eraseAll _ _ _).mpr ⟨kept, member⟩⟩

theorem records_eraseClient :
    (server.eraseClient hdl).Records other channelId ↔
      server.Records other channelId ∧ other ≠ hdl := by
  unfold Records eraseClient
  rw [lookup_erase_ite]
  by_cases same : other = hdl <;> simp [same]

end Server

/-- A login keeps what is recorded. -/
theorem LoginOutcome.records {hdl other : ConnHandle} {before after : Server}
    {channelId : ChannelId} (outcome : LoginOutcome hdl before after) :
    after.Records other channelId ↔ before.Records other channelId := by
  unfold Server.Records
  rcases outcome.lookup other with ⟨client, login, found, foundAfter⟩ |
    ⟨missing, missingAfter | ⟨_, endpoint, userName, userId, fresh⟩⟩
  · rw [found, foundAfter]
    simp
  · rw [missing, missingAfter]
  · rw [missing, fresh]
    simp [ClientInfo.fresh]

end CoBridge

/-!
## What the two threads promise each other

`Tracked` says that the server records the ROS subscriptions the bridge holds.
While the callback worker is between the two layers some pairs are excepted; the
poll thread keeps `Tracked` whatever the exceptions are (`PollKeeps`), and relies
on the worker not to subscribe while it holds the mutex (`CallbacksKeep`).
-/

namespace CoBridge.Ros2

open Library

variable {Rest : Type}
variable {first second third : World (Bridge Rest) × Progress} {world : World (Bridge Rest)}

/-- Every ROS subscription that is not excepted is recorded by the server, and
all are to advertised channels. -/
structure Tracked (excepted : ChannelId → ConnHandle → Prop) (world : World (Bridge Rest)) :
    Prop where
  recorded : ∀ channelId hdl, world.bridge.Subscribed channelId hdl →
    excepted channelId hdl ∨ world.server.Records hdl channelId
  advertised : ∀ channelId hdl, world.bridge.Subscribed channelId hdl →
    channelId ∈ world.bridge.advertisedTopics

/-- What the poll thread does, as far as the worker can tell. -/
structure PollKeeps (before after : World (Bridge Rest) × Progress) : Prop where
  clients : ∀ hdl, hdl ∈ after.1.server.clients ↔ hdl ∈ before.1.server.clients
  subscribed : ∀ channelId hdl, after.1.bridge.Subscribed channelId hdl →
    before.1.bridge.Subscribed channelId hdl ∧
      (channelId ∈ before.1.bridge.advertisedTopics → channelId ∈ after.1.bridge.advertisedTopics) ∧
      (before.1.server.Records hdl channelId → after.1.server.Records hdl channelId)

/-- What the worker does, as far as the poll thread can tell. -/
structure CallbacksKeep (before after : World (Bridge Rest) × Progress) : Prop where
  locked : after.2.subscriptionsLocked = before.2.subscriptionsLocked
  subscribed : before.2.subscriptionsLocked = true → ∀ channelId hdl,
    after.1.bridge.Subscribed channelId hdl → before.1.bridge.Subscribed channelId hdl

theorem PollKeeps.refl (shared : World (Bridge Rest) × Progress) : PollKeeps shared shared :=
  ⟨fun _ => Iff.rfl, fun _ _ subscribed => ⟨subscribed, id, id⟩⟩

theorem PollKeeps.trans (left : PollKeeps first second) (right : PollKeeps second third) :
    PollKeeps first third where
  clients hdl := (right.clients hdl).trans (left.clients hdl)
  subscribed channelId hdl subscribed := by
    obtain ⟨middle, advertises, records⟩ := right.subscribed channelId hdl subscribed
    obtain ⟨start, advertised, recorded⟩ := left.subscribed channelId hdl middle
    exact ⟨start, advertises ∘ advertised, records ∘ recorded⟩

theorem CallbacksKeep.refl (shared : World (Bridge Rest) × Progress) :
    CallbacksKeep shared shared :=
  ⟨rfl, fun _ _ _ => id⟩

theorem CallbacksKeep.trans (left : CallbacksKeep first second)
    (right : CallbacksKeep second third) :
    CallbacksKeep first third where
  locked := right.locked.trans left.locked
  subscribed held channelId hdl subscribed :=
    left.subscribed held channelId hdl
      (right.subscribed (left.locked.trans held) channelId hdl subscribed)

/-- What the subscriptions of both layers depend on. -/
def subscriptionView (world : World (Bridge Rest)) : Table ConnHandle ClientInfo ×
    Table ChannelId ChannelWithoutId × Table ChannelId (Table ConnHandle TopicAndDatatype) :=
  (world.server.clients, world.bridge.channelTables)

section View

variable {world next : World (Bridge Rest)} (same : subscriptionView next = subscriptionView world)
include same

theorem subscribed_of_view (channelId : ChannelId) (hdl : ConnHandle) :
    next.bridge.Subscribed channelId hdl ↔ world.bridge.Subscribed channelId hdl := by
  have tables : next.bridge.subscriptions = world.bridge.subscriptions := congrArg (·.2.2) same
  unfold Bridge.Subscribed Bridge.subscriptionsByClient
  rw [tables]

theorem advertised_of_view : next.bridge.advertisedTopics = world.bridge.advertisedTopics :=
  congrArg (·.2.1) same

theorem records_of_view (channelId : ChannelId) (hdl : ConnHandle) :
    next.server.Records hdl channelId ↔ world.server.Records hdl channelId :=
  Server.records_congr (congrArg (·.1) same)

theorem Tracked.of_view {excepted : ChannelId → ConnHandle → Prop}
    (tracked : Tracked excepted world) : Tracked excepted next where
  recorded channelId hdl subscribed := by
    rw [subscribed_of_view same] at subscribed
    rw [records_of_view same]
    exact tracked.recorded channelId hdl subscribed
  advertised channelId hdl subscribed := by
    rw [subscribed_of_view same] at subscribed
    rw [advertised_of_view same]
    exact tracked.advertised channelId hdl subscribed

theorem PollKeeps.of_view (progress later : Progress) :
    PollKeeps (world, progress) (next, later) where
  clients hdl := by
    have clients : next.server.clients = world.server.clients := congrArg (·.1) same
    rw [clients]
  subscribed channelId hdl subscribed := by
    refine ⟨(subscribed_of_view same channelId hdl).mp subscribed, ?_,
      (records_of_view same channelId hdl).mpr⟩
    rw [advertised_of_view same]
    exact id

theorem CallbacksKeep.of_view (progress : Progress) :
    CallbacksKeep (world, progress) (next, progress) :=
  ⟨rfl, fun _ channelId hdl => (subscribed_of_view same channelId hdl).mp⟩

end View

/-- The poll thread keeps what is tracked, whatever is excepted. -/
theorem Tracked.afterPoll {excepted : ChannelId → ConnHandle → Prop}
    {before after : World (Bridge Rest) × Progress} (tracked : Tracked excepted before.1)
    (kept : PollKeeps before after) : Tracked excepted after.1 where
  recorded channelId hdl subscribed := by
    obtain ⟨earlier, _, records⟩ := kept.subscribed channelId hdl subscribed
    exact (tracked.recorded channelId hdl earlier).imp_right records
  advertised channelId hdl subscribed := by
    obtain ⟨earlier, advertises, _⟩ := kept.subscribed channelId hdl subscribed
    exact advertises (tracked.advertised channelId hdl earlier)

theorem Tracked.mono {narrow wide : ChannelId → ConnHandle → Prop}
    (implies : ∀ channelId hdl, world.bridge.Subscribed channelId hdl → narrow channelId hdl →
      wide channelId hdl ∨ world.server.Records hdl channelId) (tracked : Tracked narrow world) :
    Tracked wide world where
  recorded channelId hdl subscribed :=
    (tracked.recorded channelId hdl subscribed).elim (implies channelId hdl subscribed) .inr
  advertised := tracked.advertised

/-- Nothing is excepted. -/
def NoException : ChannelId → ConnHandle → Prop := fun _ _ => False

/-- The subscriptions of one client to the listed channels. -/
def OwnedBy (hdl : ConnHandle) (channelIds : List ChannelId) : ChannelId → ConnHandle → Prop :=
  fun channelId owner => owner = hdl ∧ channelId ∈ channelIds

section Changes

variable {excepted : ChannelId → ConnHandle → Prop} {world : World (Bridge Rest)}
  {channelId : ChannelId} {hdl : ConnHandle}

/-- A pair that was just subscribed is excepted. -/
theorem Tracked.afterSubscribe (tracked : Tracked NoException world) (channelId : ChannelId)
    (hdl : ConnHandle) (calls : List HandlerCall) :
    Tracked (fun other client => (subscribe channelId hdl world.bridge).outcome = .ok () ∧
        other = channelId ∧ client = hdl)
      { world with calls := calls, bridge := (subscribe channelId hdl world.bridge).bridge } where
  recorded other client subscribed := by
    rcases (subscribed_subscribe _ _ _ _ _).mp subscribed with earlier | new
    · exact .inr ((tracked.recorded other client earlier).elim False.elim id)
    · exact .inl new
  advertised other client subscribed := by
    rw [subscribe_advertisedTopics]
    rcases (subscribed_subscribe _ _ _ _ _).mp subscribed with earlier | ⟨returned, rfl, _⟩
    · exact tracked.advertised other client earlier
    · exact advertised_of_subscribe returned

/-- Once the pair is recorded it is no exception. -/
theorem Tracked.afterRecord (registered : hdl ∈ world.server.clients)
    (tracked : Tracked (fun other client => other = channelId ∧ client = hdl) world)
    (subId : SubscriptionId) :
    Tracked NoException { world with
      server := world.server.modifyClient hdl (ClientInfo.addSubscription channelId subId) } where
  recorded other client subscribed := by
    refine .inr (Server.records_addSubscription.mpr ?_)
    rcases tracked.recorded other client subscribed with ⟨rfl, rfl⟩ | recorded
    · exact .inr ⟨registered, rfl, rfl⟩
    · exact .inl recorded
  advertised := tracked.advertised

/-- An unsubscribe call only removes. -/
theorem Tracked.afterUnsubscribe (tracked : Tracked excepted world) (channelId : ChannelId)
    (hdl : ConnHandle) (calls : List HandlerCall) :
    Tracked excepted
      { world with calls := calls, bridge := (unsubscribe channelId hdl world.bridge).bridge } where
  recorded other client subscribed :=
    tracked.recorded other client ((subscribed_unsubscribe _ _ _ _ _).mp subscribed).1
  advertised other client subscribed := by
    rw [unsubscribe_advertisedTopics]
    exact tracked.advertised other client ((subscribed_unsubscribe _ _ _ _ _).mp subscribed).1

/-- A subscription to an advertised channel that is ended is gone, whether or not the
call returned. -/
theorem Tracked.unsubscribed (tracked : Tracked excepted world) (channelId : ChannelId)
    (hdl : ConnHandle) :
    ¬(unsubscribe channelId hdl world.bridge).bridge.Subscribed channelId hdl := by
  rw [subscribed_unsubscribe]
  rintro ⟨subscribed, failed⟩
  refine failed ⟨?_, rfl, rfl⟩
  exact (unsubscribe_returns_iff _ _ _).mpr
    ⟨tracked.advertised channelId hdl subscribed, subscribed⟩

/-- The record of a pair that is not subscribed can be dropped. -/
theorem Tracked.afterForget (absent : ¬world.bridge.Subscribed channelId hdl)
    (tracked : Tracked excepted world) :
    Tracked excepted { world with
      server := world.server.modifyClient hdl (ClientInfo.removeSubscription channelId) } where
  recorded other client subscribed := by
    refine (tracked.recorded other client subscribed).imp_right fun recorded => ?_
    refine Server.records_removeSubscription.mpr ⟨recorded, ?_⟩
    rintro ⟨rfl, rfl⟩
    exact absent subscribed
  advertised := tracked.advertised

/-- When a client's record is erased, its subscriptions become exceptions. -/
theorem Tracked.afterErase {client : ClientInfo} (tracked : Tracked NoException world)
    (found : world.server.clients.lookup hdl = some client) :
    Tracked (OwnedBy hdl client.subscriptionsByChannel.keys)
      { world with server := world.server.eraseClient hdl } where
  recorded other owner subscribed := by
    obtain ⟨record, foundRecord, member⟩ :=
      (tracked.recorded other owner subscribed).resolve_left id
    by_cases same : owner = hdl
    · subst owner
      cases found.symm.trans foundRecord
      exact .inl ⟨rfl, AList.mem_keys.mp member⟩
    · exact .inr (Server.records_eraseClient.mpr ⟨⟨record, foundRecord, member⟩, same⟩)
  advertised := tracked.advertised

theorem Tracked.afterLogin {next : World (Bridge Rest)} (tracked : Tracked excepted world)
    (outcome : LoginOutcome hdl world.server next.server) (bridge : next.bridge = world.bridge) :
    Tracked excepted next where
  recorded other owner subscribed := by
    rw [bridge] at subscribed
    exact (tracked.recorded other owner subscribed).imp_right outcome.records.mpr
  advertised other owner subscribed := by
    rw [bridge] at subscribed ⊢
    exact tracked.advertised other owner subscribed

end Changes

theorem view_of_unsent {next : World (Bridge Rest)} (same : next.unsent = world.unsent) :
    subscriptionView next = subscriptionView world := by
  unfold subscriptionView
  rw [show next.server = world.server from congrArg (·.1) same,
    show next.bridge = world.bridge from congrArg (·.2.2.1) same]

theorem modifyServer_view (update : Server → Server)
    (clients : ∀ server, (update server).clients = server.clients) :
    (modifyServer update : ServerAction (Bridge Rest) Unit).Meets (.frame subscriptionView) := by
  intro world
  change ((update world.server).clients, world.bridge.channelTables) = subscriptionView world
  rw [clients]
  rfl

/-- Calls that are not about subscriptions leave both layers' subscriptions alone. -/
theorem callHandler_view (setup : Setup Rest) {call : HandlerCall}
    (other : changesSubscriptions call = false) :
    (callHandler setup.config call).Meets (.frame subscriptionView) := by
  intro world
  change subscriptionView (callHandler setup.config call world).2 = subscriptionView world
  rcases registered : setup.config.handlers.resolve call with _ | handler
  · rw [callHandler_of_none registered]
  · have kept := callHandler_kept registered world
    have clients : (callHandler setup.config call world).2.server.clients = world.server.clients :=
      congrArg (fun part => part.1.clients) kept
    unfold subscriptionView
    rw [clients, callHandler_bridge registered, resolve_channelTables registered other]

def callbacksOutline : Outline Section (World (Bridge Rest)) Progress where
  admits := discipline.enabled
  effect label progress := progress.after label
  rely := PollKeeps
  guarantee := CallbacksKeep
  refl := PollKeeps.refl
  trans := PollKeeps.trans

def pollOutline : Outline Section (World (Bridge Rest)) Progress where
  admits _ _ := True
  effect label progress := progress.after label
  rely := CallbacksKeep
  guarantee := PollKeeps
  refl := CallbacksKeep.refl
  trans := CallbacksKeep.trans

/-- What holds of a thread that is idle. -/
def restsTracked : Thread → World (Bridge Rest) × Progress → Prop
  | .callbacks, shared => Tracked NoException shared.1
  | .poll, shared => shared.2.subscriptionsLocked = false

end CoBridge.Ros2

import CoBridge.Properties.LayersAgree
import CoBridge.Properties.PublicationBatches
import CoBridge.Properties.UnsubscribeBatches

/-!
# A batch and the sequence of its entries

A request with several entries should do what the requests with one entry each do. But it
stops at an entry that the bridge refuses, and subscribe, unsubscribe and first advertise
requests compare their entries with what there was when they began, so it depends on the
entries.
-/

namespace CoBridge.Ros2

open Library

variable {Rest : Type} {setup : Setup Rest} {world : World (Bridge Rest)} {hdl : ConnHandle}
variable {left right : World (Bridge Rest)}

/-- The maps of the connection are the same in both worlds. -/
def SameMaps (hdl : ConnHandle) (left right : World (Bridge Rest)) : Prop :=
  (clientView hdl left).maps = (clientView hdl right).maps

/-- A subscribe request whose entries are recorded as they are one by one: before one is
refused no id is listed for two channels that are granted, and behind it there is nothing
left to grant. -/
def SubscribeInOrder (world : World (Bridge Rest)) (hdl : ConnHandle)
    (entries : List (SubscriptionId × ChannelId)) : Prop :=
  BatchPolicy.InOrder (SubscribeRefused (offerOf world) (clientView hdl world))
    (SubscribeClash (offerOf world) (clientView hdl world))
    (SubscribeMissed (offerOf world) (clientView hdl world)) entries

/-- An unsubscribe request in which no id of a subscription is left when one that it has
ended is listed again. -/
def UnsubscribeInOrder (world : World (Bridge Rest)) (hdl : ConnHandle)
    (subIds : List SubscriptionId) : Prop :=
  BatchPolicy.InOrder (UnsubscribeRefused (clientView hdl world)) (fun _ _ => False)
    (UnsubscribeMissed (clientView hdl world)) subIds

/-- An advertise request in which nothing is left to create behind an entry that the bridge
refuses. -/
def AdvertiseInOrder (options : ServerOptions) (world : World (Bridge Rest)) (hdl : ConnHandle)
    (entries : List ClientAdvertisement) : Prop :=
  BatchPolicy.InOrder (AdvertiseRefused options (offerOf world)
      (decide (hdl ∉ world.server.clientChannels)) (clientView hdl world)) (fun _ _ => False)
    (AdvertiseMissed options (offerOf world) (clientView hdl world)) entries

/-- An unadvertise request in which no publisher is left to remove behind an entry that the
bridge refuses. -/
def UnadvertiseInOrder (world : World (Bridge Rest)) (hdl : ConnHandle)
    (channelIds : List ClientChannelId) : Prop :=
  UnadvertiseOrderly (offerOf world) (clientView hdl world) channelIds

/-- Distinct ids are in order. -/
theorem unsubscribeInOrder_of_nodup {subIds : List SubscriptionId} (distinct : subIds.Nodup) :
    UnsubscribeInOrder world hdl subIds := by
  intro before subId rest split _
  refine ⟨id, fun refused => ?_⟩
  rw [split] at distinct
  exact absurd rfl ((List.nodup_append.mp distinct).2.2 subId refused.1 subId List.mem_cons_self)

section Requests

variable (sound : ViewSound world (clientView hdl world)) (registered : hdl ∈ world.server.clients)
variable {frame : ClientFrame} {frames : List ClientFrame} {subIds : List SubscriptionId}

include sound

theorem unsubscribeValid_start : UnsubscribeValid (offerOf world)
    (clientView hdl world).subscriptionsByChannel (clientView hdl world) where
  fewer := List.Sublist.refl _
  subscribed channelId member := iff_of_true (sound.subscribed channelId member) member
  advertised := sound.advertised

include registered

theorem subscribe_batch_iff {entries : List (SubscriptionId × ChannelId)}
    (sent : subscribeRequest.Sends setup.config frame entries)
    (each : subscribeRequest.SendsEach setup.config frames entries) :
    SameMaps hdl (handleMessage setup.config hdl frame world).2
        (afterMessages setup.config hdl frames world) ↔ SubscribeInOrder world hdl entries := by
  have batch := (subscribe_shows sent (Shows.self registered)).view
  have sequence := (afterMessages_shows subscribe_shows each (Shows.self registered)).view.trans
    (subscribe_each (clientView hdl world).subscriptionsByChannel entries _)
  unfold SameMaps SubscribeInOrder
  rw [batch, sequence, (subscribe_comparable _ _).observe_runBatch_iff
    ⟨fun _ _ => id, sound.subscribed⟩]
  exact (subscribe_described _ _).orderly_iff_inOrder (subscribeFollows_start sound.subscribed)

theorem unsubscribe_batch_iff (sent : unsubscribeRequest.Sends setup.config frame subIds)
    (each : unsubscribeRequest.SendsEach setup.config frames subIds) :
    SameMaps hdl (handleMessage setup.config hdl frame world).2
        (afterMessages setup.config hdl frames world) ↔ UnsubscribeInOrder world hdl subIds := by
  have valid := unsubscribeValid_start sound
  have batch := (unsubscribe_shows sent (Shows.self registered)).view
  have sequence := (afterMessages_shows unsubscribe_shows each (Shows.self registered)).view.trans
    (unsubscribe_each (clientView hdl world).subscriptionsByChannel subIds _)
  unfold SameMaps UnsubscribeInOrder
  rw [batch, sequence, (unsubscribe_comparable _ _).observe_runBatch_iff valid]
  exact (unsubscribe_described _ _).orderly_iff_inOrder (unsubscribeFollows_start valid)

theorem unsubscribe_batch_clears_iff (sent : unsubscribeRequest.Sends setup.config frame subIds) :
    (∀ subId ∈ subIds, ¬ InUse (clientView hdl
      (handleMessage setup.config hdl frame world).2).subscriptionsByChannel subId) ↔
      UnsubscribeInOrder world hdl subIds ∧
        ∀ subId ∈ subIds, HeldOnce (clientView hdl world).subscriptionsByChannel subId := by
  have valid := unsubscribeValid_start sound
  have batch := unsubscribe_shows sent (Shows.self registered)
  rw [batch.view, unsubscribe_clears_iff valid]
  exact and_congr_left' ((unsubscribe_described _ _).orderly_iff_inOrder
    (unsubscribeFollows_start valid))

omit sound in
/-- When one advertise message equals one for each entry. -/
theorem advertise_batch_iff {entries : List ClientAdvertisement}
    (sent : advertiseRequest.Sends setup.config frame entries)
    (each : advertiseRequest.SendsEach setup.config frames entries) :
    SameMaps hdl (handleMessage setup.config hdl frame world).2
        (afterMessages setup.config hdl frames world) ↔
      (entries = [] → hdl ∈ world.server.clientChannels) ∧
        AdvertiseInOrder setup.config.options world hdl entries := by
  have batch := (advertise_shows sent (Shows.self registered)).view
  have sequence := (afterMessages_shows advertise_shows each (Shows.self registered)).view
  have first : (clientView hdl world).clientChannels.isNone =
      decide (hdl ∉ world.server.clientChannels) := by
    rw [Bool.eq_iff_iff, decide_eq_true_iff, Option.isNone_iff_eq_none]
    exact AList.lookup_eq_none
  have never : decide (hdl ∉ world.server.clientChannels) = true →
      (clientView hdl world).clientChannels = none := by
    rw [← first]
    exact Option.isNone_iff_eq_none.mp
  unfold SameMaps
  rw [batch, first]
  by_cases empty : entries = []
  · -- The batch leaves an empty map, the sequence does nothing.
    subst empty
    have trivially : AdvertiseInOrder setup.config.options world hdl [] := by
      intro before entry rest split
      simp at split
    rw [and_iff_left trivially, sequence]
    change (clientView hdl world).openPublications.maps = (clientView hdl world).maps ↔ _
    constructor
    · intro same _
      have opened := congrArg (fun maps => maps.clientChannels.isSome) same
      change true = ((world.server.clientChannels.lookup hdl).map _).isSome at opened
      rw [Option.isSome_map] at opened
      exact AList.lookup_isSome.mp opened.symm
    · intro advertised
      obtain ⟨publications, found⟩ := (Table.mem_iff_lookup _ _).mp (advertised rfl)
      have opened : (clientView hdl world).clientChannels = some publications := found
      rw [openPublications_eq_self opened]
  · have served := sequence.trans
      (advertise_each (decide (hdl ∉ world.server.clientChannels)) empty _)
    rw [and_iff_right fun nothing => absurd nothing empty, served,
      (advertise_comparable _ _ _).observe_runBatch_iff (advertiseValid_start never)]
    exact (advertise_described _ _ _ _).orderly_iff_inOrder (advertiseFollows_start never)

omit sound in
theorem unadvertise_batch_iff {channelIds : List ClientChannelId}
    (sent : unadvertiseRequest.Sends setup.config frame channelIds)
    (each : unadvertiseRequest.SendsEach setup.config frames channelIds) :
    SameMaps hdl (handleMessage setup.config hdl frame world).2
        (afterMessages setup.config hdl frames world) ↔
          UnadvertiseInOrder world hdl channelIds := by
  have batch := (unadvertise_shows sent (Shows.self registered)).view
  have sequence := (afterMessages_shows unadvertise_shows each (Shows.self registered)).view
  have alone :
      channelIds.foldl (fun reached channelId => (unadvertisePolicy (offerOf world)).runBatch
      [channelId] reached) (clientView hdl world) =
      (unadvertisePolicy (offerOf world)).runEach channelIds (clientView hdl world) := by
    congr 1
  unfold SameMaps UnadvertiseInOrder
  rw [batch, sequence, alone, maps_runBatch_unadvertise_iff]

end Requests

/-- In every state that a node reaches, for every registered client: requests with several
entries do what the requests with one entry each do exactly when the entries are in order.
An unsubscribe request leaves none of its ids in use exactly when they are in order and none
was in use twice. -/
theorem batches_as_sequences (setup : Setup Rest) {events : List NodeEvent}
    {world : World (Bridge Rest)} (run : (nodeRuns setup).Run events world) {hdl : ConnHandle}
    (registered : hdl ∈ world.server.clients) :
    (∀ entries frame frames, subscribeRequest.Sends setup.config frame entries →
      subscribeRequest.SendsEach setup.config frames entries →
      (SameMaps hdl (handleMessage setup.config hdl frame world).2
        (afterMessages setup.config hdl frames world) ↔ SubscribeInOrder world hdl entries)) ∧
    (∀ subIds frame frames, unsubscribeRequest.Sends setup.config frame subIds →
      unsubscribeRequest.SendsEach setup.config frames subIds →
      (SameMaps hdl (handleMessage setup.config hdl frame world).2
        (afterMessages setup.config hdl frames world) ↔ UnsubscribeInOrder world hdl subIds)) ∧
    (∀ subIds frame, unsubscribeRequest.Sends setup.config frame subIds →
      ((∀ subId ∈ subIds, ¬ InUse (clientView hdl
          (handleMessage setup.config hdl frame world).2).subscriptionsByChannel subId) ↔
        UnsubscribeInOrder world hdl subIds ∧
          ∀ subId ∈ subIds, HeldOnce (clientView hdl world).subscriptionsByChannel subId)) ∧
    (∀ entries frame frames, advertiseRequest.Sends setup.config frame entries →
      advertiseRequest.SendsEach setup.config frames entries →
      (SameMaps hdl (handleMessage setup.config hdl frame world).2
        (afterMessages setup.config hdl frames world) ↔
          (entries = [] → hdl ∈ world.server.clientChannels) ∧
            AdvertiseInOrder setup.config.options world hdl entries)) ∧
    (∀ channelIds frame frames, unadvertiseRequest.Sends setup.config frame channelIds →
      unadvertiseRequest.SendsEach setup.config frames channelIds →
      (SameMaps hdl (handleMessage setup.config hdl frame world).2
        (afterMessages setup.config hdl frames world) ↔
          UnadvertiseInOrder world hdl channelIds)) := by
  have sound := viewSound_of_run run hdl
  exact ⟨fun _ _ _ => subscribe_batch_iff sound registered,
    fun _ _ _ => unsubscribe_batch_iff sound registered,
    fun _ _ => unsubscribe_batch_clears_iff sound registered,
    fun _ _ _ => advertise_batch_iff registered,
    fun _ _ _ => unadvertise_batch_iff registered⟩

/-- A topic under the id. -/
def topicUnder (id : ClientChannelId) : ClientAdvertisement := ⟨id, "/t", "cdr", "demo/msg/T", []⟩

def subscribes (entries : List (UInt64 × UInt64)) : TextRequest where
  text := listText "subscribe" "subscriptions" (entries.map fun entry =>
    "\x7b\"id\":" ++ toString entry.1 ++ ",\"channelId\":" ++ toString entry.2 ++ "\x7d")
  payload := subscribePayload entries

def unsubscribes (ids : List UInt64) : TextRequest where
  text := listText "unsubscribe" "subscriptionIds" (ids.map toString)
  payload := .object [("op", .string "unsubscribe"),
    ("subscriptionIds", .array (ids.map .numberUnsigned))]

def batchRequests : List TextRequest :=
  [userRequest "u" "i", subscribes [(7, 1), (8, 2)], subscribes [(7, 1), (7, 1), (8, 2)],
    subscribes [(7, 1)], subscribes [(8, 2)], unsubscribes [7, 8], unsubscribes [7, 7, 8],
    unsubscribes [7], unsubscribes [8], advertises [5, 5, 6], advertises [5], advertises [6]]

def batchSetup : Setup Unit := .open [capabilityClientPublish] (readRequests batchRequests)

/-- Two topics exist. -/
def twoTopics : Environment :=
  { Environment.quiet with
    topics := Table.emplace "/b" ⟨["demo/msg/T"], [], []⟩
      (Table.emplace "/a" ⟨["demo/msg/T"], [], []⟩ ∅) }

def topicsWorld : World (Bridge Unit) := .initial (.initial twoTopics ())

def loginEvents : List NodeEvent :=
  [.updateAdvertisedTopics, .message ⟨1⟩ (userRequest "u" "i").frame]

/-- Both topics are advertised and a client logs in. -/
def loggedInWorld : World (Bridge Unit) :=
  loginEvents.foldl (NodeEvent.apply batchSetup) topicsWorld

/-- The client subscribes to both channels. -/
def subscribedWorld : World (Bridge Unit) :=
  (handleMessage batchSetup.config ⟨1⟩ (subscribes [(7, 1), (8, 2)]).frame loggedInWorld).2

theorem loggedInWorld_run : (nodeRuns batchSetup).Run loginEvents loggedInWorld :=
  TransitionSystem.run_foldl (NodeEvent.apply_step _) ⟨rfl, twoTopics, (), rfl⟩ _

theorem subscribedWorld_run : (nodeRuns batchSetup).Run
    (loginEvents ++ [.message ⟨1⟩ (subscribes [(7, 1), (8, 2)]).frame]) subscribedWorld :=
  .step loggedInWorld_run trivial (.message ⟨1⟩ _)

section Sent

variable {Entry : Type} {request : ListRequest Entry} {sent : TextRequest} {items : Json}

theorem batch_sends {entries : List Entry} (listed : sent ∈ batchRequests)
    (named : sent.payload.atKey "op" >>= Json.getString = .ok request.operation.name)
    (capable : (capabilityByClientOperation request.operation.name).all
      (hasCapability batchSetup.config) = true)
    (registered : hasHandler batchSetup.config request.operation = true)
    (found : sent.payload.atKey request.key = .ok items)
    (reads : List.Forall₂ (fun item entry => request.read item = .ok entry) items.elements
      entries) : request.Sends batchSetup.config sent.frame entries :=
  have parsed := readRequests_of_mem batchRequests (by decide +kernel) listed
  ⟨sent.payload, items, request_of_name parsed named capable registered, found, reads⟩

/-- The same entries in one request and in one request each, with other maps in the end. -/
def SplitDiffers (request : ListRequest Entry) (world : World (Bridge Unit)) (batch : TextRequest)
    (singles : List TextRequest) (entries : List Entry) : Prop :=
  request.Sends batchSetup.config batch.frame entries ∧
    request.SendsEach batchSetup.config (singles.map TextRequest.frame) entries ∧
    ¬ SameMaps ⟨1⟩ (handleMessage batchSetup.config ⟨1⟩ batch.frame world).2
      (afterMessages batchSetup.config ⟨1⟩ (singles.map TextRequest.frame) world)

end Sent

theorem unsubscribes_sends (id : UInt64) {subId : SubscriptionId}
    (listed : unsubscribes [id] ∈ batchRequests)
    (reads : Json.getUInt32 (.numberUnsigned id) = .ok subId) :
    unsubscribeRequest.Sends batchSetup.config (unsubscribes [id]).frame [subId] :=
  batch_sends listed rfl rfl rfl rfl (.cons reads .nil)

/-- The ids 7 and 8 in one request or in two. -/
theorem batches_as_sequences_distinct_ids :
    ⟨1⟩ ∈ subscribedWorld.server.clients ∧
      SameMaps ⟨1⟩
        (handleMessage batchSetup.config ⟨1⟩ (unsubscribes [7, 8]).frame subscribedWorld).2
        (afterMessages batchSetup.config ⟨1⟩ [(unsubscribes [7]).frame, (unsubscribes [8]).frame]
          subscribedWorld) := by
  have registered : ⟨1⟩ ∈ subscribedWorld.server.clients := by decide +kernel
  have sent : unsubscribeRequest.Sends batchSetup.config (unsubscribes [7, 8]).frame [7, 8] :=
    batch_sends (by simp [batchRequests]) rfl rfl rfl rfl (.cons rfl (.cons rfl .nil))
  have each : unsubscribeRequest.SendsEach batchSetup.config
      [(unsubscribes [7]).frame, (unsubscribes [8]).frame] [7, 8] :=
    .cons (unsubscribes_sends 7 (by simp [batchRequests]) rfl)
      (.cons (unsubscribes_sends 8 (by simp [batchRequests]) rfl) .nil)
  obtain ⟨_, unsubscribes, _⟩ := batches_as_sequences batchSetup subscribedWorld_run registered
  have inOrder : UnsubscribeInOrder subscribedWorld ⟨1⟩ [7, 8] :=
    unsubscribeInOrder_of_nodup (by decide)
  exact ⟨registered, (unsubscribes [7, 8] _ _ sent each).mpr inOrder⟩

theorem not_sameMaps_of_subscription (channelId : ChannelId)
    (differs : (clientView hdl left).subscriptionsByChannel.lookup channelId ≠
      (clientView hdl right).subscriptionsByChannel.lookup channelId) :
    ¬ SameMaps hdl left right :=
  fun same => differs (congrFun (congrArg ClientMaps.subscriptionsByChannel same) channelId)

theorem not_sameMaps_of_publication (channelId : ClientChannelId)
    (differs : (clientView hdl left).advertisedChannels.lookup channelId ≠
      (clientView hdl right).advertisedChannels.lookup channelId) :
    ¬ SameMaps hdl left right :=
  fun same => differs (congrFun (congrArg ClientMaps.advertisedChannels same) channelId)

/-- An id that is listed twice ends a request: the subscription 8 is not ended, not made,
and the channel 6 is not advertised, and each of them is when the entries come one by one. -/
theorem batches_stop_at_repeated_ids :
    (nodeRuns batchSetup).Run
      (loginEvents ++ [.message ⟨1⟩ (subscribes [(7, 1), (8, 2)]).frame]) subscribedWorld ∧
    (nodeRuns batchSetup).Run loginEvents loggedInWorld ∧
    ⟨1⟩ ∈ subscribedWorld.server.clients ∧ ⟨1⟩ ∈ loggedInWorld.server.clients ∧
    SplitDiffers unsubscribeRequest subscribedWorld (unsubscribes [7, 7, 8])
      [unsubscribes [7], unsubscribes [7], unsubscribes [8]] [7, 7, 8] ∧
    SplitDiffers subscribeRequest loggedInWorld (subscribes [(7, 1), (7, 1), (8, 2)])
      [subscribes [(7, 1)], subscribes [(7, 1)], subscribes [(8, 2)]] [(7, 1), (7, 1), (8, 2)] ∧
    SplitDiffers advertiseRequest loggedInWorld (advertises [5, 5, 6])
      [advertises [5], advertises [5], advertises [6]]
      [topicUnder 5, topicUnder 5, topicUnder 6] := by
  have ends := unsubscribes_sends 7 (by simp [batchRequests]) rfl
  have makes : subscribeRequest.Sends batchSetup.config (subscribes [(7, 1)]).frame [(7, 1)] :=
    batch_sends (by simp [batchRequests]) rfl rfl rfl rfl (.cons rfl .nil)
  have offers : advertiseRequest.Sends batchSetup.config (advertises [5]).frame [topicUnder 5] :=
    batch_sends (by simp [batchRequests]) rfl rfl rfl rfl (.cons rfl .nil)
  refine ⟨subscribedWorld_run, loggedInWorld_run, by decide +kernel, by decide +kernel,
    ⟨?_, ?_, ?_⟩, ⟨?_, ?_, ?_⟩, ?_, ?_, ?_⟩
  · apply batch_sends (by simp [batchRequests]) rfl rfl rfl rfl
    exact .cons rfl (.cons rfl (.cons rfl .nil))
  · exact .cons ends (.cons ends
      (.cons (unsubscribes_sends 8 (by simp [batchRequests]) rfl) .nil))
  · exact not_sameMaps_of_subscription 2 (by decide +kernel)
  · apply batch_sends (by simp [batchRequests]) rfl rfl rfl rfl
    exact .cons rfl (.cons rfl (.cons rfl .nil))
  · exact .cons makes (.cons makes
      (.cons (batch_sends (by simp [batchRequests]) rfl rfl rfl rfl (.cons rfl .nil)) .nil))
  · exact not_sameMaps_of_subscription 2 (by decide +kernel)
  · apply batch_sends (by simp [batchRequests]) rfl rfl rfl rfl
    exact .cons rfl (.cons rfl (.cons rfl .nil))
  · exact .cons offers (.cons offers
      (.cons (batch_sends (by simp [batchRequests]) rfl rfl rfl rfl (.cons rfl .nil)) .nil))
  · exact not_sameMaps_of_publication 6 (by decide +kernel)

end CoBridge.Ros2

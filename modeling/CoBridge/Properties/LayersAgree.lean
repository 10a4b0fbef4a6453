import CoBridge.Properties.ClientViews
import CoBridge.Properties.DisconnectRuns
import CoBridge.Properties.PublishGate

/-!
# What the server records, the bridge has

In every state a node reaches, the bridge has each subscription that a client's record
lists. So the bridge never refuses to end one that an unsubscribe request finds in the
record.
-/

namespace CoBridge.Ros2

open Library Action Table

variable {Rest : Type} {setup : Setup Rest} {world next : World (Bridge Rest)} {hdl : ConnHandle}

/-- The bridge has the subscriptions that the server records. -/
def SubscriptionsMirrored (world : World (Bridge Rest)) : Prop :=
  ∀ hdl channelId, world.server.Records hdl channelId → world.bridge.Subscribed channelId hdl

theorem SubscriptionsMirrored.of_recorded (mirrored : SubscriptionsMirrored world)
    (same : recordedSubscriptions next = recordedSubscriptions world) :
    SubscriptionsMirrored next := by
  rintro hdl channelId ⟨client, found, member⟩
  have record := congrFun (congrArg Prod.fst same) hdl
  have tables : next.bridge.subscriptions = world.bridge.subscriptions := congrArg (·.2.2) same
  change (next.server.clients.lookup hdl).map _ = (world.server.clients.lookup hdl).map _ at record
  rw [found, Option.map_some, eq_comm] at record
  obtain ⟨before, foundBefore, listed⟩ := Option.map_eq_some_iff.mp record
  have subscribed := mirrored hdl channelId ⟨before, foundBefore, by rwa [listed]⟩
  unfold Bridge.Subscribed Bridge.subscriptionsByClient at subscribed ⊢
  rwa [tables]

section Subscriptions

theorem SubscriptionsMirrored.enqueue (mirrored : SubscriptionsMirrored world) (hdl : ConnHandle)
    (message : ServerMessage) : SubscriptionsMirrored (world.enqueue hdl message) :=
  mirrored.of_recorded (by
    unfold recordedSubscriptions
    rw [World.enqueue_server, World.enqueue_bridge])

variable (snapshot : Table ChannelId SubscriptionId)

/-- A new subscription is recorded by both layers or by neither. -/
theorem subscribeEntry_mirrored (entry : SubscriptionId × ChannelId) :
    (subscribeEntry setup.config hdl snapshot entry).Meets (.invariant SubscriptionsMirrored) := by
  intro world mirrored
  by_cases skipped : (findSubscriptionBySubId snapshot entry.1).isSome ∨
      entry.2 ∉ world.server.channels
  · have answer : ∃ level text, subscribeEntry setup.config hdl snapshot entry world = _ :=
      subscribeEntry_skipped skipped
    obtain ⟨level, text, answered⟩ := answer
    rw [answered]
    exact mirrored.enqueue hdl _
  have called : SubscriptionsMirrored { world.recordCall (.subscribe entry.2 hdl) with
      bridge := (subscribe entry.2 hdl world.bridge).bridge } :=
    fun other channelId recorded => (subscribed_subscribe _ _ _ _ _).mpr
      (.inl (mirrored other channelId recorded))
  rw [subscribeEntry_eligible skipped, bind_apply, callHandler_subscribe]
  cases outcome : (subscribe entry.2 hdl world.bridge).outcome with
  | error fault => exact called
  | ok _ =>
    dsimp only
    rw [updateClient_apply]
    split
    · intro other channelId recorded
      rcases Server.records_addSubscription.mp recorded with earlier | ⟨_, rfl, rfl⟩
      · exact called other channelId earlier
      · exact (subscribed_subscribe _ _ _ _ _).mpr (.inr ⟨outcome, rfl, rfl⟩)
    · exact called

/-- A subscription ends in both layers. -/
theorem unsubscribeEntry_mirrored (subId : SubscriptionId) :
    (unsubscribeEntry setup.config hdl snapshot subId).Meets
      (.invariant SubscriptionsMirrored) := by
  intro world mirrored
  unfold unsubscribeEntry
  cases findSubscriptionBySubId snapshot subId with
  | none =>
    dsimp only
    rw [sendStatusAndLogMsg_apply]
    exact mirrored.enqueue hdl _
  | some ended =>
    dsimp only
    have others (other : ConnHandle) (channelId : ChannelId)
        (recorded : world.server.Records other channelId)
        (different : ¬ ((unsubscribe ended hdl world.bridge).outcome = .ok () ∧
          channelId = ended ∧ other = hdl)) :
        (unsubscribe ended hdl world.bridge).bridge.Subscribed channelId other :=
      (subscribed_unsubscribe _ _ _ _ _).mpr ⟨mirrored other channelId recorded, different⟩
    rw [bind_apply, callHandler_unsubscribe]
    cases outcome : (unsubscribe ended hdl world.bridge).outcome with
    | error fault =>
      intro other channelId recorded
      exact others other channelId recorded fun same => nomatch outcome.symm.trans same.1
    | ok _ =>
      dsimp only
      rw [updateClient_apply]
      split
      · intro other channelId recorded
        obtain ⟨earlier, different⟩ := Server.records_removeSubscription.mp recorded
        exact others other channelId earlier fun same => different ⟨same.2.2, same.2.1⟩
      · next missing =>
        intro other channelId recorded
        refine others other channelId recorded ?_
        rintro ⟨_, _, rfl⟩
        obtain ⟨client, found, _⟩ := recorded
        exact missing (mem_of_lookup found)

theorem handleLogin_mirrored (payload : Json) (hdl : ConnHandle) :
    (handleLogin setup.config payload hdl).Meets (.invariant SubscriptionsMirrored) := by
  intro world mirrored other channelId recorded
  obtain ⟨outcome, _, bridge, _⟩ := handleLogin_outcome setup.config payload hdl world
  rw [bridge]
  exact mirrored other channelId (outcome.records.mp recorded)

/-- A disconnect ends the subscriptions of a connection that is not registered any more. -/
theorem handleConnectionClosed_mirrored (mirrored : SubscriptionsMirrored world)
    (hdl : ConnHandle) :
    SubscriptionsMirrored (handleConnectionClosed setup.config hdl world).2 := by
  cases found : world.server.clients.lookup hdl with
  | none =>
    rw [handleConnectionClosed_of_none found]
    exact mirrored
  | some client =>
    let promise : Guarantee (World (Bridge Rest)) :=
      .invariant fun world => SubscriptionsMirrored world ∧ hdl ∉ world.server.clients
    have framed {action : ServerAction (Bridge Rest) Unit}
        (recorded : action.Meets (.frame recordedSubscriptions)) : action.Meets promise := by
      rintro world ⟨mirrored, missing⟩
      refine ⟨mirrored.of_recorded (recorded world), fun member => missing ?_⟩
      have record := congrFun (congrArg Prod.fst (recorded world)) hdl
      change ((action world).2.server.clients.lookup hdl).map _ =
        (world.server.clients.lookup hdl).map _ at record
      rw [AList.lookup_eq_none.mpr missing, Option.map_none, Option.map_eq_none_iff] at record
      exact absurd member (AList.lookup_eq_none.mp record)
    have ended (channelId : ChannelId) :
        (callHandler setup.config (.unsubscribe channelId hdl)).Meets promise := by
      rintro world ⟨mirrored, missing⟩
      rw [callHandler_unsubscribe]
      refine ⟨fun other stored recorded => ?_, missing⟩
      refine (subscribed_unsubscribe _ _ _ _ _).mpr ⟨mirrored other stored recorded, ?_⟩
      rintro ⟨_, _, rfl⟩
      obtain ⟨client, found, _⟩ := recorded
      exact missing (mem_of_lookup found)
    have released : (releaseClient setup.config hdl client).Meets promise :=
      releaseClient_meets (fun _ _ => framed (callHandler_recorded rfl)) (fun _ _ => ended _)
        (fun _ => framed (callHandler_recorded rfl))
        (fun level text => framed (status_recorded hdl level text))
        (framed (meets_modify fun _ => rfl)) (framed (meets_modify fun _ => rfl))
    have graph : (releaseConnectionGraph setup.config).Meets promise :=
      releaseConnectionGraph_meets (fun _ => framed (meets_modify fun _ => rfl))
        (framed (callHandler_recorded rfl))
    have erased : SubscriptionsMirrored { world with server := world.server.eraseClient hdl } :=
      fun other channelId recorded =>
        mirrored other channelId (Server.records_eraseClient.mp recorded).1
    exact (handleConnectionClosed_meets found released graph
      ⟨erased, by simp [Server.eraseClient]⟩).1

/-- Channels are removed from both layers. -/
theorem removeChannels_mirrored (mirrored : SubscriptionsMirrored world)
    (channelIds : List ChannelId) :
    SubscriptionsMirrored (removeChannels channelIds
      { world with bridge := world.bridge.retire channelIds }).2 := by
  by_cases some : channelIds = []
  · subst some
    intro hdl channelId recorded
    exact (subscribed_retire _ _ _ _).mpr ⟨mirrored hdl channelId recorded, List.not_mem_nil⟩
  · rw [removeChannels_apply some]
    intro hdl channelId recorded
    rw [World.enqueueAll_server] at recorded
    rw [World.enqueueAll_bridge]
    obtain ⟨earlier, kept⟩ := Server.records_dropChannels.mp recorded
    exact (subscribed_retire _ _ _ _).mpr ⟨mirrored hdl channelId earlier, kept⟩

theorem addChannels_mirrored (check : TextCheck) (channels : List ChannelWithoutId) :
    (addChannels check channels : ServerAction (Bridge Rest) _).Meets
      (.invariant SubscriptionsMirrored) := by
  refine addChannels_meets check channels (fun world mirrored hdl channelId recorded => ?_)
    fun message world mirrored hdl channelId recorded => ?_
  · exact mirrored hdl channelId ((Server.records_congr (Server.registerChannels_clients _ _)).mp
      recorded)
  · rw [broadcast_apply, World.enqueueAll_server] at recorded
    rw [broadcast_apply, World.enqueueAll_bridge]
    exact mirrored hdl channelId recorded

theorem updateAdvertisedTopics_mirrored (check : TextCheck) (options : Options) :
    (updateAdvertisedTopics check options : ServerAction (Bridge Rest) Unit).Meets
      (.invariant SubscriptionsMirrored) := by
  refine updateAdvertisedTopics_meets ?_ options
  intro latest world mirrored
  -- the bridge retires the channels before the server drops them from the records
  have removed := removeChannels_mirrored mirrored (world.bridge.channelIdsToRemove latest)
  have added : ∀ _ : Unit, (do
      let channelsToAdd ← Action.gets fun world => world.bridge.channelsToAdd latest
      let channelIds ← addChannels check channelsToAdd
      modifyBridge (Bridge.advertise (channelIds.zip channelsToAdd)) :
        ServerAction (Bridge Rest) Unit).Meets (.invariant SubscriptionsMirrored) := by
    intro _
    apply Meets.bind (meets_gets _)
    intro channelsToAdd
    apply Meets.bind (addChannels_mirrored check channelsToAdd)
    intro channelIds
    exact meets_modify fun _ mirrored => mirrored
  exact rel_bind added _ removed

end Subscriptions

section Runs

theorem handleOperation_mirrored (operation : Operation) (payload : Json) (hdl : ConnHandle) :
    (handleOperation setup.config operation payload hdl).Meets
      (.invariant SubscriptionsMirrored) := by
  cases operation with
  | login => exact handleLogin_mirrored payload hdl
  | subscribe => exact handleSubscribe_meets subscribeEntry_mirrored payload
  | unsubscribe => exact handleUnsubscribe_meets unsubscribeEntry_mirrored payload
  | advertise =>
    exact (handleAdvertise_recorded payload hdl).keeps fun _ _ same here => here.of_recorded same
  | unadvertise =>
    exact (handleUnadvertise_recorded payload hdl).keeps fun _ _ same here => here.of_recorded same
  | _ =>
    refine ((recorded_kept setup hdl).operation ?_ rfl payload).keeps fun _ _ same here =>
      here.of_recorded same
    nofun

/-- One step keeps the layers in agreement. -/
theorem NodeStep.mirrored {event : NodeEvent} (step : NodeStep setup world event next)
    (mirrored : SubscriptionsMirrored world) : SubscriptionsMirrored next := by
  cases step with
  | message hdl frame =>
    have kept : (Guarantee.invariant SubscriptionsMirrored).rel world
        (handleMessage setup.config hdl frame world).2 := by
      apply handleMessage_rel
      · exact fun level text => (status_recorded hdl level text).keeps fun _ _ same here =>
          here.of_recorded same
      · exact fun operation payload _ => handleOperation_mirrored operation payload hdl world
      · exact fun message => (callHandler_recorded rfl).keeps fun _ _ same here =>
          here.of_recorded same
      · exact fun request => (callHandler_recorded rfl).keeps fun _ _ same here =>
          here.of_recorded same
    exact kept mirrored
  | closed hdl => exact handleConnectionClosed_mirrored mirrored hdl
  | updateAdvertisedTopics => exact updateAdvertisedTopics_mirrored _ _ world mirrored
  | updateConnectionGraph =>
    exact mirrored.of_recorded (congrArg Prod.snd (pollConnectionGraph_account setup.options world))
  | surroundings acts =>
    obtain ⟨environment, rest, link, now, rfl⟩ := acts
    exact mirrored.of_recorded rfl

/-- What the bridge has for a client in a state that a node reaches. -/
structure ViewSound (world : World (Bridge Rest)) (view : ClientView) : Prop where
  subscribed : ∀ channelId ∈ view.subscriptionsByChannel, view.subscriptions channelId ≠ none
  advertised : ∀ channelId ∈ view.subscriptionsByChannel, channelId ∈ world.bridge.advertisedTopics

variable {events : List NodeEvent} (run : (nodeRuns setup).Run events world)

include run

theorem subscriptionsMirrored_of_run : SubscriptionsMirrored world := by
  apply run.invariant (fun world initial => ?_) fun here _ step => NodeStep.mirrored step here
  rintro hdl channelId ⟨client, found, _⟩
  rw [initial.1] at found
  cases found

theorem tracked_of_run : Tracked NoException world :=
  run.invariant (fun _ => tracked_initial) fun here _ step => NodeStep.tracked step here

theorem viewSound_of_run (hdl : ConnHandle) : ViewSound world (clientView hdl world) := by
  have subscribed (channelId : ChannelId)
      (member : channelId ∈ (clientView hdl world).subscriptionsByChannel) :
      world.bridge.Subscribed channelId hdl := by
    cases found : world.server.clients.lookup hdl with
    | none =>
      unfold clientView at member
      rw [found] at member
      exact absurd member (AList.notMem_empty _)
    | some client =>
      rw [clientView_of_found found] at member
      exact subscriptionsMirrored_of_run run hdl channelId ⟨client, found, member⟩
  refine ⟨fun channelId member => ?_, fun channelId member => ?_⟩
  · exact Option.isSome_iff_ne_none.mp (AList.lookup_isSome.mpr (subscribed channelId member))
  · exact (tracked_of_run run).advertised channelId hdl (subscribed channelId member)

end Runs

end CoBridge.Ros2

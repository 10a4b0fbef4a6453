import CoBridge.Properties.Batches
import CoBridge.Properties.TopicReconciliation

/-!
# Subscriptions across topic updates

In every state a node reaches, the server and the bridge have the same subscriptions. An
update of the topics ends exactly those whose topic is not offered any more, in both of
them; and an update that finds the topics of the last one does nothing at all.
-/

namespace CoBridge.Ros2

open Library Action

variable {Rest : Type} {setup : Setup Rest} {world next : World (Bridge Rest)}
variable {events : List NodeEvent}

section Agreement

theorem records_iff_subscribed (run : (nodeRuns setup).Run events world) (hdl : ConnHandle)
    (channelId : ChannelId) :
    world.server.Records hdl channelId ↔ world.bridge.Subscribed channelId hdl := by
  refine ⟨subscriptionsMirrored_of_run run hdl channelId, fun subscribed => ?_⟩
  exact ((tracked_of_run run).recorded channelId hdl subscribed).resolve_left id

/-- In every state a node reaches, the server records exactly the subscriptions the bridge
holds, all of them to advertised channels. -/
theorem layers_agree (run : (nodeRuns setup).Run events world) (hdl : ConnHandle)
    (channelId : ChannelId) :
    (world.server.Records hdl channelId ↔ world.bridge.Subscribed channelId hdl) ∧
      (world.server.Records hdl channelId → channelId ∈ world.bridge.advertisedTopics) := by
  have agree := records_iff_subscribed run hdl channelId
  exact ⟨agree, fun recorded => (tracked_of_run run).advertised channelId hdl (agree.mp recorded)⟩

/-- A subscription that both layers record. -/
theorem layers_agree_subscribed : subscribedWorld.bridge.Subscribed 2 ⟨1⟩ ∧
    subscribedWorld.server.Records ⟨1⟩ 2 := by
  have subscribed : subscribedWorld.bridge.Subscribed 2 ⟨1⟩ := by decide +kernel
  exact ⟨subscribed, (layers_agree subscribedWorld_run ⟨1⟩ 2).1.mpr subscribed⟩

end Agreement

section Update

variable {channelId : ChannelId} {hdl : ConnHandle} {latest : KeySet TopicAndDatatype}

/-- Only the removal of channels touches the subscriptions. -/
theorem subscriptions_exchangeChannels (check : TextCheck) (latest : KeySet TopicAndDatatype)
    (world : World (Bridge Rest)) :
    (exchangeChannels check latest world).2.bridge.subscriptions =
      world.bridge.subscriptions.eraseAll (world.bridge.channelIdsToRemove latest) := by
  obtain ⟨removed, removes, bridge, _⟩ :=
    removeChannels_tables (world.bridge.channelIdsToRemove latest) world
  have adds : (do
      let channelsToAdd ← Action.gets fun world => world.bridge.channelsToAdd latest
      let channelIds ← addChannels check channelsToAdd
      modifyBridge (Bridge.advertise (channelIds.zip channelsToAdd)) :
        ServerAction (Bridge Rest) Unit).Meets
          (.frame fun world => world.bridge.subscriptions) := by
    apply Meets.bind (meets_gets _)
    intro channels
    apply Meets.bind
    · refine addChannels_meets check channels (fun _ => rfl) fun message world => ?_
      rw [broadcast_apply]
      exact congrArg Bridge.subscriptions (World.enqueueAll_bridge _ _ _)
    · exact fun _ => meets_modify fun _ => rfl
  rw [exchangeChannels, gets_bind_apply, modifyBridge, modify_bind_apply, bind_ok removes]
  exact (adds removed).trans (congrArg Bridge.subscriptions bridge)

theorem subscribed_exchangeChannels {check : TextCheck} :
    (exchangeChannels check latest world).2.bridge.Subscribed channelId hdl ↔
      world.bridge.Subscribed channelId hdl ∧
        channelId ∉ world.bridge.channelIdsToRemove latest := by
  simp only [Bridge.subscribed_iff, subscriptions_exchangeChannels, Table.lookup_eraseAll]
  split <;> simp [*]

/-- In every run, an update of the topics ends exactly the subscriptions to topics that are
not offered any more, in the bridge and in the server. -/
theorem topic_update_ends_exactly (run : (nodeRuns setup).Run events world)
    (ok : world.bridge.environment.ok = true) (named : world.bridge.environment.Named)
    (hdl : ConnHandle) (channelId : ChannelId) :
    let after := (updateAdvertisedTopics setup.dump setup.options world).2
    (after.bridge.Subscribed channelId hdl ↔ world.bridge.Subscribed channelId hdl ∧
      ∃ channel, world.bridge.advertisedTopics.lookup channelId = some channel ∧
        Offered setup.options world.bridge.environment (topicOf channel)) ∧
    (after.server.Records hdl channelId ↔ after.bridge.Subscribed channelId hdl) := by
  refine ⟨?_, records_iff_subscribed (.step run trivial .updateAdvertisedTopics) hdl channelId⟩
  obtain ⟨latest, selected, members⟩ := latestTopics_ok setup.options named
  have updated : updateAdvertisedTopics setup.dump setup.options world =
      exchangeChannels setup.dump latest world := by
    rw [updateAdvertisedTopics, gets_bind_apply, if_pos ok, selected, ofExcept_ok_bind_apply]
  rw [updated, subscribed_exchangeChannels]
  refine and_congr_right fun subscribed => ?_
  -- What is subscribed to is advertised.
  obtain ⟨channel, found⟩ := (Table.mem_iff_lookup _ _).mp
    ((tracked_of_run run).advertised channelId hdl subscribed)
  simp [mem_channelIdsToRemove, found, members]

/-- Of the two topics that the client subscribed to, ROS has `/a` only. -/
def vanishedWorld : World (Bridge Unit) :=
  { subscribedWorld with bridge.environment := { Environment.quiet with
    topics := Table.emplace "/a" ⟨["demo/msg/T"], [], []⟩ ∅ } }

/-- The subscription to `/b` ends and the one to `/a` stays. -/
theorem topic_update_ends_exactly_two_topics :
    let after := (updateAdvertisedTopics batchSetup.dump batchSetup.options vanishedWorld).2
    vanishedWorld.bridge.Subscribed 1 ⟨1⟩ ∧ vanishedWorld.bridge.Subscribed 2 ⟨1⟩ ∧
      (after.bridge.Subscribed 1 ⟨1⟩ ∧ after.server.Records ⟨1⟩ 1) ∧
      ¬ after.bridge.Subscribed 2 ⟨1⟩ ∧ ¬ after.server.Records ⟨1⟩ 2 := by
  have named : vanishedWorld.bridge.environment.Named := by
    intro name member
    obtain rfl | none := (Table.mem_emplace _ _ _ _).mp member
    · decide
    · exact absurd none (AList.notMem_empty name)
  have run : (nodeRuns batchSetup).Run _ vanishedWorld :=
    .step subscribedWorld_run trivial (.surroundings ⟨_, _, _, _, rfl⟩)
  have ends := topic_update_ends_exactly run rfl named ⟨1⟩
  have first : (vanishedWorld.bridge.advertisedTopics.lookup 1).map topicOf =
      some ("/a", "demo/msg/T") := by decide +kernel
  have second : (vanishedWorld.bridge.advertisedTopics.lookup 2).map topicOf =
      some ("/b", "demo/msg/T") := by decide +kernel
  obtain ⟨channel, found, topic⟩ := Option.map_eq_some_iff.mp first
  have offered : Offered batchSetup.options vanishedWorld.bridge.environment (topicOf channel) := by
    rw [topic]
    exact ⟨_, rfl, List.mem_cons_self, .inr (by decide), by decide⟩
  have kept := (ends 1).1.mpr ⟨by decide +kernel, channel, found, offered⟩
  have ended := mt (ends 2).1.mp (by
    rintro ⟨_, gone, advertised, info, offered, _⟩
    rw [advertised, Option.map_some, Option.some_inj] at second
    rw [second] at offered
    cases offered)
  exact ⟨by decide +kernel, by decide +kernel, ⟨kept, (ends 1).2.mpr kept⟩, ended,
    mt (ends 2).2.mp ended⟩

end Update

section Rest

variable {check : TextCheck} {options : Options} {history : TopicHistory Rest}
variable {environment : Environment} {polls : List TopicEvent}

theorem exchangeChannels_nothing {latest : KeySet TopicAndDatatype}
    (removed : world.bridge.channelIdsToRemove latest = [])
    (missing : world.bridge.missingChannels latest = []) :
    exchangeChannels check latest world = (.ok (), world) := by
  have nothing : world.bridge.channelsToAdd latest = [] := by
    rw [Bridge.missingChannels, removed] at missing
    exact missing
  have removes : removeChannels [] world = (.ok (), world) := rfl
  rw [exchangeChannels, gets_bind_apply, removed, modifyBridge, modify_bind_apply]
  change (removeChannels [] >>= _) world = _
  rw [bind_ok removes, gets_bind_apply, nothing]
  rfl

/-- After an update, any number of updates with the same snapshot changes nothing and sends
nothing, as long as nobody else touches the channels. -/
theorem topic_update_settles (check : TextCheck) (options : Options)
    (run : (topicSystem check options).GuardedRun (Regular check options) polls history)
    (regular : Regular check options history (.poll environment))
    (tables : channelTables world = (history.poll check options environment).tables)
    (same : world.bridge.environment = environment) :
    updateAdvertisedTopics check options world = (.ok (), world) := by
  have accounted := run.invariant (fun _ => accounted_initial) accounted_step
  have reconciled := (poll_reconciles accounted regular).2
  obtain ⟨latest, selected, members⟩ := latestTopics_ok options regular.2.1
  have held : (world.bridge.registry world.server.nextChannelId) =
      (history.poll check options environment).tables.advertised :=
    congrArg ChannelTables.advertised tables
  have removed : world.bridge.channelIdsToRemove latest = [] := by
    rw [List.eq_nil_iff_forall_not_mem]
    intro id member
    obtain ⟨channel, found, vanished⟩ := mem_channelIdsToRemove.mp member
    refine vanished ((members _).mpr (reconciled.offered ?_))
    rw [← held]
    exact ⟨id, channel, found, rfl⟩
  have missing : world.bridge.missingChannels latest = [] := by
    rw [← List.map_eq_nil_iff, List.eq_nil_iff_forall_not_mem]
    intro topic member
    obtain ⟨offered, absent, found⟩ := (mem_missing_iff world.server.nextChannelId).mp member
    rw [held] at absent
    rw [same] at found
    exact (reconciled.complete ((members topic).mp offered)).elim absent fun failed =>
      found failed.2
  rw [updateAdvertisedTopics, gets_bind_apply, same, if_pos regular.1, selected,
    ofExcept_ok_bind_apply]
  exact exchangeChannels_nothing removed missing

/-- One topic, advertised before. -/
theorem topic_update_settles_chatter :
    updateAdvertisedTopics writesAll openOptions chatterHistory.world =
      (.ok (), chatterHistory.world) := by
  have named : chatter.Named := by
    intro name member
    rcases (Table.mem_emplace _ _ _ _).mp member with rfl | impossible
    · decide
    · exact absurd impossible (AList.notMem_empty name)
  have started : (topicSystem writesAll openOptions).GuardedRun (Regular writesAll openOptions) []
      TopicHistory.start := .initial ⟨rfl, ⟨_, _, rfl⟩, rfl, rfl⟩
  exact topic_update_settles writesAll openOptions started
    ⟨rfl, named, by decide +kernel, fun _ _ _ _ => rfl⟩ rfl rfl

end Rest

end CoBridge.Ros2

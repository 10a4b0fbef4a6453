import CoBridge.Library.Schedule
import CoBridge.Properties.CallbacksObey

/-!
# No leaked ROS subscription

Whatever the interleaving of the callback worker and the poll thread, whenever
the worker is between two callbacks the server records every ROS subscription
the bridge holds.
-/

namespace CoBridge.Ros2

open Library Action Table

variable {Rest : Type} {setup : Setup Rest}
variable {channelIds : List ChannelId} {shared : World (Bridge Rest) × Progress}

/-- The poll thread holds the mutex, and nobody is subscribed to the channels it
is about to remove. -/
def Holding (channelIds : List ChannelId) (shared : World (Bridge Rest) × Progress) : Prop :=
  shared.2.subscriptionsLocked = true ∧
    ∀ channelId ∈ channelIds, ∀ hdl, ¬shared.1.bridge.Subscribed channelId hdl

theorem Holding.afterCallbacks {before after : World (Bridge Rest) × Progress}
    (holding : Holding channelIds before) (kept : CallbacksKeep before after) :
    Holding channelIds after := by
  refine ⟨kept.locked.trans holding.1, fun channelId member hdl subscribed => ?_⟩
  exact holding.2 channelId member hdl (kept.subscribed holding.1 channelId hdl subscribed)

/-- A section of the poll thread that leaves both layers' subscriptions alone. -/
theorem poll_obeys_of_frame {Value : Type} {label : Section}
    {action : ServerAction (Bridge Rest) Value} (frame : action.Meets (.frame subscriptionView))
    (returns : action.Returns)
    (locks : ∀ progress : Progress,
      (progress.after label).subscriptionsLocked = progress.subscriptionsLocked)
    {channelIds : List ChannelId} {shared : World (Bridge Rest) × Progress}
    (holding : Holding channelIds shared)
    {post : Except Fault Value → World (Bridge Rest) × Progress → Prop}
    (continues : ∀ value reached, Holding channelIds reached → post (.ok value) reached) :
    (Program.perform label action).Obeys pollOutline post shared := by
  apply Program.obeys_perform
  intro reached kept _
  obtain ⟨locked, nobody⟩ := holding.afterCallbacks kept
  obtain ⟨value, done⟩ := returns reached.1
  refine ⟨.of_view (frame reached.1) _ _, ?_⟩
  rw [done]
  refine continues value _ ⟨(locks reached.2).trans locked, fun channelId member hdl => ?_⟩
  rw [subscribed_of_view (frame reached.1)]
  exact nobody channelId member hdl

theorem broadcast_view (message : ServerMessage) :
    (broadcast message : ServerAction (Bridge Rest) Unit).Meets (.frame subscriptionView) := by
  intro world
  rw [broadcast_apply]
  change subscriptionView (world.enqueueAll _ message) = subscriptionView world
  simp [subscriptionView]

/-- Telling the clients about channels without subscribers loses nothing. -/
theorem announceRemoval_keeps (holding : Holding channelIds shared) (progress : Progress) :
    PollKeeps shared ((announceRemoval channelIds shared.1).2, progress) := by
  have after : (announceRemoval channelIds shared.1).2 =
      { shared.1 with server := shared.1.server.dropChannels channelIds }.enqueueAll
        (shared.1.server.dropChannels channelIds).clients.keys (.unadvertise channelIds) := by
    unfold announceRemoval
    rw [modifyServer_bind_apply, broadcast_apply]
  rw [after]
  constructor
  · intro hdl
    rw [World.enqueueAll_server]
    exact mem_mapWithKey _ _ _
  · intro channelId hdl subscribed
    rw [World.enqueueAll_bridge] at subscribed
    rw [World.enqueueAll_bridge, World.enqueueAll_server]
    refine ⟨subscribed, id, fun recorded => Server.records_dropChannels.mpr ⟨recorded, ?_⟩⟩
    exact fun member => holding.2 channelId member hdl subscribed

theorem removeChannelsSections_obeys (holding : Holding channelIds shared)
    {post : Except Fault Unit → World (Bridge Rest) × Progress → Prop}
    (continues : ∀ reached, Holding channelIds reached → post (.ok ()) reached) :
    (removeChannelsSections channelIds).Obeys pollOutline post shared := by
  unfold removeChannelsSections
  split
  · exact continues shared holding
  apply Program.Obeys.bind
  apply poll_obeys_of_frame (modifyServer_view (Server.eraseChannels channelIds) fun _ => rfl)
    (returns_modify _) (fun _ => rfl) holding
  intro _ erased holding
  apply Program.obeys_perform
  intro reached kept _
  have holdingReached := holding.afterCallbacks kept
  have returned : (announceRemoval channelIds reached.1).1 = .ok () := by
    unfold announceRemoval
    rw [modifyServer_bind_apply, broadcast_apply]
  have announced :=
    announceRemoval_keeps holdingReached (reached.2.after (.announceRemoval channelIds))
  refine ⟨announced, ?_⟩
  rw [returned]
  refine continues _ ⟨holdingReached.1, fun channelId member hdl subscribed => ?_⟩
  exact holdingReached.2 channelId member hdl (announced.subscribed channelId hdl subscribed).1

theorem addChannelsSections_obeys (check : TextCheck) (channels : List ChannelWithoutId)
    {shared : World (Bridge Rest) × Progress} (holding : Holding channelIds shared)
    {post : Except Fault (Except Fault (List ChannelId)) → World (Bridge Rest) × Progress → Prop}
    (continues : ∀ added reached, Holding channelIds reached → post (.ok added) reached) :
    (addChannelsSections check channels).Obeys pollOutline post shared := by
  unfold addChannelsSections
  split
  · exact continues (.ok []) shared holding
  have registers : (registerChannels channels : ServerAction (Bridge Rest) _).Meets
      (.frame subscriptionView) := by
    apply Meets.bind (meets_gets _)
    intro newChannels
    apply Meets.bind (modifyServer_view (fun server => (server.registerChannels channels).2)
      (Server.registerChannels_clients channels))
    intro _
    exact meets_pure _
  apply Program.Obeys.bind
  apply poll_obeys_of_frame registers (fun _ => ⟨_, rfl⟩) (fun _ => rfl) holding
  intro newChannels registered holding
  have announces : (announceChannels check newChannels : ServerAction (Bridge Rest) _).Meets
      (.frame subscriptionView) := by
    apply Meets.bind (meets_ofExcept _)
    intro _
    exact (broadcast_view _).bind fun _ => meets_pure _
  exact poll_obeys_of_frame announces.attempt (fun _ => ⟨_, rfl⟩) (fun _ => rfl) holding continues

/-- Forgetting channels with their subscriptions loses nothing. -/
theorem retire_keeps (shared : World (Bridge Rest) × Progress) (channelIds : List ChannelId)
    (progress : Progress) :
    PollKeeps shared
      ({ shared.1 with bridge := shared.1.bridge.retire channelIds }, progress) where
  clients _ := Iff.rfl
  subscribed channelId hdl subscribed := by
    obtain ⟨earlier, kept⟩ := (subscribed_retire _ _ _ _).mp subscribed
    exact ⟨earlier, fun advertised => (mem_eraseAll _ _ _).mpr ⟨kept, advertised⟩, id⟩

theorem mem_advertise (bridge : Bridge Rest) (channels : List (ChannelId × ChannelWithoutId))
    {channelId : ChannelId} (advertised : channelId ∈ bridge.advertisedTopics) :
    channelId ∈ (bridge.advertise channels).advertisedTopics := by
  unfold Bridge.advertise
  generalize bridge.advertisedTopics = table at advertised
  induction channels generalizing table with
  | nil => exact advertised
  | cons channel rest ih =>
    exact ih _ ((mem_emplace _ _ _ _).mpr (.inr advertised))

/-- Entering channels loses nothing. -/
theorem advertise_keeps (shared : World (Bridge Rest) × Progress)
    (channels : List (ChannelId × ChannelWithoutId)) (progress : Progress) :
    PollKeeps shared
      ({ shared.1 with bridge := shared.1.bridge.advertise channels }, progress) where
  clients _ := Iff.rfl
  subscribed _ _ subscribed := ⟨subscribed, mem_advertise shared.1.bridge channels, id⟩

theorem exchangeChannelsSections_obeys (check : TextCheck) (latest : KeySet TopicAndDatatype)
    (shared : World (Bridge Rest) × Progress) :
    (exchangeChannelsSections check latest).Obeys pollOutline (fun _ => restsTracked .poll)
      shared := by
  apply Program.Obeys.bind
  apply Program.obeys_perform
  intro reached _ _
  refine ⟨retire_keeps reached (reached.1.bridge.channelIdsToRemove latest) _, ?_⟩
  have holding : Holding (reached.1.bridge.channelIdsToRemove latest)
      ({ reached.1 with
        bridge := reached.1.bridge.retire (reached.1.bridge.channelIdsToRemove latest) },
        reached.2.after .retireTopics) := by
    refine ⟨rfl, fun channelId member hdl subscribed => ?_⟩
    exact ((subscribed_retire _ _ _ _).mp subscribed).2 member
  apply Program.Obeys.bind
  apply removeChannelsSections_obeys holding
  intro removed holding
  apply Program.Obeys.bind
  apply poll_obeys_of_frame (meets_gets _) (returns_gets _) (fun _ => rfl) holding
  intro channelsToAdd selected holding
  apply Program.Obeys.bind
  apply addChannelsSections_obeys check channelsToAdd holding
  intro added _ holding
  apply Program.obeys_perform
  intro last _ _
  cases added with
  | error fault => exact ⟨.of_view rfl _ _, rfl⟩
  | ok channelIds => exact ⟨advertise_keeps last _ _, rfl⟩

theorem updateAdvertisedTopicsSections_obeys (unlocked : shared.2.subscriptionsLocked = false) :
    (updateAdvertisedTopicsSections setup.dump setup.options).Obeys pollOutline
      (fun _ => restsTracked .poll) shared := by
  apply Program.Obeys.bind
  apply Program.obeys_perform
  intro reached kept _
  have unlockedReached : reached.2.subscriptionsLocked = false := kept.locked.trans unlocked
  refine ⟨.of_view rfl _ _, ?_⟩
  change Program.Obeys _ _ (ite _ _ _) reached
  split
  · apply Program.Obeys.bind
    rcases latestTopics setup.options reached.1.bridge.environment.topics with fault | latest
    · exact unlockedReached
    · exact exchangeChannelsSections_obeys _ latest _
  · exact unlockedReached

def outlines : Thread → Outline Section (World (Bridge Rest)) Progress
  | .callbacks => callbacksOutline
  | .poll => pollOutline

theorem threads_composable :
    Pool.Composable discipline (Starts setup) Acts outlines restsTracked where
  effect thread := by cases thread <;> rfl
  others thread other shared reached different kept := by
    cases thread with
    | callbacks =>
      cases other with
      | callbacks => exact absurd rfl different
      | poll => exact kept
    | poll =>
      cases other with
      | callbacks => exact kept
      | poll => exact absurd rfl different
  surroundings thread world next progress acts := by
    have same : subscriptionView next = subscriptionView world := by
      obtain ⟨environment, rest, link, now, rfl⟩ := acts
      rfl
    cases thread with
    | callbacks => exact .of_view same progress progress
    | poll => exact .of_view same progress
  stable thread shared reached kept rests := by
    cases thread with
    | callbacks => exact Tracked.afterPoll rests kept
    | poll => exact kept.locked.trans rests
  starts thread program shared starts rests := by
    cases starts with
    | login payload hdl => exact handleLoginSections_obeys payload hdl rests
    | subscribe payload hdl => exact handleSubscribeSections_obeys payload hdl rests
    | unsubscribe payload hdl => exact handleUnsubscribeSections_obeys payload hdl rests
    | closed hdl => exact handleConnectionClosedSections_obeys hdl rests
    | poll => exact updateAdvertisedTopicsSections_obeys rests

theorem restsTracked_started (started : Started shared) (thread : Thread) :
    restsTracked thread shared := by
  obtain ⟨_, ⟨environment, rest, bridge⟩, progress⟩ := started
  have nobody (channelId : ChannelId) (hdl : ConnHandle) :
      ¬shared.1.bridge.Subscribed channelId hdl := by
    rw [bridge, Bridge.subscribed_iff]
    rintro ⟨clients, found, _⟩
    cases found
  cases thread with
  | callbacks =>
    exact ⟨fun channelId hdl subscribed => absurd subscribed (nobody channelId hdl),
      fun channelId hdl subscribed => absurd subscribed (nobody channelId hdl)⟩
  | poll => exact congrArg Progress.subscriptionsLocked progress

/-- In every interleaving, whenever the callback worker is between callbacks, a
ROS subscription of a client is recorded by the server. -/
theorem subscription_not_leaked {events : List (PoolEvent Thread Section)} {pool : NodePool Rest}
    (run : (nodeThreads setup).Run events pool) (idle : pool.Idle .callbacks)
    {channelId : ChannelId} {hdl : ConnHandle}
    (subscribed : pool.shared.1.bridge.Subscribed channelId hdl) :
    ∃ client, pool.shared.1.server.clients.lookup hdl = some client ∧
      channelId ∈ client.subscriptionsByChannel := by
  have rests := Pool.rest_of_run threads_composable
    (fun shared thread started => restsTracked_started started thread)
    (fun pool thread label _ enabled => by
      cases thread with
      | callbacks => exact enabled
      | poll => trivial) run idle
  exact (rests.recorded channelId hdl subscribed).resolve_left id

/-- ROS has one topic. -/
def oneTopic : Environment :=
  { Environment.quiet with
    topics := (∅ : Table String TopicInfo).insert "/a" ⟨["demo/msg/T"], [], []⟩ }

def quietSetup : Setup Unit := .open [] fun _ => .ok .null

def startedPool : NodePool Unit where
  shared := (World.initial (.initial oneTopic ()), ⟨false, []⟩)
  threads := fun _ => .done (.ok ())

/-- The topic is advertised and a client is logged in. -/
def loggedInPool : NodePool Unit :=
  Pool.play discipline .callbacks 6
    ((Pool.play discipline .poll 6
      (startedPool.setThread .poll
        (updateAdvertisedTopicsSections quietSetup.dump quietSetup.options))).setThread
        .callbacks (handleLoginSections quietSetup.config loginPayload ⟨1⟩))

/-- The client's subscribe request has found the channel and subscribed in the bridge. -/
def halfwayPool : NodePool Unit :=
  Pool.play discipline .callbacks 3 (loggedInPool.setThread .callbacks
    (handleSubscribeSections quietSetup.config (subscribePayload [(7, 1)]) ⟨1⟩))

/-- The request has recorded the subscription. -/
def servedPool : NodePool Unit := Pool.play discipline .callbacks 1 halfwayPool

theorem halfwayPool_reached :
    Pool.Reached (nodeThreads quietSetup) (fun _ _ => True) halfwayPool := by
  have started : Pool.Reached (nodeThreads quietSetup) (fun _ _ => True) startedPool :=
    ⟨[], .initial ⟨⟨rfl, ⟨oneTopic, (), rfl⟩, rfl⟩, fun _ => ⟨_, rfl⟩⟩⟩
  have polled := (started.start trivial rfl .poll).play .poll 6 (by decide +kernel)
  have loggedIn := (polled.start trivial (by decide +kernel) (.login loginPayload ⟨1⟩)).play
    .callbacks 6 (by decide +kernel)
  exact (loggedIn.start trivial (by decide +kernel)
    (.subscribe (subscribePayload [(7, 1)]) ⟨1⟩)).play .callbacks 3 (by decide +kernel)

/-- A subscription whose topic stayed. -/
theorem subscription_not_leaked_served : servedPool.shared.1.bridge.Subscribed 1 ⟨1⟩ ∧
    ∃ client, servedPool.shared.1.server.clients.lookup ⟨1⟩ = some client ∧
      1 ∈ client.subscriptionsByChannel := by
  have subscribed : servedPool.shared.1.bridge.Subscribed 1 ⟨1⟩ := by decide +kernel
  obtain ⟨events, run⟩ := halfwayPool_reached.play .callbacks 1 (by decide +kernel)
  exact ⟨subscribed,
    subscription_not_leaked run (Pool.idle_of_isIdle (by decide +kernel)) subscribed⟩

end CoBridge.Ros2

import CoBridge.Properties.SubscriptionTracking

/-!
# The callbacks keep track of the subscriptions

Logins, subscribe and unsubscribe requests and disconnects, section by section:
each starts and ends with every ROS subscription recorded, whatever the poll
thread does in between.
-/

namespace CoBridge.Ros2

open Library Action Table

variable {Rest : Type} {setup : Setup Rest}
variable {hdl : ConnHandle} {shared : World (Bridge Rest) × Progress} (payload : Json)

/-- A section of the worker that leaves both layers' subscriptions alone. -/
theorem obeys_of_frame {Value : Type} {label : Section}
    {action : ServerAction (Bridge Rest) Value} (frame : action.Meets (.frame subscriptionView))
    (idles : ∀ progress : Progress, progress.after label = progress)
    {post : Except Fault Value → World (Bridge Rest) × Progress → Prop}
    {shared : World (Bridge Rest) × Progress}
    (established : ∀ reached, PollKeeps shared reached →
      post (action reached.1).1 ((action reached.1).2, reached.2)) :
    (Program.perform label action).Obeys callbacksOutline post shared := by
  apply Program.obeys_perform
  intro reached kept _
  change CallbacksKeep reached (_, reached.2.after label) ∧ post _ (_, reached.2.after label)
  rw [idles]
  exact ⟨.of_view (frame reached.1) reached.2, established reached kept⟩

theorem sendStatusAndLogMsg_view (hdl : ConnHandle) (level : StatusLevel) (message : String) :
    (sendStatusAndLogMsg hdl level message : ServerAction (Bridge Rest) Unit).Meets
      (.frame subscriptionView) := by
  intro world
  rw [sendStatusAndLogMsg_apply]
  change subscriptionView (world.enqueue hdl _) = subscriptionView world
  simp [subscriptionView]

/-- The client is registered and everything is tracked. -/
def Serving (hdl : ConnHandle) (shared : World (Bridge Rest) × Progress) : Prop :=
  hdl ∈ shared.1.server.clients ∧ Tracked NoException shared.1

theorem Serving.afterPoll {before after : World (Bridge Rest) × Progress}
    (serving : Serving hdl before) (kept : PollKeeps before after) : Serving hdl after :=
  ⟨(kept.clients hdl).mpr serving.1, serving.2.afterPoll kept⟩

/-- What the loops over the entries of a request keep. -/
def servingPost (hdl : ConnHandle) : Except Fault Unit → World (Bridge Rest) × Progress → Prop
  | .ok _ => Serving hdl
  | .error _ => fun shared => Tracked NoException shared.1

theorem servingPost_of_serving (result : Except Fault Unit)
    {shared : World (Bridge Rest) × Progress} (serving : Serving hdl shared) :
    servingPost hdl result shared := by
  cases result with
  | error fault => exact serving.2
  | ok value => exact serving

theorem sendStatus_obeys (serving : Serving hdl shared) (level : StatusLevel) (message : String) :
    (Program.perform (.sendStatus hdl) (sendStatusAndLogMsg hdl level message)).Obeys
      callbacksOutline (servingPost hdl) shared := by
  apply obeys_of_frame (sendStatusAndLogMsg_view hdl level message) fun _ => rfl
  intro reached kept
  have reachedServing := serving.afterPoll kept
  have view := sendStatusAndLogMsg_view hdl level message reached.1
  apply servingPost_of_serving
  refine ⟨?_, reachedServing.2.of_view view⟩
  rw [show (sendStatusAndLogMsg hdl level message reached.1).2.server.clients =
    reached.1.server.clients from congrArg (·.1) view]
  exact reachedServing.1

theorem subscribeEntrySections_obeys (serving : Serving hdl shared)
    (snapshot : Table ChannelId SubscriptionId) (entry : SubscriptionId × ChannelId) :
    (subscribeEntrySections setup.config hdl snapshot entry).Obeys callbacksOutline
      (servingPost hdl) shared := by
  apply Program.Obeys.bind
  apply obeys_of_frame (meets_gets _) fun _ => rfl
  intro reached kept
  have reachedServing := serving.afterPoll kept
  change Program.Obeys _ _ (ite _ _ _) reached
  split
  · exact sendStatus_obeys reachedServing _ _
  split
  · exact sendStatus_obeys reachedServing _ _
  apply Program.Obeys.bind
  apply Program.obeys_perform
  intro called keptCalled admitted
  obtain ⟨registered, tracked⟩ := reachedServing.afterPoll keptCalled
  have unlocked : called.2.subscriptionsLocked = false := admitted rfl
  have after := tracked.afterSubscribe entry.2 hdl
    (called.1.recordCall (.subscribe entry.2 hdl)).calls
  rw [callHandler_subscribe]
  refine ⟨⟨rfl, fun held => ?_⟩, ?_⟩
  · rw [unlocked] at held
    cases held
  rcases outcome : (subscribe entry.2 hdl called.1.bridge).outcome with fault | _
  · rw [outcome] at after
    exact after.mono fun _ _ _ impossible => absurd impossible.1 (by simp)
  apply Program.obeys_perform
  intro last keptLast _
  have registeredLast : hdl ∈ last.1.server.clients := (keptLast.clients hdl).mpr registered
  have trackedLast := (after.mono fun _ _ _ pair => .inl pair.2).afterPoll keptLast
  rw [updateClient_apply, if_pos registeredLast]
  refine ⟨⟨rfl, fun _ _ _ => id⟩, ?_, trackedLast.afterRecord registeredLast entry.1⟩
  exact (mem_modify _ _ _ _).mpr registeredLast

theorem readClient_obeys {next : ClientInfo → ServerProgram (Bridge Rest) Unit}
    (tracked : Tracked NoException shared.1) (continues : ∀ client reached, Serving hdl reached →
      (next client).Obeys callbacksOutline (fun _ => restsTracked .callbacks) reached) :
    (Program.perform (.readClient hdl) (clientAt hdl) >>= next).Obeys callbacksOutline
      (fun _ => restsTracked .callbacks) shared := by
  apply Program.Obeys.bind
  apply obeys_of_frame (fun world => by rw [clientAt_eq]; exact Guarantee.refl _ world) fun _ => rfl
  intro reached kept
  have trackedReached := tracked.afterPoll kept
  rw [clientAt_apply]
  rcases found : reached.1.server.clients.lookup hdl with _ | client
  · exact trackedReached
  · exact continues client reached ⟨mem_of_lookup found, trackedReached⟩

/-- A loop over the entries of a request, each read before it is served. -/
theorem entries_obey {Entry : Type} (read : Json → Except Fault Entry)
    (serve : Entry → ServerProgram (Bridge Rest) Unit)
    (serves : ∀ entry shared, Serving hdl shared →
      (serve entry).Obeys callbacksOutline (servingPost hdl) shared) (items : List Json)
    {shared : World (Bridge Rest) × Progress} (serving : Serving hdl shared) :
    (Program.forEach items fun item => Program.ofExcept (read item) >>= serve).Obeys
      callbacksOutline (fun _ => restsTracked .callbacks) shared := by
  refine Program.obeys_forEach (fun _ => Serving hdl) ?_ (fun _ => And.right) serving
  intro item rest reached servingReached
  apply Program.Obeys.bind
  rcases read item with fault | entry
  · exact servingReached.2
  · refine (serves entry reached servingReached).mono fun result final post => ?_
    cases result with
    | error fault => exact post
    | ok value => exact post

theorem handleSubscribeSections_obeys (hdl : ConnHandle) {shared : World (Bridge Rest) × Progress}
    (tracked : Tracked NoException shared.1) :
    (handleSubscribeSections setup.config payload hdl).Obeys callbacksOutline
      (fun _ => restsTracked .callbacks) shared := by
  apply readClient_obeys tracked
  intro client reached serving
  apply Program.Obeys.bind
  rcases payload.atKey "subscriptions" with fault | subscriptions
  · exact serving.2
  · exact entries_obey subscriptionEntry _
      (fun entry _ here => subscribeEntrySections_obeys here client.subscriptionsByChannel entry)
      subscriptions.elements serving

theorem unsubscribeEntrySections_obeys (serving : Serving hdl shared)
    (snapshot : Table ChannelId SubscriptionId) (subId : SubscriptionId) :
    (unsubscribeEntrySections setup.config hdl snapshot subId).Obeys callbacksOutline
      (servingPost hdl) shared := by
  unfold unsubscribeEntrySections
  rcases findSubscriptionBySubId snapshot subId with _ | channelId
  · exact sendStatus_obeys serving _ _
  apply Program.Obeys.bind
  apply Program.obeys_perform
  intro called kept _
  obtain ⟨registered, tracked⟩ := serving.afterPoll kept
  have after := tracked.afterUnsubscribe channelId hdl
    (called.1.recordCall (.unsubscribe channelId hdl)).calls
  rw [callHandler_unsubscribe]
  refine ⟨⟨rfl, fun _ _ _ subscribed => ((subscribed_unsubscribe _ _ _ _ _).mp subscribed).1⟩, ?_⟩
  rcases (unsubscribe channelId hdl called.1.bridge).outcome with fault | _
  · exact after
  apply Program.obeys_perform
  intro last keptLast _
  have registeredLast : hdl ∈ last.1.server.clients := (keptLast.clients hdl).mpr registered
  have absent : ¬last.1.bridge.Subscribed channelId hdl := fun subscribed =>
    tracked.unsubscribed channelId hdl (keptLast.subscribed channelId hdl subscribed).1
  rw [updateClient_apply, if_pos registeredLast]
  refine ⟨⟨rfl, fun _ _ _ => id⟩, ?_, (after.afterPoll keptLast).afterForget absent⟩
  exact (mem_modify _ _ _ _).mpr registeredLast

theorem handleUnsubscribeSections_obeys (hdl : ConnHandle) {shared : World (Bridge Rest) × Progress}
    (tracked : Tracked NoException shared.1) :
    (handleUnsubscribeSections setup.config payload hdl).Obeys callbacksOutline
      (fun _ => restsTracked .callbacks) shared := by
  apply readClient_obeys tracked
  intro client reached serving
  apply Program.Obeys.bind
  rcases payload.atKey "subscriptionIds" with fault | subscriptionIds
  · exact serving.2
  · exact entries_obey Json.getUInt32 _
      (fun subId _ here => unsubscribeEntrySections_obeys here client.subscriptionsByChannel subId)
      subscriptionIds.elements serving

/-- A section of the worker that returns and keeps what is tracked, whatever is
excepted. -/
theorem tracked_obeys {Value : Type} {label : Section}
    {action : ServerAction (Bridge Rest) Value} (frame : action.Meets (.frame subscriptionView))
    (returns : action.Returns) (idles : ∀ progress : Progress, progress.after label = progress)
    {excepted : ChannelId → ConnHandle → Prop} {shared : World (Bridge Rest) × Progress}
    (tracked : Tracked excepted shared.1)
    {post : Except Fault Value → World (Bridge Rest) × Progress → Prop}
    (continues : ∀ value reached, Tracked excepted reached.1 → post (.ok value) reached) :
    (Program.perform label action).Obeys callbacksOutline post shared := by
  apply obeys_of_frame frame idles
  intro reached kept
  obtain ⟨value, done⟩ := returns reached.1
  rw [done]
  exact continues value _ ((tracked.afterPoll kept).of_view (frame reached.1))

theorem unsubscribeChannelsSections_obeys {channelIds : List ChannelId}
    (tracked : Tracked (OwnedBy hdl channelIds) shared.1) :
    (unsubscribeChannelsSections setup.config hdl channelIds).Obeys callbacksOutline
      (fun _ reached => Tracked NoException reached.1) shared := by
  refine Program.obeys_forEach (fun left reached => Tracked (OwnedBy hdl left) reached.1)
    ?_ ?_ tracked
  · intro channelId left reached here
    apply Program.obeys_perform
    intro called kept _
    have trackedCalled := here.afterPoll kept
    have after := trackedCalled.afterUnsubscribe channelId hdl
      (called.1.recordCall (.unsubscribe channelId hdl)).calls
    rw [callHandlerLogged_unsubscribe]
    refine ⟨⟨rfl, fun _ _ _ subscribed => ((subscribed_unsubscribe _ _ _ _ _).mp subscribed).1⟩, ?_⟩
    refine after.mono fun other owner subscribed owned => .inl ⟨owned.1, ?_⟩
    rcases List.mem_cons.mp owned.2 with rfl | listed
    · cases owned.1
      exact absurd subscribed (trackedCalled.unsubscribed other hdl)
    · exact listed
  · intro reached done
    exact done.mono fun _ _ _ owned => absurd owned.2 List.not_mem_nil

theorem callHandlerLogged_view {call : HandlerCall} (other : changesSubscriptions call = false) :
    (callHandlerLogged setup.config call).Meets (.frame subscriptionView) :=
  callHandlerLogged_meets (callHandler_view setup other)

theorem unsubscribeParams_view (hdl : ConnHandle) (names : List String) :
    (unsubscribeParamsWithoutSubscriptions setup.config hdl names).Meets
      (.frame subscriptionView) :=
  unsubscribeParams_meets (sendStatusAndLogMsg_view hdl) (fun _ => callHandler_view setup rfl) names

theorem takeParamSubscriptions_view (hdl : ConnHandle) :
    (takeParamSubscriptions hdl : ServerAction (Bridge Rest) _).Meets
      (.frame subscriptionView) := by
  apply Meets.bind (meets_gets _)
  intro names
  apply Meets.bind (modifyServer_view (Server.eraseParamSubscriptions hdl) fun _ => rfl)
  intro _
  exact meets_pure _

theorem unadvertiseChannelsSections_obeys {excepted : ChannelId → ConnHandle → Prop}
    (tracked : Tracked excepted shared.1) (channelIds : List ClientChannelId)
    {post : Except Fault Unit → World (Bridge Rest) × Progress → Prop}
    (continues : ∀ reached, Tracked excepted reached.1 → post (.ok ()) reached) :
    (unadvertiseChannelsSections setup.config hdl channelIds).Obeys
      callbacksOutline post shared := by
  refine Program.obeys_forEach (fun _ reached => Tracked excepted reached.1) ?_ continues tracked
  intro channelId left reached here
  have registered : setup.config.handlers.clientUnadvertiseHandler.isSome = true := rfl
  refine tracked_obeys (callHandlerLogged_view rfl) ?_ (fun _ => rfl) here fun _ _ => id
  intro world
  exact ⟨(), by rw [callHandlerLogged_clientUnadvertise]⟩

theorem releaseClientSections_obeys {client : ClientInfo}
    (tracked : Tracked (OwnedBy hdl client.subscriptionsByChannel.keys) shared.1) :
    (releaseClientSections setup.config hdl client).Obeys callbacksOutline
      (fun _ => restsTracked .callbacks) shared := by
  apply Program.Obeys.bind
  apply unadvertiseChannelsSections_obeys tracked
  intro unadvertised tracked
  apply Program.Obeys.bind
  apply tracked_obeys (modifyServer_view (Server.eraseClientChannels hdl) fun _ => rfl)
    (returns_modify _) (fun _ => rfl) tracked
  intro _ erased tracked
  apply Program.Obeys.bind
  refine (unsubscribeChannelsSections_obeys tracked).mono fun result unsubscribed tracked => ?_
  rcases result with fault | _
  · exact tracked
  apply Program.Obeys.bind
  apply tracked_obeys (takeParamSubscriptions_view hdl) (fun _ => ⟨_, rfl⟩) (fun _ => rfl) tracked
  intro names taken tracked
  apply obeys_of_frame (unsubscribeParams_view hdl names.keys) fun _ => rfl
  intro reached kept
  exact (tracked.afterPoll kept).of_view (unsubscribeParams_view hdl names.keys reached.1)

theorem releaseConnectionGraph_view :
    (releaseConnectionGraph setup.config).Meets (.frame subscriptionView) :=
  releaseConnectionGraph_meets (fun _ => modifyServer_view _ fun _ => rfl)
    (callHandler_view setup rfl)

/-- A disconnect keeps to the outline of the callback thread. -/
theorem handleConnectionClosedSections_obeys (hdl : ConnHandle)
    {shared : World (Bridge Rest) × Progress} (tracked : Tracked NoException shared.1) :
    (handleConnectionClosedSections setup.config hdl).Obeys callbacksOutline
      (fun _ => restsTracked .callbacks) shared := by
  apply Program.Obeys.bind
  apply Program.obeys_perform
  intro reached kept _
  have trackedReached := tracked.afterPoll kept
  rcases found : reached.1.server.clients.lookup hdl with _ | client
  · have nothing : takeClient hdl reached.1 = (.ok none, reached.1) := by
      unfold takeClient
      rw [gets_bind_apply, found]
      rfl
    rw [nothing]
    exact ⟨.of_view rfl _, trackedReached⟩
  · have taken : takeClient hdl reached.1 =
        (.ok (some client), { reached.1 with server := reached.1.server.eraseClient hdl }) := by
      unfold takeClient
      rw [gets_bind_apply, found]
      rfl
    rw [taken]
    refine ⟨⟨rfl, fun _ _ _ => id⟩, ?_⟩
    apply Program.Obeys.bind
    refine (releaseClientSections_obeys (trackedReached.afterErase found)).mono
      fun result released tracked => ?_
    rcases result with fault | _
    · exact tracked
    split
    · apply obeys_of_frame releaseConnectionGraph_view fun _ => rfl
      intro last keptLast
      exact (Tracked.afterPoll tracked keptLast).of_view (releaseConnectionGraph_view last.1)
    · exact tracked

theorem sendServerInfo_view (setup : Setup Rest) (hdl : ConnHandle) :
    (sendServerInfo setup.config hdl).Meets (.frame subscriptionView) := by
  apply Meets.bind (getConFromHdl_meets _ hdl)
  intro _ world
  exact view_of_unsent (conSend_unsent hdl _ world)

theorem sendJson_view (hdl : ConnHandle) (message : ServerMessage)
    (dumped : Except Exception Unit) :
    (sendJson hdl message dumped : ServerAction (Bridge Rest) Unit).Meets
      (.frame subscriptionView) :=
  fun world => view_of_unsent (sendJson_unsent hdl message dumped world)

theorem loginReplySections_obeys (hdl : ConnHandle) {shared : World (Bridge Rest) × Progress}
    (tracked : Tracked NoException shared.1) :
    (loginReplySections setup.config hdl).Obeys callbacksOutline
      (fun _ => restsTracked .callbacks) shared := by
  apply Program.Obeys.bind
  apply obeys_of_frame (sendServerInfo_view setup hdl) fun _ => rfl
  intro reached kept
  have trackedInfo := (tracked.afterPoll kept).of_view (sendServerInfo_view setup hdl reached.1)
  revert trackedInfo
  rcases sendServerInfo setup.config hdl reached.1 with ⟨fault | _, informed⟩
  · exact id
  intro trackedInfo
  apply Program.Obeys.bind
  apply tracked_obeys (meets_gets _) (returns_gets _) (fun _ => rfl) trackedInfo
  intro channels _ tracked
  apply Program.Obeys.bind
  apply tracked_obeys (sendJson_view hdl _ _) (fun _ => ⟨(), sendJson_returns hdl _ _ _⟩)
    (fun _ => rfl) tracked
  intro _ _ tracked
  apply Program.Obeys.bind
  apply tracked_obeys (meets_gets _) (returns_gets _) (fun _ => rfl) tracked
  intro services _ tracked
  exact tracked_obeys (sendJson_view hdl _ _) (fun _ => ⟨(), sendJson_returns hdl _ _ _⟩)
    (fun _ => rfl) tracked
    fun _ _ => id

/-- So does a login. -/
theorem handleLoginSections_obeys (hdl : ConnHandle) {shared : World (Bridge Rest) × Progress}
    (tracked : Tracked NoException shared.1) :
    (handleLoginSections setup.config payload hdl).Obeys callbacksOutline
      (fun _ => restsTracked .callbacks) shared := by
  apply Program.Obeys.bind
  rcases payload.atKey "username" >>= Json.getString with fault | userName
  · exact tracked
  apply Program.Obeys.bind
  rcases payload.atKey "userId" >>= Json.getString with fault | userId
  · exact tracked
  apply Program.Obeys.bind
  apply Program.obeys_perform
  intro reached kept _
  obtain ⟨outcome, _, bridge, _⟩ := admitClient_outcome userName userId hdl reached.1
  have admitted := (tracked.afterPoll kept).afterLogin outcome bridge
  refine ⟨⟨rfl, fun _ channelId owner subscribed => ?_⟩, ?_⟩
  · rwa [bridge] at subscribed
  revert admitted
  rcases admitClient userName userId hdl reached.1 with ⟨fault | _, after⟩
  · exact id
  · exact fun admitted => loginReplySections_obeys hdl admitted

end CoBridge.Ros2

import CoBridge.Properties.LeakedSubscription
import CoBridge.Properties.SubscriptionsValid

/-!
# The worker's sections and the records

Only the section that records a subscription adds to what the server records, and
no section of the worker changes the channels on offer.
-/

namespace CoBridge.Ros2

open Library Action

section

variable {Rest : Type} {setup : Setup Rest}
variable (payload : Json) (hdl : ConnHandle)

/-- What a section of the worker does to the records and the channels. -/
structure CallbackSection (label : Section) (before after : World (Bridge Rest)) : Prop where
  channels : after.server.channels = before.server.channels
  records : ∀ hdl channelId, after.server.Records hdl channelId →
    before.server.Records hdl channelId ∨ label = .recordSubscription channelId hdl
  progress : ∀ progress : Progress, progress.after label = progress

/-- What the records and the channels depend on. -/
def recordView (world : World (Bridge Rest)) : Table ConnHandle ClientInfo ×
    Table ChannelId Channel :=
  (world.server.clients, world.server.channels)

theorem callbackSection_of_frame {Value : Type} {label : Section}
    {action : ServerAction (Bridge Rest) Value} (frame : action.Meets (.frame recordView))
    (progress : ∀ progress : Progress, progress.after label = progress) :
    (Program.perform label action).Sections CallbackSection := by
  apply Program.sections_perform
  intro world
  refine ⟨congrArg (·.2) (frame world), fun hdl channelId recorded => .inl ?_, progress⟩
  exact (Server.records_congr (congrArg (·.1) (frame world))).mp recorded

theorem callHandler_recordView (call : HandlerCall) :
    (callHandler setup.config call).Meets (.frame recordView) := by
  intro world
  exact congrArg (fun server => (server.clients, server.channels))
    (callHandler_withoutGraph setup.config call world)

theorem recordView_of_unsent {world next : World (Bridge Rest)}
    (same : next.unsent = world.unsent) : recordView next = recordView world := by
  unfold recordView
  rw [show next.server = world.server from congrArg (·.1) same]

theorem sendStatus_callbackSection (level : StatusLevel) (message : String) :
    (Program.perform (.sendStatus hdl) (sendStatusAndLogMsg hdl level message) :
      ServerProgram (Bridge Rest) Unit).Sections CallbackSection :=
  callbackSection_of_frame (fun world => recordView_of_unsent (sendJson_unsent hdl _ _ world))
    fun _ => rfl

theorem updateClient_callbackSection {hdl : ConnHandle} {label : Section}
    {change : ClientInfo → ClientInfo}
    (records : ∀ (server : Server) other channelId,
      (server.modifyClient hdl change).Records other channelId →
        server.Records other channelId ∨ label = .recordSubscription channelId other)
    (progress : ∀ progress : Progress, progress.after label = progress) :
    (Program.perform label (updateClient hdl change) :
      ServerProgram (Bridge Rest) Unit).Sections CallbackSection := by
  apply Program.sections_perform
  intro world
  rw [updateClient_apply]
  split
  · exact ⟨rfl, records world.server, progress⟩
  · exact ⟨rfl, fun _ _ => .inl, progress⟩

/-- A request that reads the client and then serves the listed entries. -/
theorem request_sections {Entry : Type} (listed : Except Fault Json)
    (read : Json → Except Fault Entry)
    (serve : ClientInfo → Entry → ServerProgram (Bridge Rest) Unit)
    (serves : ∀ client entry, (serve client entry).Sections CallbackSection) :
    (Program.perform (.readClient hdl) (clientAt hdl) >>= fun client =>
      Program.ofExcept listed >>= fun items => Program.forEach items.elements fun item =>
        Program.ofExcept (read item) >>= serve client).Sections CallbackSection := by
  apply Program.Sections.bind
  · exact callbackSection_of_frame (fun world => by rw [clientAt_eq]; exact Guarantee.refl _ world)
      fun _ => rfl
  intro client
  apply Program.Sections.bind (Program.sections_ofExcept _)
  intro items
  apply Program.sections_forEach
  intro item _
  exact (Program.sections_ofExcept _).bind (serves client)

theorem handleSubscribeSections_sections :
    (handleSubscribeSections setup.config payload hdl).Sections CallbackSection := by
  apply request_sections
  intro client entry
  apply Program.Sections.bind (callbackSection_of_frame (meets_gets _) fun _ => rfl)
  intro available
  apply Program.Sections.ite (sendStatus_callbackSection hdl _ _)
  apply Program.Sections.ite (sendStatus_callbackSection hdl _ _)
  apply Program.Sections.bind (callbackSection_of_frame (callHandler_recordView _) fun _ => rfl)
  intro _
  refine updateClient_callbackSection (fun server other channelId recorded => ?_) fun _ => rfl
  rcases Server.records_addSubscription.mp recorded with earlier | ⟨_, rfl, rfl⟩
  · exact .inl earlier
  · exact .inr rfl

theorem handleUnsubscribeSections_sections :
    (handleUnsubscribeSections setup.config payload hdl).Sections CallbackSection := by
  apply request_sections
  intro client subId
  unfold unsubscribeEntrySections
  split
  · exact sendStatus_callbackSection hdl _ _
  apply Program.Sections.bind (callbackSection_of_frame (callHandler_recordView _) fun _ => rfl)
  intro _
  exact updateClient_callbackSection (fun server other channelId recorded =>
    .inl (Server.records_removeSubscription.mp recorded).1) fun _ => rfl

theorem unsubscribeParams_recordView (names : List String) :
    (unsubscribeParamsWithoutSubscriptions setup.config hdl names).Meets (.frame recordView) :=
  unsubscribeParams_meets (fun _ _ world => recordView_of_unsent (sendJson_unsent hdl _ _ world))
    (fun _ => callHandler_recordView _) names

theorem releaseClientSections_sections (client : ClientInfo) :
    (releaseClientSections setup.config hdl client).Sections CallbackSection := by
  apply Program.Sections.bind
  · apply Program.sections_forEach
    intro channelId _
    exact callbackSection_of_frame (.ite (callHandlerLogged_meets (callHandler_recordView _))
      (meets_pure _)) fun _ => rfl
  intro _
  apply Program.Sections.bind
  · exact callbackSection_of_frame (fun _ => rfl) fun _ => rfl
  intro _
  apply Program.Sections.bind
  · refine .ite (Program.sections_forEach fun channelId _ => ?_) (Program.sections_pure _)
    exact callbackSection_of_frame (callHandlerLogged_meets (callHandler_recordView _)) fun _ => rfl
  intro _
  apply Program.Sections.bind
  · exact callbackSection_of_frame (fun _ => rfl) fun _ => rfl
  intro names
  exact callbackSection_of_frame (unsubscribeParams_recordView hdl _) fun _ => rfl

theorem handleConnectionClosedSections_sections :
    (handleConnectionClosedSections setup.config hdl).Sections CallbackSection := by
  apply Program.Sections.bind
  · apply Program.sections_perform
    intro world
    unfold takeClient
    rw [gets_bind_apply]
    rcases world.server.clients.lookup hdl with _ | client
    · exact ⟨rfl, fun _ _ => .inl, fun _ => rfl⟩
    · exact ⟨rfl, fun _ _ recorded => .inl (Server.records_eraseClient.mp recorded).1, fun _ => rfl⟩
  intro taken
  rcases taken with _ | client
  · exact Program.sections_pure _
  apply (releaseClientSections_sections hdl client).bind
  intro _
  refine .ite (callbackSection_of_frame ?_ fun _ => rfl) (Program.sections_pure _)
  exact releaseConnectionGraph_meets (fun _ _ => rfl) (callHandler_recordView _)

theorem handleLoginSections_sections :
    (handleLoginSections setup.config payload hdl).Sections CallbackSection := by
  have sent (message : ServerMessage) (dumped : Except Exception Unit) :
      (sendJson hdl message dumped : ServerAction (Bridge Rest) Unit).Meets (.frame recordView) :=
    fun world => recordView_of_unsent (sendJson_unsent hdl message dumped world)
  apply Program.Sections.bind (Program.sections_ofExcept _)
  intro userName
  apply Program.Sections.bind (Program.sections_ofExcept _)
  intro userId
  apply Program.Sections.bind
  · apply Program.sections_perform
    intro world
    obtain ⟨outcome, _⟩ := admitClient_outcome userName userId hdl world
    refine ⟨?_, fun _ _ recorded => .inl (outcome.records.mp recorded), fun _ => rfl⟩
    rw [outcome.tables]
  intro _
  apply Program.Sections.bind
  · refine callbackSection_of_frame ?_ fun _ => rfl
    exact (getConFromHdl_meets _ hdl).bind fun _ world =>
      recordView_of_unsent (conSend_unsent hdl _ world)
  intro _
  apply Program.Sections.bind (callbackSection_of_frame (meets_gets _) fun _ => rfl)
  intro channels
  apply Program.Sections.bind (callbackSection_of_frame (sent _ _) fun _ => rfl)
  intro _
  apply Program.Sections.bind (callbackSection_of_frame (meets_gets _) fun _ => rfl)
  intro services
  exact callbackSection_of_frame (sent _ _) fun _ => rfl

end

/-!
## No dead subscription

A subscribe request finds the channel, subscribes to it in the bridge and records
the subscription in three sections. When the channel is removed before the
third, the record is one of a channel that does not exist. `RecordsOffered` is
what a schedule has to avoid.
-/

open Table

variable {Rest : Type} {setup : Setup Rest}
variable {shared : World (Bridge Rest) × Progress}

/-- What the worker does, as far as the poll thread can tell: what it records is
on offer, or about to be dropped. -/
structure CallbacksRecord (before after : World (Bridge Rest) × Progress) : Prop where
  channels : after.1.server.channels = before.1.server.channels
  progress : after.2 = before.2
  records : ∀ hdl channelId, after.1.server.Records hdl channelId →
    before.1.server.Records hdl channelId ∨ channelId ∈ before.1.server.channels ∨
      channelId ∈ before.2.removing

theorem CallbacksRecord.refl (shared : World (Bridge Rest) × Progress) :
    CallbacksRecord shared shared :=
  ⟨rfl, rfl, fun _ _ => .inl⟩

theorem CallbacksRecord.trans {first second third : World (Bridge Rest) × Progress}
    (left : CallbacksRecord first second) (right : CallbacksRecord second third) :
    CallbacksRecord first third where
  channels := right.channels.trans left.channels
  progress := right.progress.trans left.progress
  records hdl channelId recorded := by
    rcases right.records hdl channelId recorded with earlier | covered
    · exact left.records hdl channelId earlier
    · rw [left.channels, left.progress] at covered
      exact .inr covered

/-- The channel whose subscription a section records. -/
def Section.recorded : Section → Option ChannelId
  | .recordSubscription channelId _ => some channelId
  | _ => none

/-- A subscription is recorded only while its channel is on offer, or while the
clients' subscriptions to it are still to be dropped. -/
def recordAdmitted (label : Section) (shared : World (Bridge Rest) × Progress) : Prop :=
  ∀ channelId ∈ Section.recorded label,
    channelId ∈ shared.1.server.channels ∨ channelId ∈ shared.2.removing

/-- A subscription is recorded only while its channel is on offer, or removed
with the removal still to be announced. -/
def RecordsOffered (pool : NodePool Rest) : PoolEvent Thread Section → Prop
  | .enter _ label => recordAdmitted label pool.shared
  | _ => True

instance (pool : NodePool Rest) : (event : PoolEvent Thread Section) →
    Decidable (RecordsOffered pool event)
  | .enter _ label =>
    (Option.decidableForallMem (Section.recorded label) :
      Decidable (∀ channelId ∈ Section.recorded label,
        channelId ∈ pool.shared.1.server.channels ∨ channelId ∈ pool.shared.2.removing))
  | .start _ => .isTrue trivial
  | .surroundings => .isTrue trivial

/-- Every recorded channel is on offer, or its removal is still to be announced. -/
def Covered (shared : World (Bridge Rest) × Progress) : Prop :=
  ∀ hdl channelId, shared.1.server.Records hdl channelId →
    channelId ∈ shared.1.server.channels ∨ channelId ∈ shared.2.removing

theorem Covered.afterCallbacks {before after : World (Bridge Rest) × Progress}
    (covered : Covered before) (kept : CallbacksRecord before after) : Covered after := by
  intro hdl channelId recorded
  rw [kept.channels, kept.progress]
  rcases kept.records hdl channelId recorded with earlier | here
  · exact covered hdl channelId earlier
  · exact here

def recordOutlines : Thread → Outline Section (World (Bridge Rest)) Progress
  | .callbacks =>
    { admits := recordAdmitted
      effect := fun label progress => progress.after label
      rely := fun _ _ => True
      guarantee := CallbacksRecord
      refl := fun _ => trivial
      trans := fun _ _ => trivial }
  | .poll =>
    { admits := fun _ _ => True
      effect := fun label progress => progress.after label
      rely := CallbacksRecord
      guarantee := fun _ _ => True
      refl := CallbacksRecord.refl
      trans := CallbacksRecord.trans }

/-- The poll thread is between two updates and no record is dead. -/
def restsCovered : Thread → World (Bridge Rest) × Progress → Prop
  | .callbacks, _ => True
  | .poll, shared => shared.2.removing = [] ∧ Covered shared

theorem callbacks_obey {program : ServerProgram (Bridge Rest) Unit}
    (sections : program.Sections CallbackSection) (shared : World (Bridge Rest) × Progress) :
    program.Obeys (recordOutlines .callbacks) (fun _ => restsCovered .callbacks) shared := by
  refine sections.obeys ?_ (fun _ _ => trivial) shared
  intro label here next admitted performed
  refine ⟨performed.channels, performed.progress here.2, fun hdl channelId recorded => ?_⟩
  rcases performed.records hdl channelId recorded with earlier | rfl
  · exact .inl earlier
  · exact .inr (admitted channelId rfl)

/-- A section of the poll thread that leaves the records alone and loses no channel. -/
theorem covered_obeys {Value : Type} {label : Section} {action : ServerAction (Bridge Rest) Value}
    (clients : action.Meets (.frame fun world => world.server.clients))
    (channels : ∀ world channelId, channelId ∈ world.server.channels →
      channelId ∈ (action world).2.server.channels)
    (returns : action.Returns)
    (removing : ∀ progress : Progress, (progress.after label).removing = progress.removing)
    {channelIds : List ChannelId} {shared : World (Bridge Rest) × Progress}
    (covered : shared.2.removing = channelIds ∧ Covered shared)
    {post : Except Fault Value → World (Bridge Rest) × Progress → Prop}
    (continues : ∀ value reached, reached.2.removing = channelIds ∧ Covered reached →
      post (.ok value) reached) :
    (Program.perform label action).Obeys (recordOutlines .poll) post shared := by
  apply Program.obeys_perform
  intro reached kept _
  have coveredReached := covered.2.afterCallbacks kept
  obtain ⟨value, done⟩ := returns reached.1
  refine ⟨trivial, ?_⟩
  rw [done]
  have progress : (reached.2.after label).removing = reached.2.removing := removing reached.2
  refine continues value _ ⟨?_, fun hdl channelId recorded => ?_⟩
  · exact progress.trans ((congrArg Progress.removing kept.progress).trans covered.1)
  · have earlier := (Server.records_congr (clients reached.1)).mp recorded
    refine (coveredReached hdl channelId earlier).imp (channels reached.1 channelId) ?_
    exact fun member => progress ▸ member

theorem removeChannelsSections_covered {channelIds : List ChannelId}
    (covered : restsCovered .poll shared)
    {post : Except Fault Unit → World (Bridge Rest) × Progress → Prop}
    (continues : ∀ reached, restsCovered .poll reached → post (.ok ()) reached) :
    (removeChannelsSections channelIds).Obeys (recordOutlines .poll) post shared := by
  unfold removeChannelsSections
  split
  · exact continues shared covered
  apply Program.Obeys.bind
  apply Program.obeys_perform
  intro erasing kept _
  have coveredErasing := covered.2.afterCallbacks kept
  have nothing : erasing.2.removing = [] :=
    (congrArg Progress.removing kept.progress).trans covered.1
  have erased : Covered ({ erasing.1 with server := erasing.1.server.eraseChannels channelIds },
      erasing.2.after (.eraseChannels channelIds)) := by
    intro hdl channelId recorded
    by_cases member : channelId ∈ channelIds
    · exact .inr member
    · refine .inl ((mem_eraseAll _ _ _).mpr ⟨member, ?_⟩)
      have offered := coveredErasing hdl channelId recorded
      simpa [nothing] using offered
  refine ⟨trivial, ?_⟩
  apply Program.obeys_perform
  intro announcing keptAnnouncing _
  have coveredAnnouncing := erased.afterCallbacks keptAnnouncing
  have removing : announcing.2.removing = channelIds :=
    congrArg Progress.removing keptAnnouncing.progress
  refine ⟨trivial, ?_⟩
  unfold announceRemoval
  rw [modifyServer_bind_apply, broadcast_apply]
  refine continues _ ⟨rfl, fun hdl channelId recorded => .inl ?_⟩
  rw [World.enqueueAll_server] at recorded ⊢
  obtain ⟨earlier, kept⟩ := Server.records_dropChannels.mp recorded
  exact (coveredAnnouncing hdl channelId earlier).resolve_right fun member =>
    kept (removing ▸ member)

theorem mem_registerChannels (channels : List ChannelWithoutId) (server : Server)
    {channelId : ChannelId} (offered : channelId ∈ server.channels) :
    channelId ∈ (server.registerChannels channels).2.channels := by
  induction channels generalizing server with
  | nil => exact offered
  | cons channel rest ih =>
    exact ih _ ((mem_emplace _ _ _ _).mpr (.inr offered))

theorem addChannelsSections_covered (check : TextCheck) (channels : List ChannelWithoutId)
    {shared : World (Bridge Rest) × Progress} (covered : restsCovered .poll shared)
    {post : Except Fault (Except Fault (List ChannelId)) → World (Bridge Rest) × Progress → Prop}
    (continues : ∀ added reached, restsCovered .poll reached → post (.ok added) reached) :
    (addChannelsSections check channels).Obeys (recordOutlines .poll) post shared := by
  unfold addChannelsSections
  split
  · exact continues (.ok []) shared covered
  apply Program.Obeys.bind
  have clients : (registerChannels channels : ServerAction (Bridge Rest) _).Meets
      (.frame fun world => world.server.clients) :=
    fun world => Server.registerChannels_clients channels world.server
  apply covered_obeys clients (fun world _ => mem_registerChannels channels world.server)
    (fun _ => ⟨_, rfl⟩) (fun _ => rfl) covered
  intro newChannels registered covered
  have announces : (announceChannels check newChannels : ServerAction (Bridge Rest) _).Meets
      (.frame World.server) := by
    apply Meets.bind (meets_ofExcept _)
    intro _
    refine Meets.bind (fun world => ?_) fun _ => meets_pure _
    rw [broadcast_apply]
    exact World.enqueueAll_server _ _ _
  have clients : (announceChannels check newChannels : ServerAction (Bridge Rest) _).attempt.Meets
      (.frame fun world => world.server.clients) :=
    fun world => congrArg Server.clients (announces world)
  exact covered_obeys clients
    (fun world channelId => (congrArg (channelId ∈ ·.channels) (announces world)).mpr)
    (fun _ => ⟨_, rfl⟩) (fun _ => rfl) covered continues

theorem updateAdvertisedTopicsSections_covered (covered : restsCovered .poll shared) :
    (updateAdvertisedTopicsSections setup.dump setup.options).Obeys (recordOutlines .poll)
      (fun _ => restsCovered .poll) shared := by
  apply Program.Obeys.bind
  apply covered_obeys (meets_gets _) (fun _ _ => id) (returns_gets _) (fun _ => rfl)
    covered
  intro environment reached covered
  change Program.Obeys _ _ (ite _ _ _) reached
  split
  · apply Program.Obeys.bind
    rcases latestTopics setup.options environment.topics with fault | latest
    · exact covered
    apply Program.Obeys.bind
    have clients : (retireTopics latest : ServerAction (Bridge Rest) _).Meets
        (.frame fun world => world.server.clients) := fun _ => rfl
    apply covered_obeys clients (fun _ _ => id) (fun _ => ⟨_, rfl⟩) (fun _ => rfl) covered
    intro channelIdsToRemove _ covered
    apply Program.Obeys.bind
    apply removeChannelsSections_covered covered
    intro _ covered
    apply Program.Obeys.bind
    apply covered_obeys (meets_gets _) (fun _ _ => id) (returns_gets _) (fun _ => rfl)
      covered
    intro channelsToAdd _ covered
    apply Program.Obeys.bind
    apply addChannelsSections_covered setup.dump channelsToAdd covered
    intro added _ covered
    apply Program.obeys_perform
    intro last kept _
    have coveredLast := And.intro ((congrArg Progress.removing kept.progress).trans covered.1)
      (covered.2.afterCallbacks kept)
    cases added with
    | error fault => exact ⟨trivial, coveredLast⟩
    | ok channelIds => exact ⟨trivial, coveredLast⟩
  · exact covered

/-- The outlines of the threads fit together. -/
theorem records_composable :
    Pool.Composable discipline (Starts setup) Acts recordOutlines restsCovered where
  effect thread := by cases thread <;> rfl
  others thread other shared reached different kept := by
    cases thread with
    | callbacks =>
      cases other with
      | callbacks => exact absurd rfl different
      | poll => exact kept
    | poll =>
      cases other with
      | callbacks => trivial
      | poll => exact absurd rfl different
  surroundings thread world next progress acts := by
    cases thread with
    | callbacks => trivial
    | poll =>
      obtain ⟨environment, rest, link, now, rfl⟩ := acts
      exact ⟨rfl, rfl, fun _ _ => .inl⟩
  stable thread shared reached kept rests := by
    cases thread with
    | callbacks => trivial
    | poll => exact ⟨(congrArg Progress.removing kept.progress).trans rests.1,
        rests.2.afterCallbacks kept⟩
  starts thread program shared starts rests := by
    cases starts with
    | login payload hdl => exact callbacks_obey (handleLoginSections_sections payload hdl) shared
    | subscribe payload hdl =>
      exact callbacks_obey (handleSubscribeSections_sections payload hdl) shared
    | unsubscribe payload hdl =>
      exact callbacks_obey (handleUnsubscribeSections_sections payload hdl) shared
    | closed hdl => exact callbacks_obey (handleConnectionClosedSections_sections hdl) shared
    | poll => exact updateAdvertisedTopicsSections_covered rests

theorem restsCovered_started (started : Started shared) (thread : Thread) :
    restsCovered thread shared := by
  obtain ⟨server, _, progress⟩ := started
  cases thread with
  | callbacks => trivial
  | poll =>
    refine ⟨congrArg Progress.removing progress, fun hdl channelId recorded => ?_⟩
    obtain ⟨client, found, _⟩ := recorded
    rw [server] at found
    cases found

/-- In every interleaving that records subscriptions only of channels on offer or
about to be dropped, a recorded channel is one of the server's whenever both
threads are idle. -/
theorem subscription_not_dead {events : List (PoolEvent Thread Section)} {pool : NodePool Rest}
    (run : (nodeThreads setup).GuardedRun RecordsOffered events pool)
    (idle : ∀ thread, pool.Idle thread) {hdl : ConnHandle} {client : ClientInfo}
    (found : pool.shared.1.server.clients.lookup hdl = some client) {channelId : ChannelId}
    (recorded : channelId ∈ client.subscriptionsByChannel) :
    channelId ∈ pool.shared.1.server.channels := by
  have admits (pool : NodePool Rest) (thread : Thread) (label : Section)
      (offered : RecordsOffered pool (.enter thread label))
      (_ : discipline.enabled label pool.shared) :
      (recordOutlines thread).admits label pool.shared := by
    cases thread with
    | poll => trivial
    | callbacks => exact offered
  have rests := Pool.rest_of_run records_composable
    (fun shared thread started => restsCovered_started started thread) admits run (idle .poll)
  have covered := rests.2 hdl channelId ⟨client, found, recorded⟩
  simpa [rests.1] using covered

theorem servedPool_recordsOffered :
    Pool.Reached (nodeThreads quietSetup) RecordsOffered servedPool := by
  have started : Pool.Reached (nodeThreads quietSetup) RecordsOffered startedPool :=
    ⟨[], .initial ⟨⟨rfl, ⟨oneTopic, (), rfl⟩, rfl⟩, fun _ => ⟨_, rfl⟩⟩⟩
  have polled := (started.start trivial rfl .poll).play .poll 6 (by decide +kernel)
  have loggedIn := (polled.start trivial (by decide +kernel) (.login loginPayload ⟨1⟩)).play
    .callbacks 6 (by decide +kernel)
  exact (loggedIn.start trivial (by decide +kernel)
    (.subscribe (subscribePayload [(7, 1)]) ⟨1⟩)).play
    .callbacks 4 (by decide +kernel)

/-- A subscription whose topic stayed. -/
theorem subscription_not_dead_served : 1 ∈ servedPool.shared.1.server.channels := by
  obtain ⟨events, run⟩ := servedPool_recordsOffered
  have idle (thread : Thread) : servedPool.Idle thread := by
    cases thread <;> exact Pool.idle_of_isIdle (by decide +kernel)
  have recorded : servedPool.shared.1.server.subscriptionId? ⟨1⟩ 1 = some 7 := by decide +kernel
  obtain ⟨client, found, stored⟩ := Option.bind_eq_some_iff.mp recorded
  exact subscription_not_dead run idle found (mem_of_lookup stored)

/-- Halfway through a subscribe request the topic goes away. -/
def withdrawnPool : NodePool Unit :=
  { halfwayPool with shared :=
    ({ halfwayPool.shared.1 with
      bridge := { halfwayPool.shared.1.bridge with environment := .quiet } },
      halfwayPool.shared.2) }

/-- The poll thread removes the channel before the request records the subscription. -/
def deadPool : NodePool Unit :=
  Pool.play discipline .callbacks 1 (Pool.play discipline .poll 6
    (withdrawnPool.setThread .poll
      (updateAdvertisedTopicsSections quietSetup.dump quietSetup.options)))

/-- A recorded subscription to a channel that does not exist, with both threads idle. -/
theorem deadPool_subscription_dead :
    Pool.Reached (nodeThreads quietSetup) (fun _ _ => True) deadPool ∧
      (∀ thread, deadPool.Idle thread) ∧
      deadPool.shared.1.server.subscriptionId? ⟨1⟩ 1 = some 7 ∧
      1 ∉ deadPool.shared.1.server.channels := by
  refine ⟨?_, fun thread => ?_, by decide +kernel, by decide +kernel⟩
  · have acts : Acts halfwayPool.shared.1 withdrawnPool.shared.1 := ⟨.quiet, (), _, _, rfl⟩
    have withdrawn : Pool.Reached (nodeThreads quietSetup) (fun _ _ => True) withdrawnPool :=
      halfwayPool_reached.surroundings trivial acts
    have removed := (withdrawn.start trivial (by decide +kernel) .poll).play .poll 6
      (by decide +kernel)
    exact removed.play .callbacks 1 (by decide +kernel)
  cases thread <;> exact Pool.idle_of_isIdle (by decide +kernel)

end CoBridge.Ros2

import CoBridge.Properties.PublishSteps

/-!
# Withdrawals, messages and disconnects

Every step keeps the tables of client publications and the record in agreement, so
in every run messages are passed on only with advertisements that are in force.
-/

namespace CoBridge

open Library Trace Action

variable {Bridge : Type}

section Withdraw

variable {config : Config Bridge} {world : World (Recorded Bridge)}

/-- The answer of the unadvertise handler, and the record of it. -/
theorem callHandler_unadvertise (answers : AcceptsOrThrows config) (channelId : ClientChannelId)
    (hdl : ConnHandle) (world : World (Recorded Bridge)) :
    ∃ reached : World (Recorded Bridge), reached.server = world.server ∧
      ((callHandler config.recording (.clientUnadvertise channelId hdl) world = (.ok (), reached) ∧
          reached.bridge.trace = world.bridge.trace ++ [.unadvertised channelId hdl]) ∨
        ∃ exception, callHandler config.recording (.clientUnadvertise channelId hdl) world =
            (.error (.raised exception), reached) ∧
          reached.bridge.trace = world.bridge.trace) := by
  rcases registered : config.handlers.resolve (.clientUnadvertise channelId hdl) with _ | handler
  · exact ⟨world, rfl, .inr ⟨_, callHandler_recording_of_none registered world, rfl⟩⟩
  obtain ⟨silent, defined⟩ := answers channelId hdl handler registered world.bridge.bridge
  have resolved : config.recording.handlers.resolve (.clientUnadvertise channelId hdl) =
      some (recordReply (.clientUnadvertise channelId hdl) handler) := by
    change config.handlers.recording.resolve _ = _
    rw [ServerHandlers.resolve_recording, registered, Option.map_some]
  have called := callHandler_of_silent resolved silent
  refine ⟨{ world.recordCall (.clientUnadvertise channelId hdl) with
    bridge := (recordReply (.clientUnadvertise channelId hdl) handler world.bridge).bridge },
    rfl, ?_⟩
  rw [called]
  rcases outcome : (handler world.bridge.bridge).outcome with (exception | _) | _
  · exact .inr ⟨exception, by simp only [recordReply, outcome], by
      simp only [recordReply, outcome, HandlerCall.occurrences, List.append_nil]⟩
  · exact absurd outcome defined
  · exact .inl ⟨by simp only [recordReply, outcome], by
      simp only [recordReply, outcome, HandlerCall.occurrences]⟩

/-- An accepted withdrawal erases the channel from both tables. -/
theorem unadvertiseEntry_gated (answers : AcceptsOrThrows config) (hdl : ConnHandle)
    (channelId : ClientChannelId) :
    (unadvertiseEntry config.recording hdl channelId).Meets
      (.invariant (GatedNow config.options)) := by
  intro world gated
  unfold unadvertiseEntry
  rw [gets_bind_apply]
  by_cases stored : channelId ∈ world.server.publications hdl
  · rw [if_pos stored, bind_apply]
    obtain ⟨reached, server, ⟨called, trace⟩ | ⟨exception, called, trace⟩⟩ :=
      callHandler_unadvertise answers channelId hdl world
    · rw [called]
      change GatedNow _ ((updateClient hdl _ >>= _) reached).2
      have registered : hdl ∈ world.server.clients := by
        by_contra missing
        exact gated.absent hdl missing id channelId stored
      obtain ⟨client, found⟩ := (Table.mem_iff_lookup _ _).mp registered
      have opened : hdl ∈ world.server.clientChannels := by
        by_contra missing
        unfold Server.publications at stored
        rw [AList.lookup_eq_none.mpr missing] at stored
        exact AList.notMem_empty _ stored
      rw [bind_apply, updateClient_apply, server, if_pos registered]
      -- The tables first, then the record: the withdrawn channel is not stored any more.
      have erased : GatedNow config.options { world with
          server := (world.server.modifyClient hdl
            (ClientInfo.removeAdvertisedChannel channelId)).modifyPublications hdl
              fun publications => publications.erase channelId } := by
        apply gated.modify found opened
        · intro other
          rw [AList.mem_erase, gated.agree hdl client found]
          exact AList.mem_erase.symm
        · intro other advertisement kept
          rw [Table.lookup_erase_ite] at kept
          split at kept
          · cases kept
          · exact .inl kept
      have publications := (world.server.modifyClient hdl
        (ClientInfo.removeAdvertisedChannel channelId)).publications_modify opened hdl
          fun publications => publications.erase channelId
      have recorded := erased.record trace (Nat.le_refl 1) ?_
      · exact recorded.of_view rfl
      · intro item member
        rw [List.mem_singleton.mp member]
        refine ⟨?_, by simp, by simp⟩
        rintro other owner same
        cases same
        right
        rw [publications]
        simp
    · rw [called]
      refine gated.of_view ?_
      change (reached.server.clients, reached.server.clientChannels, reached.bridge.trace) = _
      rw [server, trace]
      rfl
  · rw [if_neg stored]
    exact gated

theorem handleUnadvertise_gated (answers : AcceptsOrThrows config) (payload : Json)
    (hdl : ConnHandle) : (handleUnadvertise config.recording payload hdl).Meets
      (.invariant (GatedNow config.options)) := by
  refine handleUnadvertise_meets ?_ (unadvertiseEntry_gated answers hdl) payload
  intro level text world gated
  rw [sendStatusAndLogMsg_apply]
  exact gated.of_view (world.enqueue_publishView hdl _)

end Withdraw

section Messages

variable {config : Config Bridge}
variable (hdl : ConnHandle) (data : List UInt8)

theorem sendStatusAndLogMsg_gated (options : ServerOptions) (leaving : ConnHandle → Prop)
    (hdl : ConnHandle) (level : StatusLevel) (text : String) :
    (sendStatusAndLogMsg hdl level text : ServerAction (Recorded Bridge) Unit).Meets
      (.invariant (Gated options leaving)) := by
  intro world gated
  rw [sendStatusAndLogMsg_apply]
  exact gated.of_view (world.enqueue_publishView hdl _)

theorem findAdvertisement_ok {server : Server} {hdl : ConnHandle} {channelId : ClientChannelId}
    {advertisement : ClientAdvertisement}
    (found : server.findAdvertisement hdl channelId = .ok advertisement) :
    (server.publications hdl).lookup channelId = some advertisement := by
  unfold Server.findAdvertisement at found
  unfold Server.publications
  rcases opened : server.clientChannels.lookup hdl with _ | publications
  · rw [opened] at found
    cases found
  · rw [opened] at found
    rcases stored : publications.lookup channelId with _ | other
    · simp [stored] at found
    · simp only [stored] at found
      cases found
      exact stored

theorem callHandler_message_gated {world : World (Recorded Bridge)}
    (gated : GatedNow config.options world) {message : ClientMessage} {hdl : ConnHandle}
    (backed : Backed config.options hdl message.advertisement world.bridge.trace) :
    GatedNow config.options
      (callHandler config.recording (.clientMessage message hdl) world).2 := by
  rcases registered : config.handlers.resolve (.clientMessage message hdl) with _ | handler
  · rw [callHandler_recording_of_none registered]
    exact gated
  have view := callHandler_publishView registered world
  have trace : (callHandler config.recording (.clientMessage message hdl) world).2.bridge.trace =
      world.bridge.trace ++ [.message message hdl] := congrArg (·.2.2) view
  apply gated.grow (congrArg (·.1) view) _ trace (Nat.le_refl 1)
  · intro item member
    rw [List.mem_singleton.mp member]
    refine ⟨by simp, by simp, ?_⟩
    rintro other owner same
    cases same
    exact backed
  · intro other
    exact congrArg (fun view => (AList.lookup other view.2.1).getD ∅) view

/-- A message is passed on with an advertisement that is in force. -/
theorem handleMessageData_gated :
    (handleMessageData config.recording hdl data).Meets
      (.invariant (GatedNow config.options)) := by
  apply Meets.ite (meets_pure _)
  apply Meets.ite (sendStatusAndLogMsg_gated _ _ hdl _ _)
  intro world gated
  rw [gets_bind_apply, gets_bind_apply]
  rcases found : world.server.findAdvertisement hdl (readUInt32LE (data.drop 1)) with
    refusal | advertisement
  · exact sendStatusAndLogMsg_gated _ _ hdl .error refusal world gated
  have backed := (gated.backed hdl _ advertisement id (findAdvertisement_ok found)).2
  exact (callHandler_message_gated gated backed).of_view
    (catchAll_status_part World.publishView World.enqueue_publishView world)

theorem handleServiceCallRequest_view :
    (handleServiceCallRequest config.recording hdl data).Meets (.frame World.publishView) := by
  have status (text : String) : (sendStatusAndLogMsg hdl .error text :
      ServerAction (Recorded Bridge) Unit).Meets (.frame World.publishView) := by
    intro world
    rw [sendStatusAndLogMsg_apply]
    exact world.enqueue_publishView hdl _
  apply Meets.ite (status _)
  apply Meets.bind (meets_ofExcept _)
  intro request
  apply Meets.bind (meets_gets _)
  intro advertised
  apply Meets.ite (status _)
  exact .ite (callHandler_unrecorded fun _ => rfl) (meets_pure _)

theorem handleBinaryMessage_gated :
    (handleBinaryMessage config.recording hdl data).Meets
      (.invariant (GatedNow config.options)) := by
  unfold handleBinaryMessage
  rcases data with _ | ⟨first, rest⟩
  · exact sendStatusAndLogMsg_gated _ _ hdl _ _
  dsimp only
  split
  · exact sendStatusAndLogMsg_gated _ _ hdl _ _
  · split
    · exact handleMessageData_gated hdl _
    · intro world gated
      exact gated.of_view (handleServiceCallRequest_view hdl _ world)
    · exact sendStatusAndLogMsg_gated _ _ hdl _ _

end Messages

section Close

variable {config : Config Bridge} {world : World (Recorded Bridge)}
variable (hdl : ConnHandle)

/-- The withdrawals of a disconnect concern a connection that is leaving. -/
theorem unadvertiseChannels_gated (answers : AcceptsOrThrows config) (hdl : ConnHandle)
    (channelIds : List ClientChannelId) :
    (unadvertiseChannels config.recording hdl channelIds).Meets
      (.invariant (Gated config.options (· = hdl))) := by
  apply meets_forEach
  intro channelId _
  refine .ite (callHandlerLogged_meets fun world gated => ?_) (meets_pure _)
  obtain ⟨reached, server, ⟨called, trace⟩ | ⟨exception, called, trace⟩⟩ :=
    callHandler_unadvertise answers channelId hdl world
  · rw [called]
    have publications (other : ConnHandle) :
        reached.server.publications other = world.server.publications other := by rw [server]
    apply gated.grow (congrArg Server.clients server) publications trace (Nat.le_refl 1)
    intro item member
    rw [List.mem_singleton.mp member]
    refine ⟨?_, by simp, by simp⟩
    rintro other owner same
    cases same
    exact .inl rfl
  · rw [called]
    refine gated.of_view ?_
    change (reached.server.clients, reached.server.clientChannels, reached.bridge.trace) = _
    rw [server, trace]
    rfl

theorem unadvertiseChannels_returns (answers : AcceptsOrThrows config) (hdl : ConnHandle)
    (channelIds : List ClientChannelId) :
    (unadvertiseChannels config.recording hdl channelIds).Returns := by
  apply returns_forEach
  intro channelId _
  refine .ite (catchAll_returns (fun world => ?_) fun _ => returns_pure ())
    (returns_pure ())
  obtain ⟨reached, _, ⟨called, _⟩ | ⟨exception, called, _⟩⟩ :=
    callHandler_unadvertise answers channelId hdl world
  · rw [called]
    simp
  · rw [called]
    simp

/-- What a disconnect does after the publications are erased. -/
theorem releaseClient_after_erase (client : ClientInfo) :
    (do
      unsubscribeChannels config.recording hdl client.subscriptionsByChannel.keys
      let clientSubscribedParameters ← Action.gets fun world => world.server.paramSubscriptions hdl
      modifyServer (Server.eraseParamSubscriptions hdl)
      unsubscribeParamsWithoutSubscriptions config.recording hdl clientSubscribedParameters.keys :
        ServerAction (Recorded Bridge) Unit).Meets (.frame World.publishView) := by
  have status (level : StatusLevel) (text : String) : (sendStatusAndLogMsg hdl level text :
      ServerAction (Recorded Bridge) Unit).Meets (.frame World.publishView) := by
    intro world
    rw [sendStatusAndLogMsg_apply]
    exact world.enqueue_publishView hdl _
  apply Meets.bind
  · exact .ite (meets_forEach fun channelId _ =>
      callHandlerLogged_meets (callHandler_unrecorded fun _ => rfl)) (meets_pure _)
  intro _
  apply Meets.bind (meets_gets _)
  intro names
  apply Meets.bind fun _ => rfl
  intro _
  apply Meets.bind (meets_gets _)
  intro paramsToUnsubscribe
  exact .ite (meets_catchAll (callHandler_unrecorded fun _ => rfl) fun _ => status _ _)
    (meets_pure _)

/-- A disconnect keeps the record in step with the channels that are left. -/
theorem handleConnectionClosed_gated (answers : AcceptsOrThrows config)
    (gated : GatedNow config.options world) (hdl : ConnHandle) :
    GatedNow config.options
      ((handleConnectionClosed config.recording hdl world).2.note (.closed hdl)) := by
  have noteClosed {reached : World (Recorded Bridge)}
      (leaving : Gated config.options (· = hdl) reached)
      (gone : ∀ channelId, channelId ∉ reached.server.publications hdl) :
      GatedNow config.options (reached.note (.closed hdl)) := by
    have recordable : Recordable config.options (· = hdl) reached (.closed hdl) :=
      ⟨by simp, by simp, by simp⟩
    apply (leaving.note recordable).settle
    rintro other rfl
    exact gone
  rcases found : world.server.clients.lookup hdl with _ | client
  · rw [handleConnectionClosed_of_none found]
    have missing := AList.lookup_eq_none.mp found
    exact noteClosed (gated.leave missing) (gated.absent hdl missing id)
  -- The record of the client goes first, its publications after the withdrawals.
  obtain ⟨_, reached, withdrawn, continued⟩ :=
    (unadvertiseChannels_returns answers hdl client.advertisedChannels.keys).bind_apply
      (unadvertiseChannels_gated answers hdl client.advertisedChannels.keys) (fun _ => do
        modifyServer (Server.eraseClientChannels hdl)
        unsubscribeChannels config.recording hdl client.subscriptionsByChannel.keys
        let clientSubscribedParameters ←
          Action.gets fun world => world.server.paramSubscriptions hdl
        modifyServer (Server.eraseParamSubscriptions hdl)
        unsubscribeParamsWithoutSubscriptions config.recording hdl clientSubscribedParameters.keys)
      { world with server := world.server.eraseClient hdl }
  have erased := (withdrawn (gated.eraseClient hdl)).eraseClientChannels
  have view : (handleConnectionClosed config.recording hdl world).2.publishView =
      World.publishView { reached with server := reached.server.eraseClientChannels hdl } := by
    unfold handleConnectionClosed
    rw [gets_bind_apply, found]
    have released : (releaseClient config.recording hdl client
        { world with server := world.server.eraseClient hdl }).2.publishView =
        World.publishView { reached with server := reached.server.eraseClientChannels hdl } := by
      unfold releaseClient
      rw [continued, modifyServer_bind_apply]
      exact releaseClient_after_erase hdl client _
    have graph : (if client.subscribedToConnectionGraph then
        releaseConnectionGraph config.recording else pure () :
          ServerAction (Recorded Bridge) Unit).Meets (.frame World.publishView) :=
      .ite (releaseConnectionGraph_meets (fun _ _ => rfl) (callHandler_unrecorded fun _ => rfl))
        (meets_pure _)
    have kept : Guarantee.rel (.frame World.publishView)
        (releaseClient config.recording hdl client
          { world with server := world.server.eraseClient hdl }).2
        ((releaseClient config.recording hdl client >>= fun _ =>
          if client.subscribedToConnectionGraph then releaseConnectionGraph config.recording
          else pure ()) { world with server := world.server.eraseClient hdl }).2 :=
      rel_bind (fun _ => graph) _
    exact Eq.trans kept released
  refine noteClosed (erased.of_view view) ?_
  intro channelId stored
  have channels := congrArg (·.2.1) view
  change (handleConnectionClosed config.recording hdl world).2.server.clientChannels =
    (reached.server.eraseClientChannels hdl).clientChannels at channels
  unfold Server.publications at stored
  rw [channels] at stored
  have none := Server.publications_erase reached.server hdl hdl
  rw [if_pos rfl] at none
  unfold Server.publications at none
  rw [none] at stored
  exact AList.notMem_empty _ stored

end Close

theorem publishStep_gated {config : Config Bridge} (answers : AcceptsOrThrows config)
    {world : World (Recorded Bridge)} (gated : GatedNow config.options world)
    (event : PublishEvent) : GatedNow config.options (publishStep config world event) := by
  cases event with
  | login payload hdl =>
    obtain ⟨outcome, _, bridge, _⟩ := handleLogin_outcome config.recording payload hdl world
    exact gated.login outcome (congrArg Recorded.trace bridge)
  | advertise payload hdl => exact handleAdvertise_gated gated payload hdl
  | unadvertise payload hdl => exact handleUnadvertise_gated answers payload hdl world gated
  | binary data hdl => exact handleBinaryMessage_gated hdl data world gated
  | closed hdl => exact handleConnectionClosed_gated answers gated hdl
  | transport hdl link => exact gated.of_view rfl

theorem gated_initial {options : ServerOptions} {world : World (Recorded Bridge)}
    (server : world.server = .initial) (trace : world.bridge.trace = []) :
    GatedNow options world := by
  constructor
  · intro hdl client found
    rw [server] at found
    cases found
  · intro hdl _ _ channelId stored
    rw [server] at stored
    exact AList.notMem_empty channelId stored
  · intro hdl channelId advertisement _ stored
    rw [server] at stored
    cases stored
  · intro hdl registered
    rw [server] at registered
    exact absurd registered (AList.notMem_empty hdl)
  · rw [trace]
    exact always_nil
  · exact fun _ left => left.elim

/-- In every run the client message handler is invoked only with advertisements of
the client that are in force, and in every state the channels recorded for a client
are those it has publications for. -/
theorem client_messages_gated (config : Config Bridge) (answers : AcceptsOrThrows config)
    (events : List PublishEvent) (world : World (Recorded Bridge))
    (run : (publishSystem config).Run events world) :
    (∀ before message hdl after,
      world.bridge.trace = before ++ .message message hdl :: after →
        Since (KeepsChannel hdl message.advertisement.channelId)
          (AcceptedFor config.options hdl message.advertisement) before) ∧
    ∀ hdl client, world.server.clients.lookup hdl = some client → ∀ channelId,
      channelId ∈ world.server.publications hdl ↔ channelId ∈ client.advertisedChannels := by
  have gated : GatedNow config.options world := by
    apply run.invariant
    · exact fun initial valid => gated_initial valid.1 valid.2
    · rintro state event next holds _ rfl
      exact publishStep_gated answers holds event
  refine ⟨fun before message hdl after split => ?_, gated.agree⟩
  exact gated.messages before _ after split message hdl rfl

/-- A server whose clients may publish on the topics below `/cmd`. -/
def publishConfig : Config Unit :=
  { Config.accepting with
    options := ⟨[capabilityClientPublish], [], [], "",
      [⟨fun topic => topic.toList.take 4 = ['/', 'c', 'm', 'd']⟩]⟩ }

/-- A request that lists one channel for each topic, numbered from one. -/
def advertisePayload (topics : List String) : Json :=
  .object [("channels", .array ((topics.zipIdx 1).map fun topic =>
    .object [("id", .numberUnsigned (UInt64.ofNat topic.2)), ("topic", .string topic.1),
      ("encoding", .string "json"), ("schemaName", .string "Twist")]))]

/-- A client logs in, advertises two topics and publishes on the first. -/
def publishEvents : List PublishEvent :=
  [.login loginPayload ⟨1⟩, .advertise (advertisePayload ["/cmd_vel", "/rosout"]) ⟨1⟩,
    .binary [1, 1, 0, 0, 0] ⟨1⟩, .binary [1, 2, 0, 0, 0] ⟨1⟩]

def publishWorld : World (Recorded Unit) :=
  publishEvents.foldl (publishStep publishConfig) (.initial ⟨(), []⟩)

/-- A message on an advertised channel. -/
theorem client_messages_gated_cmd_vel :
    (publishSystem publishConfig).Run publishEvents publishWorld ∧
      ∃ before message, publishWorld.bridge.trace = before ++ [.message message ⟨1⟩] ∧
        message.advertisement.topic = "/cmd_vel" ∧
        Since (KeepsChannel ⟨1⟩ message.advertisement.channelId)
          (AcceptedFor publishConfig.options ⟨1⟩ message.advertisement) before := by
  have answers : AcceptsOrThrows publishConfig := by
    intro channelId hdl handler resolved bridge
    cases resolved
    exact ⟨rfl, fun undefined => nomatch undefined⟩
  have initial : (publishSystem publishConfig).Initial (.initial ⟨(), []⟩) := ⟨rfl, rfl⟩
  have run : (publishSystem publishConfig).Run publishEvents publishWorld :=
    TransitionSystem.run_foldl (fun _ _ => rfl) initial publishEvents
  have trace : ∃ before message, publishWorld.bridge.trace = before ++ [.message message ⟨1⟩] ∧
      message.advertisement.topic = "/cmd_vel" := by
    refine ⟨[.loggedIn ⟨1⟩, .request (advertisePayload ["/cmd_vel", "/rosout"]) ⟨1⟩,
      .advertised ⟨1, "/cmd_vel", "json", "Twist", []⟩ ⟨1⟩],
      ⟨0, 0, 0, ⟨1, "/cmd_vel", "json", "Twist", []⟩, 5, [1, 1, 0, 0, 0]⟩, ?_, rfl⟩
    rfl
  obtain ⟨before, message, split, topic⟩ := trace
  exact ⟨run, before, message, split, topic,
    (client_messages_gated publishConfig answers _ _ run).1 before message ⟨1⟩ [] split⟩

end CoBridge

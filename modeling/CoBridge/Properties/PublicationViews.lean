import CoBridge.Properties.ClientViews
import CoBridge.Properties.HoldingsPublishers
import CoBridge.Properties.PublishSteps

/-!
# Publications of one connection

What the entries of advertise and unadvertise requests do to what is kept for a client.
-/

namespace CoBridge.Ros2

open Library Action Table

variable {Rest : Type} {setup : Setup Rest} {world : World (Bridge Rest)} {hdl : ConnHandle}
  {offer : Offer} {view : ClientView}

section Advertise

variable {advertisement : ClientAdvertisement}
variable {bridge : Bridge Rest}

/-- An advertise call for an id that is free, when ROS creates the publisher. -/
theorem clientAdvertise_granted (absent : advertisement.channelId ∉ bridge.clientPublications hdl)
    (created : bridge.environment.creates advertisement) :
    (clientAdvertise advertisement hdl bridge).outcome = .ok () ∧
      (clientAdvertise advertisement hdl bridge).bridge.viewFor hdl = { bridge.viewFor hdl with
        clientAdvertisedTopics := some ((bridge.clientPublications hdl).emplace
          advertisement.channelId (advertisement.topic, advertisement.schemaName)) } := by
  rcases clientAdvertise_cases advertisement hdl bridge with ⟨_, refused, _⟩ | ⟨_, _, accepted⟩
  · rcases refused with listed | uncreated
    · exact absurd listed absent
    · exact absurd created uncreated
  have returned : (clientAdvertise advertisement hdl bridge).outcome = .ok () :=
    congrArg Reply.outcome accepted
  refine ⟨returned, ?_⟩
  have publishers := clientAdvertise_publishers bridge advertisement hdl hdl
  rw [if_pos rfl, returned] at publishers
  rw [clientAdvertise_bridge]
  unfold Bridge.viewFor
  simp only [publishers]
  rfl

/-- Any other advertise call fails, and leaves the client with an entry. -/
theorem clientAdvertise_denied (denied : advertisement.channelId ∈ bridge.clientPublications hdl ∨
      ¬ bridge.environment.creates advertisement) :
    (∃ fault, (clientAdvertise advertisement hdl bridge).outcome = .error fault) ∧
      (clientAdvertise advertisement hdl bridge).bridge.viewFor hdl = { bridge.viewFor hdl with
        clientAdvertisedTopics := some (bridge.clientPublications hdl) } := by
  have opened : Bridge.viewFor { bridge with
      clientAdvertisedTopics := bridge.clientAdvertisedTopics.emplace hdl ∅ } hdl =
      { bridge.viewFor hdl with
        clientAdvertisedTopics := some (bridge.clientPublications hdl) } := by
    unfold Bridge.viewFor
    simp only [lookup_emplace, if_true]
    rfl
  rcases clientAdvertise_cases advertisement hdl bridge with ⟨_, _, same⟩ |
    ⟨absent, created, _⟩
  · rw [same]
    exact ⟨⟨_, rfl⟩, opened⟩
  · rcases denied with listed | uncreated
    · exact absurd listed absent
    · exact absurd created uncreated

/-- The view after a client advertised a channel. -/
def ClientView.advertise (view : ClientView) (advertisement : ClientAdvertisement) : ClientView :=
  { view with
    advertisedChannels := view.advertisedChannels.emplace advertisement.channelId ()
    clientChannels := view.clientChannels.map fun publications =>
      publications.emplace advertisement.channelId advertisement
    clientAdvertisedTopics := some (view.publishers.emplace advertisement.channelId
      (advertisement.topic, advertisement.schemaName)) }

/-- The map of a client's publications is created before the entries are looked at. -/
def ClientView.openPublications (view : ClientView) : ClientView :=
  { view with clientChannels := some view.publications }

/-- The map of a client's publishers is created even if the bridge refuses a channel. -/
def ClientView.openPublishers (view : ClientView) : ClientView :=
  { view with clientAdvertisedTopics := some view.publishers }

/-- The decision on an entry of an advertise request. -/
def advertisingDecision (options : ServerOptions) (offer : Offer) (isFirstPublication : Bool)
    (advertisement : ClientAdvertisement) (view : ClientView) : Decision ClientView :=
  if (isFirstPublication = false ∧ advertisement.channelId ∈ view.publications) ∨
      isWhitelisted advertisement.topic options.clientTopicWhitelistPatterns = false then .pass
  else if advertisement.channelId ∈ view.publishers ∨
      ¬ offer.environment.creates advertisement then .refuse
  else .take (view.advertise advertisement)

/-- The decision of the server on an entry that can be read. -/
theorem advertiseDecision_of_read (options : ServerOptions) (isFirst : Bool)
    (publications : Table ClientChannelId ClientAdvertisement) {chan : Json}
    (read : advertisementOf chan = .ok advertisement) :
    (((isFirst = false ∧ advertisement.channelId ∈ publications) ∨
        isWhitelisted advertisement.topic options.clientTopicWhitelistPatterns = false) ∧
      ∃ refusal, advertiseDecision options isFirst publications chan = .ok (.inl refusal)) ∨
    (¬ ((isFirst = false ∧ advertisement.channelId ∈ publications) ∨
        isWhitelisted advertisement.topic options.clientTopicWhitelistPatterns = false) ∧
      advertiseDecision options isFirst publications chan = .ok (.inr advertisement)) := by
  obtain ⟨channelId, id, rest⟩ := except_bind_ok.mp read
  obtain ⟨topic, topicRead, rest⟩ := except_bind_ok.mp rest
  obtain ⟨encoding, encodingRead, rest⟩ := except_bind_ok.mp rest
  obtain ⟨schemaName, schemaRead, rest⟩ := except_bind_ok.mp rest
  cases rest
  unfold advertiseDecision
  rw [id]
  by_cases known : isFirst = false ∧ channelId ∈ publications
  · refine .inl ⟨.inl known, "Channel " ++ toString channelId ++ " was already advertised", ?_⟩
    exact if_pos ⟨by rw [known.1]; rfl, known.2⟩
  have unknown : ¬ ((!isFirst) = true ∧ channelId ∈ publications) := by
    rwa [Bool.not_eq_true']
  cases listed : isWhitelisted topic options.clientTopicWhitelistPatterns with
  | false =>
    refine .inl ⟨.inr rfl, "Can't advertise channel " ++ toString channelId ++ ", topic '" ++
      topic ++ "' not whitelisted", ?_⟩
    change (if _ then _ else _) = _
    rw [if_neg unknown, topicRead]
    change (if isWhitelisted topic options.clientTopicWhitelistPatterns then _ else _) = _
    rw [listed]
    rfl
  | true =>
    refine .inr ⟨by simpa using known, ?_⟩
    change (if _ then _ else _) = _
    rw [if_neg unknown, topicRead]
    change (if isWhitelisted topic options.clientTopicWhitelistPatterns then _ else _) = _
    rw [listed, if_pos rfl, encodingRead, schemaRead]
    rfl

/-- An entry of an advertise request does to the maps what the decision says. -/
theorem advertiseEntry_serves (shown : Shows hdl offer view world) (isFirst : Bool) {chan : Json}
    (read : advertisementOf chan = .ok advertisement) :
    BatchPolicy.Serves (Shows hdl offer) ClientView.openPublishers view
      (advertisingDecision setup.config.options offer isFirst advertisement view)
      (advertiseEntry setup.config isFirst hdl chan world) := by
  have kept := shown
  obtain ⟨registered, rfl, rfl⟩ := shown
  unfold advertisingDecision advertiseEntry
  change BatchPolicy.Serves _ _ _ _
    ((Action.ofExcept (advertiseDecision setup.config.options isFirst
    (clientView hdl world).publications chan) >>= advertiseChannel setup.config hdl) world)
  rcases advertiseDecision_of_read setup.config.options isFirst (clientView hdl world).publications
    read with ⟨passed, refusal, decision⟩ | ⟨considered, decision⟩
  · rw [if_pos passed, decision, ofExcept_ok_bind_apply, advertiseChannel,
      sendStatusAndLogMsg_apply]
    exact ⟨rfl, kept.enqueue hdl _⟩
  rw [if_neg considered, decision, ofExcept_ok_bind_apply, advertiseChannel]
  have called : callHandler setup.config (.clientAdvertise advertisement hdl) world = _ :=
    callHandler_clientAdvertise advertisement hdl world
  by_cases denied : advertisement.channelId ∈ (clientView hdl world).publishers ∨
      ¬ (offerOf world).environment.creates advertisement
  · obtain ⟨⟨fault, failed⟩, after⟩ := clientAdvertise_denied denied
    obtain ⟨client, found⟩ := (mem_iff_lookup _ _).mp registered
    rw [failed] at called
    rw [if_pos denied, bind_error called]
    refine ⟨⟨fault, rfl⟩, kept.take _ world.server after found rfl rfl rfl ?_⟩
    rw [clientView_of_found found]
    rfl
  · obtain ⟨absent, created⟩ := not_or.mp denied
    obtain ⟨returned, after⟩ := clientAdvertise_granted absent (not_not.mp created)
    rw [returned] at called
    obtain ⟨client, found, changed⟩ := lookup_modifyClient registered
      (ClientInfo.addAdvertisedChannel advertisement.channelId)
    rw [if_neg denied, bind_ok called]
    rw [record_apply (by exact registered)]
    refine ⟨rfl, kept.take _ _ after changed rfl rfl rfl ?_⟩
    rw [clientView_of_found found]
    unfold ClientView.advertise Server.modifyPublications
    simp only [lookup_modify, if_true]
    rfl

end Advertise

section Unadvertise

/-- The view after a client unadvertised a channel. -/
def ClientView.unadvertise (view : ClientView) (channelId : ClientChannelId) : ClientView :=
  { view with
    advertisedChannels := view.advertisedChannels.erase channelId
    clientChannels := view.clientChannels.map fun publications => publications.erase channelId
    clientAdvertisedTopics :=
      if (view.publishers.erase channelId).keys.isEmpty then none
      else view.clientAdvertisedTopics.map fun publishers => publishers.erase channelId }

/-- The view after an unadvertise request that failed: the publisher of the client is gone, if
there was one. -/
def ClientView.losePublisher (view : ClientView) (channelId : ClientChannelId) : ClientView :=
  if channelId ∈ view.publishers then
    { view with clientAdvertisedTopics := (view.unadvertise channelId).clientAdvertisedTopics }
  else view

/-- The decision on an entry of an unadvertise request. -/
def unadvertisingDecision (offer : Offer) (channelId : ClientChannelId) (view : ClientView) :
    Decision ClientView :=
  if channelId ∉ view.publications then .pass
  else if channelId ∈ view.publishers ∧ offer.environment.wallTimerFailure = none then
    .take (view.unadvertise channelId)
  else .refuse

/-- An id of an unadvertise request does to the maps what the decision says. -/
theorem unadvertiseEntry_serves (shown : Shows hdl offer view world) (channelId : ClientChannelId) :
    BatchPolicy.Serves (Shows hdl offer) (·.losePublisher channelId) view
      (unadvertisingDecision offer channelId view)
      (unadvertiseEntry setup.config hdl channelId world) := by
  have kept := shown
  obtain ⟨registered, rfl, rfl⟩ := shown
  unfold unadvertisingDecision unadvertiseEntry
  rw [gets_bind_apply]
  by_cases listed : channelId ∈ world.server.publications hdl
  · rw [if_pos listed, if_neg (not_not.mpr
      (show channelId ∈ (clientView hdl world).publications from listed))]
    have called : callHandler setup.config (.clientUnadvertise channelId hdl) world = _ :=
      callHandler_clientUnadvertise channelId hdl world
    have publishers := clientUnadvertise_publishers world.bridge channelId hdl
    have others := clientUnadvertise_bridge world.bridge channelId hdl
    by_cases granted : channelId ∈ (clientView hdl world).publishers ∧
        (offerOf world).environment.wallTimerFailure = none
    · have returned := (clientUnadvertise_returns_iff world.bridge channelId hdl).mpr granted
      rw [if_pos (by exact granted.1)] at publishers
      rw [publishers] at others
      rw [returned, others] at called
      obtain ⟨client, found, changed⟩ := lookup_modifyClient registered
        (ClientInfo.removeAdvertisedChannel channelId)
      rw [if_pos granted, bind_ok called]
      rw [record_apply (by exact registered)]
      refine ⟨rfl, kept.take _ _ rfl changed rfl rfl rfl ?_⟩
      rw [clientView_of_found found]
      unfold ClientView.unadvertise Server.modifyPublications Bridge.viewFor
      simp only [lookup_modify, if_true, lookup_eraseInner_self]
      rfl
    · have failed : (clientUnadvertise channelId hdl world.bridge).outcome ≠ .ok () :=
        fun returned => granted ((clientUnadvertise_returns_iff _ _ _).mp returned)
      rw [if_neg granted]
      rcases outcome : (clientUnadvertise channelId hdl world.bridge).outcome with fault | _
      · rw [outcome] at called
        rw [bind_error called]
        refine ⟨⟨fault, rfl⟩, ?_⟩
        change Shows hdl _ ((clientView hdl world).losePublisher channelId) _
        by_cases published : channelId ∈ (clientView hdl world).publishers
        · obtain ⟨client, found⟩ := (mem_iff_lookup _ _).mp registered
          rw [if_pos (by exact published)] at publishers
          rw [publishers] at others
          rw [others, ClientView.losePublisher, if_pos published]
          refine kept.take _ world.server rfl found rfl rfl rfl ?_
          rw [clientView_of_found found]
          unfold ClientView.unadvertise Bridge.viewFor
          simp only [lookup_eraseInner_self]
          rfl
        · rw [if_neg (by exact published)] at publishers
          rw [publishers] at others
          rw [ClientView.losePublisher, if_neg published]
          exact kept.call _ (congrArg (·.viewFor hdl) others)
      · exact absurd outcome failed
  · rw [if_neg listed, if_pos (show channelId ∉ (clientView hdl world).publications from listed)]
    exact ⟨rfl, kept⟩

end Unadvertise

end CoBridge.Ros2

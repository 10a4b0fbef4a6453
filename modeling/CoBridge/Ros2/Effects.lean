import CoBridge.Ros2.Node
import CoBridge.Server.OperationEffects

/-!
# What the bridge's handlers do to its tables

`Subscribed` is the relation the subscription table stands for: a subscribe
call that returns adds one pair, an unsubscribe call that returns removes one,
nothing else a handler does changes it.
-/

namespace CoBridge.Ros2

open Library Action Table

section

variable {Rest : Type}
variable {bridge : Bridge Rest} {channelId : ChannelId}

/-- The bridge holds a ROS subscription of the client for the channel. -/
def Bridge.Subscribed (bridge : Bridge Rest) (channelId : ChannelId) (hdl : ConnHandle) : Prop :=
  hdl ∈ bridge.subscriptionsByClient channelId

instance (bridge : Bridge Rest) (channelId : ChannelId) (hdl : ConnHandle) :
    Decidable (bridge.Subscribed channelId hdl) :=
  inferInstanceAs (Decidable (_ ∈ _))

theorem Bridge.subscribed_iff (bridge : Bridge Rest) (channelId : ChannelId) (hdl : ConnHandle) :
    bridge.Subscribed channelId hdl ↔
      ∃ clients, bridge.subscriptions.lookup channelId = some clients ∧ hdl ∈ clients := by
  unfold Bridge.Subscribed Bridge.subscriptionsByClient
  rcases bridge.subscriptions.lookup channelId with _ | clients <;> simp

/-- Creating the map of a channel subscribes nobody. -/
theorem subscribed_emplace (bridge : Bridge Rest) (channelId other : ChannelId)
    (hdl : ConnHandle) :
    Bridge.Subscribed { bridge with subscriptions := bridge.subscriptions.emplace channelId ∅ }
      other hdl ↔ bridge.Subscribed other hdl := by
  unfold Bridge.Subscribed Bridge.subscriptionsByClient
  rw [lookup_emplace]
  split
  · subst other
    rcases bridge.subscriptions.lookup channelId with _ | clients <;> simp
  · rfl

/-! ### What a call comes down to -/

section Cases

/-- A subscribe call fails, for an advertised channel after its map was created, or it adds
the client. -/
theorem subscribe_cases (channelId : ChannelId) (hdl : ConnHandle) (bridge : Bridge Rest) :
    (∃ exception, bridge.advertisedTopics.lookup channelId = none ∧
      subscribe channelId hdl bridge = .fail exception bridge) ∨
    (∃ exception channel, bridge.advertisedTopics.lookup channelId = some channel ∧
      (hdl ∈ bridge.subscriptionsByClient channelId ∨
        ¬ (bridge.environment.publishersInfoFailure channel.topic = none ∧
          bridge.environment.subscriptionFailure (channel.topic, channel.schemaName) = none)) ∧
      subscribe channelId hdl bridge = .fail exception
        { bridge with subscriptions := bridge.subscriptions.emplace channelId ∅ }) ∨
    ∃ channel, bridge.advertisedTopics.lookup channelId = some channel ∧
      hdl ∉ bridge.subscriptionsByClient channelId ∧
      (bridge.environment.publishersInfoFailure channel.topic = none ∧
        bridge.environment.subscriptionFailure (channel.topic, channel.schemaName) = none) ∧
      subscribe channelId hdl bridge = .accept { bridge with
        subscriptions := (bridge.subscriptions.emplace channelId ∅).modify channelId
          fun subscriptionsByClient =>
            subscriptionsByClient.emplace hdl (channel.topic, channel.schemaName) } := by
  unfold subscribe
  cases found : bridge.advertisedTopics.lookup channelId with
  | none => exact .inl ⟨_, rfl, rfl⟩
  | some channel =>
    refine .inr ?_
    dsimp only
    split
    · next listed => exact .inl ⟨_, channel, rfl, .inl listed, rfl⟩
    next unlisted =>
      split
      · next info =>
        exact .inl ⟨_, channel, rfl, .inr fun succeeds => by simp [succeeds.1] at info, rfl⟩
      · next info =>
        split
        · next failure =>
          refine .inl ⟨_, channel, rfl, .inr fun succeeds => ?_, rfl⟩
          simp [succeeds.2] at failure
        · next created => exact .inr ⟨channel, rfl, unlisted, ⟨info, created⟩, rfl⟩

/-- An unsubscribe call removes a subscribed client from an advertised channel, or it fails. -/
theorem unsubscribe_cases (channelId : ChannelId) (hdl : ConnHandle) (bridge : Bridge Rest) :
    (∃ exception, ¬ (channelId ∈ bridge.advertisedTopics ∧ bridge.Subscribed channelId hdl) ∧
      unsubscribe channelId hdl bridge = .fail exception bridge) ∨
    (channelId ∈ bridge.advertisedTopics ∧ bridge.Subscribed channelId hdl) ∧
      unsubscribe channelId hdl bridge = .accept
        { bridge with subscriptions := bridge.subscriptions.eraseInner channelId hdl } := by
  unfold unsubscribe
  split
  · next unknown => exact .inl ⟨_, fun known => unknown known.1, rfl⟩
  next advertised =>
    split
    · next unmapped =>
      refine .inl ⟨_, fun known => unmapped ?_, rfl⟩
      obtain ⟨clients, found, _⟩ := (bridge.subscribed_iff channelId hdl).mp known.2
      exact mem_of_lookup found
    · split
      · next unsubscribed => exact .inl ⟨_, fun known => unsubscribed known.2, rfl⟩
      · next subscribed =>
        exact .inr ⟨⟨not_not.mp advertised, not_not.mp subscribed⟩, rfl⟩

/-- An advertise call creates the map of the client and fails, or adds a publisher to it. -/
theorem clientAdvertise_cases (advertisement : ClientAdvertisement) (hdl : ConnHandle)
    (bridge : Bridge Rest) :
    (∃ exception, (advertisement.channelId ∈ bridge.clientPublications hdl ∨
        ¬ (bridge.environment.publishersInfoFailure advertisement.topic = none ∧
          bridge.environment.publisherFailure (advertisement.topic, advertisement.schemaName) =
            none)) ∧
      clientAdvertise advertisement hdl bridge = .fail exception { bridge with
        clientAdvertisedTopics := bridge.clientAdvertisedTopics.emplace hdl ∅ }) ∨
    advertisement.channelId ∉ bridge.clientPublications hdl ∧
      (bridge.environment.publishersInfoFailure advertisement.topic = none ∧
        bridge.environment.publisherFailure (advertisement.topic, advertisement.schemaName) =
          none) ∧
      clientAdvertise advertisement hdl bridge = .accept { bridge with
        clientAdvertisedTopics := (bridge.clientAdvertisedTopics.emplace hdl ∅).modify hdl
          fun publications => publications.emplace advertisement.channelId
            (advertisement.topic, advertisement.schemaName) } := by
  unfold clientAdvertise
  split
  · next listed => exact .inl ⟨_, .inl listed, rfl⟩
  next unlisted =>
    split
    · next failure =>
      refine .inl ⟨_, .inr fun succeeds => ?_, rfl⟩
      rw [succeeds.1, succeeds.2] at failure
      cases failure
    · next created => exact .inr ⟨unlisted, by simpa using created, rfl⟩

theorem clientPublications_of_missing {bridge : Bridge Rest} {hdl : ConnHandle}
    (missing : hdl ∉ bridge.clientAdvertisedTopics) : bridge.clientPublications hdl = ∅ := by
  unfold Bridge.clientPublications
  rw [AList.lookup_eq_none.mpr missing]
  rfl

/-- An unadvertise call fails or removes a publisher of the client, and may fail after that. -/
theorem clientUnadvertise_cases (channelId : ClientChannelId) (hdl : ConnHandle)
    (bridge : Bridge Rest) :
    (∃ exception, channelId ∉ bridge.clientPublications hdl ∧
      clientUnadvertise channelId hdl bridge = .fail exception bridge) ∨
    channelId ∈ bridge.clientPublications hdl ∧ ∃ outcome,
      (outcome = .ok () ↔ bridge.environment.wallTimerFailure = none) ∧
      outcome ≠ .error .undefinedBehavior ∧
      clientUnadvertise channelId hdl bridge = ⟨[], outcome, { bridge with
        clientAdvertisedTopics := bridge.clientAdvertisedTopics.eraseInner hdl channelId }⟩ := by
  unfold clientUnadvertise
  split
  · next missing =>
    refine .inl ⟨_, ?_, rfl⟩
    rw [clientPublications_of_missing missing]
    exact AList.notMem_empty _
  · split
    · next unlisted => exact .inl ⟨_, unlisted, rfl⟩
    · next listed =>
      refine .inr ⟨not_not.mp listed, ?_⟩
      cases failure : bridge.environment.wallTimerFailure with
      | some what => exact ⟨.error (.raised (.std what)), by simp, by simp, rfl⟩
      | none => exact ⟨.ok (), by simp, by simp, rfl⟩

end Cases

/-! ### Subscriptions -/

/-- A subscribe call that returns adds the pair, one that throws adds nothing. -/
theorem subscribed_subscribe (bridge : Bridge Rest) (channelId other : ChannelId)
    (client hdl : ConnHandle) :
    (subscribe channelId client bridge).bridge.Subscribed other hdl ↔
      bridge.Subscribed other hdl ∨
        ((subscribe channelId client bridge).outcome = .ok () ∧ other = channelId ∧
          hdl = client) := by
  rcases subscribe_cases channelId client bridge with ⟨_, _, same⟩ | ⟨_, _, _, _, same⟩ |
    ⟨channel, _, _, _, same⟩
  · simp [same, Reply.fail]
  · simp [same, Reply.fail, subscribed_emplace]
  · simp only [same, Reply.accept, true_and]
    unfold Bridge.Subscribed Bridge.subscriptionsByClient
    rw [lookup_modify]
    split
    · subst other
      rw [lookup_emplace, if_pos rfl]
      simp [or_comm]
    · next different =>
      rw [lookup_emplace, if_neg different]
      simp [different]

@[simp] theorem subscribe_callbacks (bridge : Bridge Rest) (channelId : ChannelId)
    (hdl : ConnHandle) : (subscribe channelId hdl bridge).callbacks = [] := by
  rcases subscribe_cases channelId hdl bridge with ⟨_, _, same⟩ | ⟨_, _, _, _, same⟩ |
    ⟨_, _, _, _, same⟩ <;> rw [same] <;> rfl

theorem subscribe_refuses {hdl : ConnHandle} (subscribed : bridge.Subscribed channelId hdl) :
    (subscribe channelId hdl bridge).outcome ≠ .ok () := by
  rcases subscribe_cases channelId hdl bridge with ⟨_, _, same⟩ | ⟨_, _, _, _, same⟩ |
    ⟨_, _, unlisted, _⟩
  · simp [same, Reply.fail]
  · simp [same, Reply.fail]
  · exact absurd subscribed unlisted

/-- Only an advertised channel can be subscribed to. -/
theorem advertised_of_subscribe {hdl : ConnHandle}
    (returned : (subscribe channelId hdl bridge).outcome = .ok ()) :
    channelId ∈ bridge.advertisedTopics := by
  rcases subscribe_cases channelId hdl bridge with ⟨_, _, same⟩ | ⟨_, _, found, _⟩ |
    ⟨_, found, _⟩
  · simp [same, Reply.fail] at returned
  · exact mem_of_lookup found
  · exact mem_of_lookup found

@[simp] theorem unsubscribe_callbacks (bridge : Bridge Rest) (channelId : ChannelId)
    (hdl : ConnHandle) : (unsubscribe channelId hdl bridge).callbacks = [] := by
  rcases unsubscribe_cases channelId hdl bridge with ⟨_, _, same⟩ | ⟨_, same⟩ <;> rw [same] <;> rfl

theorem unsubscribe_defined (bridge : Bridge Rest) (channelId : ChannelId) (hdl : ConnHandle) :
    (unsubscribe channelId hdl bridge).outcome ≠ .error .undefinedBehavior := by
  rcases unsubscribe_cases channelId hdl bridge with ⟨_, _, same⟩ | ⟨_, same⟩
  · simp [same, Reply.fail]
  · simp [same, Reply.accept]

/-- An unsubscribe call returns exactly for a subscribed client of an advertised channel. -/
theorem unsubscribe_returns_iff (bridge : Bridge Rest) (channelId : ChannelId)
    (hdl : ConnHandle) :
    (unsubscribe channelId hdl bridge).outcome = .ok () ↔
      channelId ∈ bridge.advertisedTopics ∧ bridge.Subscribed channelId hdl := by
  rcases unsubscribe_cases channelId hdl bridge with ⟨_, unknown, same⟩ | ⟨known, same⟩
  · exact iff_of_false (by simp [same, Reply.fail]) unknown
  · exact iff_of_true (by simp [same, Reply.accept]) known

/-- An unsubscribe call that returns removes the pair, one that throws removes nothing. -/
theorem subscribed_unsubscribe (bridge : Bridge Rest) (channelId other : ChannelId)
    (client hdl : ConnHandle) :
    (unsubscribe channelId client bridge).bridge.Subscribed other hdl ↔
      bridge.Subscribed other hdl ∧
        ¬((unsubscribe channelId client bridge).outcome = .ok () ∧ other = channelId ∧
          hdl = client) := by
  rcases unsubscribe_cases channelId client bridge with ⟨_, _, same⟩ | ⟨_, same⟩
  · simp [same, Reply.fail]
  · simp only [same, Reply.accept, true_and]
    exact mem_lookup_eraseInner _ _ _ _ _

/-- Subscriptions concern no other part of the bridge. -/
theorem subscribe_others (bridge : Bridge Rest) (channelId : ChannelId) (hdl : ConnHandle) :
    ∃ subscriptions, (subscribe channelId hdl bridge).bridge =
      { bridge with subscriptions := subscriptions } := by
  rcases subscribe_cases channelId hdl bridge with ⟨_, _, same⟩ | ⟨_, _, _, _, same⟩ |
    ⟨_, _, _, _, same⟩ <;> exact ⟨_, congrArg Reply.bridge same⟩

theorem unsubscribe_others (bridge : Bridge Rest) (channelId : ChannelId) (hdl : ConnHandle) :
    ∃ subscriptions, (unsubscribe channelId hdl bridge).bridge =
      { bridge with subscriptions := subscriptions } := by
  rcases unsubscribe_cases channelId hdl bridge with ⟨_, _, same⟩ | ⟨_, same⟩ <;>
    exact ⟨_, congrArg Reply.bridge same⟩

theorem subscribe_advertisedTopics (bridge : Bridge Rest) (channelId : ChannelId)
    (hdl : ConnHandle) :
    (subscribe channelId hdl bridge).bridge.advertisedTopics = bridge.advertisedTopics := by
  obtain ⟨_, same⟩ := subscribe_others bridge channelId hdl
  rw [same]

theorem unsubscribe_advertisedTopics (bridge : Bridge Rest) (channelId : ChannelId)
    (hdl : ConnHandle) :
    (unsubscribe channelId hdl bridge).bridge.advertisedTopics = bridge.advertisedTopics := by
  obtain ⟨_, same⟩ := unsubscribe_others bridge channelId hdl
  rw [same]

/-! ### Publishers -/

/-- Publishers concern no other part of the bridge. -/
theorem clientAdvertise_bridge (bridge : Bridge Rest) (advertisement : ClientAdvertisement)
    (hdl : ConnHandle) :
    (clientAdvertise advertisement hdl bridge).bridge = { bridge with clientAdvertisedTopics :=
      (clientAdvertise advertisement hdl bridge).bridge.clientAdvertisedTopics } := by
  rcases clientAdvertise_cases advertisement hdl bridge with ⟨_, _, same⟩ | ⟨_, _, same⟩ <;>
    rw [same] <;> rfl

theorem clientUnadvertise_bridge (bridge : Bridge Rest) (channelId : ClientChannelId)
    (hdl : ConnHandle) :
    (clientUnadvertise channelId hdl bridge).bridge = { bridge with clientAdvertisedTopics :=
      (clientUnadvertise channelId hdl bridge).bridge.clientAdvertisedTopics } := by
  rcases clientUnadvertise_cases channelId hdl bridge with ⟨_, _, same⟩ | ⟨_, _, _, _, same⟩ <;>
    rw [same]
  rfl

/-- The channels advertised to clients and the subscriptions to them. -/
def Bridge.channelTables (bridge : Bridge Rest) : Table ChannelId ChannelWithoutId ×
    Table ChannelId (Table ConnHandle TopicAndDatatype) :=
  (bridge.advertisedTopics, bridge.subscriptions)

theorem clientUnadvertise_callbacks (bridge : Bridge Rest) (channelId : ClientChannelId)
    (hdl : ConnHandle) : (clientUnadvertise channelId hdl bridge).callbacks = [] := by
  rcases clientUnadvertise_cases channelId hdl bridge with ⟨_, _, same⟩ | ⟨_, _, _, _, same⟩ <;>
    rw [same]
  rfl

theorem clientUnadvertise_defined (bridge : Bridge Rest) (channelId : ClientChannelId)
    (hdl : ConnHandle) :
    (clientUnadvertise channelId hdl bridge).outcome ≠ .error .undefinedBehavior := by
  rcases clientUnadvertise_cases channelId hdl bridge with ⟨_, _, same⟩ | ⟨_, _, _, defined, same⟩
  · simp [same, Reply.fail]
  · rw [same]
    exact defined

/-- The tables of the node. -/
def Bridge.tables (bridge : Bridge Rest) : Table ChannelId ChannelWithoutId ×
    Table ChannelId (Table ConnHandle TopicAndDatatype) ×
    Table ConnHandle (Table ClientChannelId TopicAndDatatype) :=
  (bridge.advertisedTopics, bridge.subscriptions, bridge.clientAdvertisedTopics)

/-- The calls about a subscription or a publisher of a client. -/
def changesTables : HandlerCall → Bool
  | .subscribe _ _ | .unsubscribe _ _ | .clientAdvertise _ _ | .clientUnadvertise _ _ => true
  | _ => false

section Resolve

variable {options : Options} {rest : RestHandlers Rest} {call : HandlerCall}
  {handler : Bridge Rest → Reply (Bridge Rest)}

/-- The other calls keep the tables. -/
theorem resolve_tables (registered : (handlers options rest).resolve call = some handler)
    (other : changesTables call = false) (bridge : Bridge Rest) :
    (handler bridge).bridge.tables = bridge.tables := by
  cases call with
  | subscribe | unsubscribe | clientAdvertise | clientUnadvertise => cases other
  | clientMessage message hdl =>
    cases Option.some.inj registered
    unfold clientMessage
    dsimp only
    split
    · rfl
    split
    · rfl
    split <;> rfl
  | serviceRequest request hdl =>
    cases Option.some.inj registered
    rfl
  | subscribeConnectionGraph subscribe =>
    cases Option.some.inj registered
    rfl
  | parameterRequest | parameterChange | parameterSubscription | fetchAsset =>
    unfold ServerHandlers.resolve handlers at registered
    dsimp only at registered
    split at registered
    · cases Option.some.inj registered
      rfl
    · cases registered

/-- The calls about a subscription of a client. -/
def changesSubscriptions : HandlerCall → Bool
  | .subscribe _ _ | .unsubscribe _ _ => true
  | _ => false

/-- Only calls about subscriptions change the channels and the subscriptions. -/
theorem resolve_channelTables (registered : (handlers options rest).resolve call = some handler)
    (other : changesSubscriptions call = false) (bridge : Bridge Rest) :
    (handler bridge).bridge.channelTables = bridge.channelTables := by
  cases call with
  | subscribe | unsubscribe => cases other
  | clientAdvertise advertisement client =>
    cases Option.some.inj registered
    rw [clientAdvertise_bridge]
    rfl
  | clientUnadvertise channelId client =>
    cases Option.some.inj registered
    rw [clientUnadvertise_bridge]
    rfl
  | _ =>
    have kept := resolve_tables registered rfl bridge
    exact Prod.ext (congrArg (·.1) kept) (congrArg (·.2.1) kept)

/-- What a handler call does to the subscriptions: one pair is added or removed,
and only by a call about this pair that returns. -/
theorem resolve_subscribed (registered : (handlers options rest).resolve call = some handler)
    (bridge : Bridge Rest) (channelId : ChannelId) (hdl : ConnHandle) :
    (handler bridge).bridge.Subscribed channelId hdl ↔
      (bridge.Subscribed channelId hdl ∧
        ¬(call = .unsubscribe channelId hdl ∧ (handler bridge).outcome = .ok ())) ∨
      (call = .subscribe channelId hdl ∧ (handler bridge).outcome = .ok ()) := by
  cases call with
  | subscribe other client =>
    cases Option.some.inj registered
    rw [subscribed_subscribe]
    grind
  | unsubscribe other client =>
    cases Option.some.inj registered
    rw [subscribed_unsubscribe]
    grind
  | _ =>
    have kept : (handler bridge).bridge.subscriptions = bridge.subscriptions :=
      congrArg Prod.snd (resolve_channelTables registered rfl bridge)
    simp [Bridge.Subscribed, Bridge.subscriptionsByClient, kept]

end Resolve

section Calls

variable (setup : Setup Rest) (world : World (Bridge Rest)) (channelId : ChannelId)
  (hdl : ConnHandle)

/-- A subscribe call through the server. -/
theorem callHandler_subscribe :
    callHandler setup.config (.subscribe channelId hdl) world =
      ((subscribe channelId hdl world.bridge).outcome,
        { world.recordCall (.subscribe channelId hdl) with
          bridge := (subscribe channelId hdl world.bridge).bridge }) :=
  callHandler_of_silent rfl (subscribe_callbacks world.bridge channelId hdl)

/-- An unsubscribe call through the server. -/
theorem callHandler_unsubscribe :
    callHandler setup.config (.unsubscribe channelId hdl) world =
      ((unsubscribe channelId hdl world.bridge).outcome,
        { world.recordCall (.unsubscribe channelId hdl) with
          bridge := (unsubscribe channelId hdl world.bridge).bridge }) :=
  callHandler_of_silent rfl (unsubscribe_callbacks world.bridge channelId hdl)

/-- An unsubscribe call of a disconnect. -/
theorem callHandlerLogged_unsubscribe :
    callHandlerLogged setup.config (.unsubscribe channelId hdl) world =
      (.ok (), { world.recordCall (.unsubscribe channelId hdl) with
        bridge := (unsubscribe channelId hdl world.bridge).bridge }) :=
  callHandlerLogged_of_silent rfl (unsubscribe_callbacks world.bridge channelId hdl)
    (unsubscribe_defined world.bridge channelId hdl)

/-- An unadvertise call of a disconnect. -/
theorem callHandlerLogged_clientUnadvertise (clientChannelId : ClientChannelId) :
    callHandlerLogged setup.config (.clientUnadvertise clientChannelId hdl) world =
      (.ok (), { world.recordCall (.clientUnadvertise clientChannelId hdl) with
        bridge := (clientUnadvertise clientChannelId hdl world.bridge).bridge }) :=
  callHandlerLogged_of_silent rfl (clientUnadvertise_callbacks world.bridge clientChannelId hdl)
    (clientUnadvertise_defined world.bridge clientChannelId hdl)

theorem subscribed_retire (channelIds : List ChannelId) (bridge : Bridge Rest) :
    (bridge.retire channelIds).Subscribed channelId hdl ↔
      bridge.Subscribed channelId hdl ∧ channelId ∉ channelIds := by
  unfold Bridge.Subscribed Bridge.subscriptionsByClient Bridge.retire
  rw [lookup_eraseAll]
  split
  · next retired => simp [retired]
  · next kept => simp [kept]

end Calls

/-! ### Polls -/

section Polls

variable {promise : Guarantee (World (Bridge Rest))}

theorem updateAdvertisedTopics_meets {check : TextCheck}
    (exchanges : ∀ latest,
      (exchangeChannels check latest : ServerAction (Bridge Rest) Unit).Meets promise)
    (options : Options) :
    (updateAdvertisedTopics check options : ServerAction (Bridge Rest) Unit).Meets promise := by
  apply Meets.bind (meets_gets _)
  intro environment
  apply Meets.ite _ (meets_pure _)
  exact (meets_ofExcept _).bind exchanges

theorem exchangeChannels_meets {check : TextCheck}
    (retires : ∀ channelIds,
      (modifyBridge (.retire channelIds) : ServerAction (Bridge Rest) Unit).Meets promise)
    (removes : ∀ channelIds,
      (removeChannels channelIds : ServerAction (Bridge Rest) Unit).Meets promise)
    (adds : ∀ channels, (addChannels check channels : ServerAction (Bridge Rest) _).Meets promise)
    (advertises : ∀ channels,
      (modifyBridge (.advertise channels) : ServerAction (Bridge Rest) Unit).Meets promise)
    (latest : KeySet TopicAndDatatype) :
    (exchangeChannels check latest : ServerAction (Bridge Rest) Unit).Meets promise := by
  apply Meets.bind (meets_gets _)
  intro channelIdsToRemove
  apply Meets.bind (retires channelIdsToRemove)
  intro _
  apply Meets.bind (removes channelIdsToRemove)
  intro _
  apply Meets.bind (meets_gets _)
  intro channelsToAdd
  apply Meets.bind (adds channelsToAdd)
  intro channelIds
  exact advertises _

end Polls

end

/-!
## What the bridge's handlers do to the clients' publishers

An advertise call that returns adds one publisher; one that throws may leave the
client with an entry in which there are none. An unadvertise call removes one
publisher, and the entry with the last.
-/

variable {Rest : Type}

/-- The calls about a publisher of a client. -/
def changesPublishers : HandlerCall → Bool
  | .clientAdvertise _ _ | .clientUnadvertise _ _ => true
  | _ => false

theorem unsubscribe_publishers (bridge : Bridge Rest) (channelId : ChannelId)
    (hdl : ConnHandle) :
    (unsubscribe channelId hdl bridge).bridge.clientAdvertisedTopics =
      bridge.clientAdvertisedTopics := by
  obtain ⟨_, same⟩ := unsubscribe_others bridge channelId hdl
  rw [same]

theorem resolve_publishers {options : Options} {rest : RestHandlers Rest} {call : HandlerCall}
    {handler : Bridge Rest → Reply (Bridge Rest)}
    (registered : (handlers options rest).resolve call = some handler)
    (other : changesPublishers call = false) (bridge : Bridge Rest) :
    (handler bridge).bridge.clientAdvertisedTopics = bridge.clientAdvertisedTopics := by
  cases call with
  | clientAdvertise | clientUnadvertise => cases other
  | subscribe channelId hdl =>
    cases Option.some.inj registered
    obtain ⟨_, same⟩ := subscribe_others bridge channelId hdl
    rw [same]
  | unsubscribe channelId hdl =>
    cases Option.some.inj registered
    exact unsubscribe_publishers bridge channelId hdl
  | _ => exact congrArg (·.2.2) (resolve_tables registered rfl bridge)

/-- ROS creates the publisher. -/
def Environment.creates (environment : Environment) (advertisement : ClientAdvertisement) : Prop :=
  environment.publishersInfoFailure advertisement.topic = none ∧
    environment.publisherFailure (advertisement.topic, advertisement.schemaName) = none

instance (environment : Environment) (advertisement : ClientAdvertisement) :
    Decidable (environment.creates advertisement) :=
  inferInstanceAs (Decidable (_ ∧ _))

section Advertise

variable (bridge : Bridge Rest) (advertisement : ClientAdvertisement) (hdl : ConnHandle)

@[simp] theorem clientAdvertise_callbacks :
    (clientAdvertise advertisement hdl bridge).callbacks = [] := by
  rcases clientAdvertise_cases advertisement hdl bridge with ⟨_, _, same⟩ | ⟨_, _, same⟩ <;>
    rw [same] <;> rfl

/-- The publishers after an advertise call: the client has an entry in any case. -/
theorem clientAdvertise_publishers (other : ConnHandle) :
    (clientAdvertise advertisement hdl bridge).bridge.clientAdvertisedTopics.lookup other =
      if other = hdl then
        match (clientAdvertise advertisement hdl bridge).outcome with
        | .ok () => some ((bridge.clientPublications hdl).emplace advertisement.channelId
            (advertisement.topic, advertisement.schemaName))
        | .error _ => some (bridge.clientPublications hdl)
      else bridge.clientAdvertisedTopics.lookup other := by
  have opened : (bridge.clientAdvertisedTopics.emplace hdl ∅).lookup hdl =
      some (bridge.clientPublications hdl) := by
    rw [lookup_emplace, if_pos rfl]
    rfl
  have others (different : other ≠ hdl) :
      (bridge.clientAdvertisedTopics.emplace hdl ∅).lookup other =
      bridge.clientAdvertisedTopics.lookup other := by
    rw [lookup_emplace, if_neg different]
  rcases clientAdvertise_cases advertisement hdl bridge with ⟨_, _, failed⟩ | ⟨_, _, returned⟩
  · rw [failed]
    by_cases same : other = hdl
    · subst other
      rw [if_pos rfl]
      exact opened
    · rw [if_neg same]
      exact others same
  · rw [returned]
    by_cases same : other = hdl
    · subst other
      simp [Reply.accept, lookup_modify, opened]
    · simp [Reply.accept, lookup_modify, same, others same]

variable {bridge advertisement hdl}

/-- The first publisher of a client is refused only by ROS. -/
theorem clientAdvertise_returns (first : hdl ∉ bridge.clientAdvertisedTopics)
    (created : bridge.environment.creates advertisement) :
    (clientAdvertise advertisement hdl bridge).outcome = .ok () := by
  have unlisted : advertisement.channelId ∉ bridge.clientPublications hdl := by
    rw [clientPublications_of_missing first]
    exact AList.notMem_empty _
  rcases clientAdvertise_cases advertisement hdl bridge with ⟨_, refused, _⟩ | ⟨_, _, returned⟩
  · rcases refused with listed | uncreated
    · exact absurd listed unlisted
    · exact absurd created uncreated
  · rw [returned]
    rfl

end Advertise

section Unadvertise

variable (bridge : Bridge Rest) (channelId : ClientChannelId) (hdl : ConnHandle)
variable {owned : ClientChannelId → Prop}

theorem clientUnadvertise_returns_iff :
    (clientUnadvertise channelId hdl bridge).outcome = .ok () ↔
      channelId ∈ bridge.clientPublications hdl ∧ bridge.environment.wallTimerFailure = none := by
  rcases clientUnadvertise_cases channelId hdl bridge with ⟨_, unlisted, same⟩ |
    ⟨listed, _, returns, _, same⟩
  · exact iff_of_false (by simp [same, Reply.fail]) fun granted => unlisted granted.1
  · rw [same, and_iff_right listed]
    exact returns

theorem clientUnadvertise_publishers :
    (clientUnadvertise channelId hdl bridge).bridge.clientAdvertisedTopics =
      if channelId ∈ bridge.clientPublications hdl then
        bridge.clientAdvertisedTopics.eraseInner hdl channelId
      else bridge.clientAdvertisedTopics := by
  rcases clientUnadvertise_cases channelId hdl bridge with ⟨_, unlisted, same⟩ |
    ⟨listed, _, _, _, same⟩
  · rw [same, if_neg unlisted]
    rfl
  · rw [same, if_pos listed]

/-- Other clients keep their publishers. -/
theorem clientUnadvertise_others {bridge : Bridge Rest} {channelId : ClientChannelId}
    {hdl other : ConnHandle} (different : other ≠ hdl) :
    (clientUnadvertise channelId hdl bridge).bridge.clientAdvertisedTopics.lookup other =
      bridge.clientAdvertisedTopics.lookup other := by
  rw [clientUnadvertise_publishers]
  split
  · exact lookup_eraseInner_of_ne different _ _
  · rfl

/-- A client's publishers are all owned, and there is at least one. -/
def Listed (owned : ClientChannelId → Prop)
    (publishers : Option (Table ClientChannelId TopicAndDatatype)) : Prop :=
  ∀ publications, publishers = some publications →
    (∃ id, id ∈ publications) ∧ ∀ id ∈ publications, owned id

theorem Listed.mono {wider : ClientChannelId → Prop}
    {publishers : Option (Table ClientChannelId TopicAndDatatype)}
    (listed : Listed owned publishers) (implies : ∀ id, owned id → wider id) :
    Listed wider publishers :=
  fun publications found => ⟨(listed publications found).1,
    fun id member => implies id ((listed publications found).2 id member)⟩

/-- After an unadvertise call the publisher is not among them. -/
theorem Listed.afterUnadvertise (listed : Listed owned (bridge.clientAdvertisedTopics.lookup hdl)) :
    Listed (fun id => owned id ∧ id ≠ channelId)
      ((clientUnadvertise channelId hdl bridge).bridge.clientAdvertisedTopics.lookup hdl) := by
  rw [clientUnadvertise_publishers]
  split
  · intro publications found
    have present := (mem_eraseInner hdl hdl channelId _).mp (mem_of_lookup found)
    have inner (id : ClientChannelId) := mem_lookup_eraseInner hdl hdl channelId id
      bridge.clientAdvertisedTopics
    rw [found] at inner
    obtain ⟨before, foundBefore⟩ := (mem_iff_lookup _ _).mp present.1
    rw [foundBefore] at inner present
    simp only [Option.getD_some, true_and] at inner present
    obtain ⟨left, member, different⟩ := present.2 trivial
    refine ⟨⟨left, (inner left).mpr ⟨member, different⟩⟩, fun id remains => ?_⟩
    obtain ⟨here, other⟩ := (inner id).mp remains
    exact ⟨(listed before foundBefore).2 id here, other⟩
  · next absent =>
    intro publications found
    obtain ⟨some, all⟩ := listed publications found
    refine ⟨some, fun id member => ⟨all id member, ?_⟩⟩
    rintro rfl
    apply absent
    unfold Bridge.clientPublications
    rwa [found]

end Unadvertise

end CoBridge.Ros2

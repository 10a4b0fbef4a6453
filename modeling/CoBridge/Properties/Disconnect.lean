import CoBridge.Properties.HoldingsPublishers

/-!
# A disconnect leaves nothing behind

A disconnect ignores connections that are not registered, and it withdraws only
the publishers that the client's record lists. In a run in which connections log
in before they advertise or subscribe to parameters, and in which ROS creates
each client's first publisher, that is enough.
-/

namespace CoBridge.Ros2

open Library Action

variable {Rest : Type} {setup : Setup Rest} {world : World (Bridge Rest)} {hdl : ConnHandle}
  {client : ClientInfo}

/-- Nothing of the connection is left in the tables, and the parameters that only
it had subscribed to were handed to the bridge. -/
structure Released (hdl : ConnHandle) (before after : World (Bridge Rest)) : Prop where
  clients : hdl ∉ after.server.clients
  clientChannels : hdl ∉ after.server.clientChannels
  clientParamSubscriptions : hdl ∉ after.server.clientParamSubscriptions
  clientAdvertisedTopics : hdl ∉ after.bridge.clientAdvertisedTopics
  subscriptions : ∀ channelId clients, after.bridge.subscriptions.lookup channelId = some clients →
    hdl ∉ clients
  parameters : ∀ name, name ∈ before.server.paramSubscriptions hdl →
    (∀ other, other ≠ hdl → name ∉ before.server.paramSubscriptions other) →
    ∃ calls names, after.calls = before.calls ++ calls ∧ name ∈ names ∧
      .parameterSubscription names .unsubscribe hdl ∈ calls

section Loops

/-- Withdrawing the listed publishers withdraws all of them. -/
theorem unadvertiseChannels_apply (setup : Setup Rest) (hdl : ConnHandle)
    (channelIds : List ClientChannelId) (world : World (Bridge Rest)) :
    ∃ calls bridge, unadvertiseChannels setup.config hdl channelIds world =
        (.ok (), { world with calls := world.calls ++ calls, bridge := bridge }) ∧
      (Listed (· ∈ channelIds) (world.bridge.clientAdvertisedTopics.lookup hdl) →
        bridge.clientAdvertisedTopics.lookup hdl = none) ∧
      ∀ other, other ≠ hdl → bridge.clientAdvertisedTopics.lookup other =
        world.bridge.clientAdvertisedTopics.lookup other := by
  induction channelIds generalizing world with
  | nil =>
    refine ⟨[], world.bridge, by simp [unadvertiseChannels], fun listed => ?_, fun _ _ => rfl⟩
    rcases found : world.bridge.clientAdvertisedTopics.lookup hdl with _ | publications
    · rfl
    · obtain ⟨⟨id, member⟩, all⟩ := listed publications found
      exact absurd (all id member) List.not_mem_nil
  | cons channelId rest ih =>
    obtain ⟨calls, bridge, done, withdrawn, others⟩ := ih
      { world.recordCall (.clientUnadvertise channelId hdl) with
        bridge := (clientUnadvertise channelId hdl world.bridge).bridge }
    refine ⟨.clientUnadvertise channelId hdl :: calls, bridge, ?_, fun listed => ?_,
      fun other different => ?_⟩
    · have registered : setup.config.handlers.clientUnadvertiseHandler.isSome = true := rfl
      unfold unadvertiseChannels at done ⊢
      rw [forEach_cons, if_pos registered,
        bind_ok (callHandlerLogged_clientUnadvertise setup world hdl channelId), done]
      simp [World.recordCall]
    · apply withdrawn
      refine (listed.afterUnadvertise world.bridge channelId hdl).mono fun id owned => ?_
      exact (List.mem_cons.mp owned.1).resolve_left owned.2
    · rw [others other different]
      exact clientUnadvertise_others different

theorem unsubscribeChannels_apply (setup : Setup Rest) (hdl : ConnHandle)
    (channelIds : List ChannelId) (world : World (Bridge Rest)) :
    ∃ calls bridge, unsubscribeChannels setup.config hdl channelIds world =
        (.ok (), { world with calls := world.calls ++ calls, bridge := bridge }) ∧
      bridge.clientAdvertisedTopics = world.bridge.clientAdvertisedTopics := by
  have registered : setup.config.handlers.unsubscribeHandler.isSome = true := rfl
  unfold unsubscribeChannels
  rw [if_pos registered]
  induction channelIds generalizing world with
  | nil => exact ⟨[], world.bridge, by simp, rfl⟩
  | cons channelId rest ih =>
    obtain ⟨calls, bridge, done, kept⟩ := ih
      { world.recordCall (.unsubscribe channelId hdl) with
        bridge := (unsubscribe channelId hdl world.bridge).bridge }
    refine ⟨.unsubscribe channelId hdl :: calls, bridge, ?_, ?_⟩
    · rw [forEach_cons,
        bind_ok (callHandlerLogged_unsubscribe setup world channelId hdl), done]
      simp [World.recordCall]
    · rw [kept]
      exact unsubscribe_publishers world.bridge channelId hdl

end Loops

section Close

/-- The tables of a server without anything of the connection. -/
def withoutConnection (hdl : ConnHandle) (server : Server) : Server :=
  Server.eraseParamSubscriptions hdl
    (Server.eraseClientChannels hdl (Server.eraseClient hdl server))

/-- What a disconnect of a registered client does before it hands over the
parameters. -/
theorem releaseClient_apply (setup : Setup Rest) (hdl : ConnHandle) (client : ClientInfo)
    (world : World (Bridge Rest)) :
    ∃ calls bridge,
      releaseClient setup.config hdl client
          { world with server := world.server.eraseClient hdl } =
        unsubscribeParamsWithoutSubscriptions setup.config hdl
          (world.server.paramSubscriptions hdl).keys
          { world with
            server := withoutConnection hdl world.server
            calls := world.calls ++ calls
            bridge := bridge } ∧
      (Listed (· ∈ client.advertisedChannels) (world.bridge.clientAdvertisedTopics.lookup hdl) →
        bridge.clientAdvertisedTopics.lookup hdl = none) ∧
      ∀ other, other ≠ hdl → bridge.clientAdvertisedTopics.lookup other =
        world.bridge.clientAdvertisedTopics.lookup other := by
  obtain ⟨unadvertised, between, done, withdrawn, others⟩ :=
    unadvertiseChannels_apply setup hdl client.advertisedChannels.keys
      { world with server := world.server.eraseClient hdl }
  obtain ⟨unsubscribed, bridge, finished, kept⟩ :=
    unsubscribeChannels_apply setup hdl client.subscriptionsByChannel.keys
      { world with
        server := (world.server.eraseClient hdl).eraseClientChannels hdl
        calls := world.calls ++ unadvertised
        bridge := between }
  refine ⟨unadvertised ++ unsubscribed, bridge, ?_, ?_, ?_⟩
  · unfold releaseClient
    rw [bind_ok done]
    change (unsubscribeChannels setup.config hdl client.subscriptionsByChannel.keys >>= _) _ = _
    rw [bind_ok finished, List.append_assoc]
    rfl
  · intro listed
    rw [kept]
    exact withdrawn (listed.mono fun id member => AList.mem_keys.mp member)
  · intro other different
    rw [kept]
    exact others other different

/-- After the client's record and what it left is released, only the connection
graph remains to be released. -/
theorem handleConnectionClosed_rel {promise : Guarantee (World (Bridge Rest))}
    (found : world.server.clients.lookup hdl = some client)
    (graph : (releaseConnectionGraph setup.config).Meets promise) :
    promise.rel
      (releaseClient setup.config hdl client
        { world with server := world.server.eraseClient hdl }).2
      (handleConnectionClosed setup.config hdl world).2 := by
  unfold handleConnectionClosed
  rw [gets_bind_apply, found]
  exact rel_bind (fun _ => Meets.ite graph (meets_pure _)) _

theorem releaseConnectionGraph_account (setup : Setup Rest) :
    (releaseConnectionGraph setup.config).Meets (.frame account) :=
  releaseConnectionGraph_meets (fun _ => meets_modify fun _ => rfl)
    (callHandler_account rfl)

theorem lookup_withoutConnection (server : Server) {other : ConnHandle}
    (different : other ≠ hdl) :
    (withoutConnection hdl server).clients.lookup other = server.clients.lookup other ∧
      (withoutConnection hdl server).clientChannels.lookup other =
        server.clientChannels.lookup other ∧
      (withoutConnection hdl server).clientParamSubscriptions.lookup other =
        server.clientParamSubscriptions.lookup other :=
  ⟨AList.lookup_erase_ne different, AList.lookup_erase_ne different,
    AList.lookup_erase_ne different⟩

/-- A disconnect of a registered client leaves nothing of what it held, and
everything of the others. -/
theorem handleConnectionClosed_holdings (accounted : Accounted setup world)
    (found : world.server.clients.lookup hdl = some client) :
    holdings (handleConnectionClosed setup.config hdl world).2 hdl = ⟨none, false, false, none⟩ ∧
      ∀ other, other ≠ hdl → holdings (handleConnectionClosed setup.config hdl world).2 other =
        holdings world other := by
  obtain ⟨calls, bridge, released, withdraws, others⟩ := releaseClient_apply setup hdl client world
  have withdrawn := withdraws (accounted.listed found)
  have kept : holdings (handleConnectionClosed setup.config hdl world).2 = holdings { world with
      server := withoutConnection hdl world.server
      calls := world.calls ++ calls
      bridge := bridge } := by
    have graph := handleConnectionClosed_rel found (releaseConnectionGraph_account setup)
    rw [released] at graph
    exact (congrArg Prod.fst graph).trans
      (congrArg Prod.fst (unsubscribeParams_account hdl _ _))
  rw [kept]
  constructor
  · unfold holdings withoutConnection Server.eraseParamSubscriptions
      Server.eraseClientChannels Server.eraseClient
    rw [withdrawn, AList.lookup_erase, AList.lookup_erase, AList.lookup_erase]
    rfl
  · intro other different
    obtain ⟨clients, channels, params⟩ := lookup_withoutConnection world.server different
    unfold holdings
    rw [clients, channels, params, others other different]

/-- Handler calls are only added at the end. -/
def callsExtend : Guarantee (World (Bridge Rest)) where
  rel before after := before.calls <+: after.calls
  refl _ := List.prefix_rfl
  trans := List.IsPrefix.trans

theorem callHandler_extends (setup : Setup Rest) (call : HandlerCall) :
    (callHandler setup.config call).Meets callsExtend := by
  intro world
  change world.calls <+: (callHandler setup.config call world).2.calls
  rcases registered : setup.config.handlers.resolve call with _ | handler
  · rw [callHandler_of_none registered]
  · rw [callHandler_calls registered]
    exact List.prefix_append _ _

/-- Nobody else subscribed to a parameter of the connection that disconnects. -/
theorem isParameterSubscribed_without {server : Server} {name : String}
    (others : ∀ other, other ≠ hdl → name ∉ server.paramSubscriptions other) :
    (withoutConnection hdl server).isParameterSubscribed name = false := by
  rw [Bool.eq_false_iff]
  intro subscribed
  obtain ⟨other, names, found, member⟩ := (Server.isParameterSubscribed_iff _ _).mp subscribed
  by_cases same : other = hdl
  · subst other
    have erased : (withoutConnection hdl server).clientParamSubscriptions.lookup hdl = none :=
      AList.lookup_erase _ _
    rw [erased] at found
    cases found
  · rw [(lookup_withoutConnection server same).2.2] at found
    refine others other same ?_
    unfold Server.paramSubscriptions
    rwa [found]

/-- The parameters only this client subscribed to are handed to the bridge. -/
theorem handleConnectionClosed_parameters (accounted : Accounted setup world)
    (found : world.server.clients.lookup hdl = some client) {name : String}
    (mine : name ∈ world.server.paramSubscriptions hdl)
    (others : ∀ other, other ≠ hdl → name ∉ world.server.paramSubscriptions other) :
    ∃ calls names, (handleConnectionClosed setup.config hdl world).2.calls = world.calls ++ calls ∧
      name ∈ names ∧ .parameterSubscription names .unsubscribe hdl ∈ calls := by
  obtain ⟨calls, bridge, released, _, _⟩ := releaseClient_apply setup hdl client world
  have present : hdl ∈ world.server.clientParamSubscriptions := by
    by_contra missing
    rw [Server.paramSubscriptions, AList.lookup_eq_none.mpr missing] at mine
    exact absurd mine (AList.notMem_empty _)
  have registered : setup.config.handlers.parameterSubscriptionHandler.isSome = true := by
    have hasParameters := ((holdings_accounted_iff found).mp (accounted hdl)).1 present
    change (ite _ _ _ : Option _).isSome = true
    rw [if_pos hasParameters]
    rfl
  have unsubscribed : name ∈ (withoutConnection hdl world.server).unsubscribedParams
      (world.server.paramSubscriptions hdl).keys :=
    (Server.mem_unsubscribedParams _ _ _).mpr
      ⟨AList.mem_keys.mp mine, isParameterSubscribed_without others⟩
  obtain ⟨later, extended⟩ : callsExtend.rel _ _ := handleConnectionClosed_rel found
    (releaseConnectionGraph_meets (fun _ => meets_modify fun _ => List.prefix_rfl)
      (callHandler_extends setup _))
  rw [released, unsubscribeParamsWithoutSubscriptions_calls registered hdl _ _
    (List.ne_nil_of_mem unsubscribed)] at extended
  refine ⟨calls ++ .parameterSubscription ((withoutConnection hdl world.server).unsubscribedParams
    (world.server.paramSubscriptions hdl).keys) .unsubscribe hdl :: later, _, ?_, unsubscribed,
    by simp⟩
  rw [← extended]
  simp

/-- A disconnect of a connection whose holdings are accounted for releases them. -/
theorem handleConnectionClosed_released (accounted : Accounted setup world)
    (tracked : Tracked NoException (handleConnectionClosed setup.config hdl world).2) :
    Released hdl world (handleConnectionClosed setup.config hdl world).2 := by
  have nothing : holdings (handleConnectionClosed setup.config hdl world).2 hdl =
      ⟨none, false, false, none⟩ := by
    rcases found : world.server.clients.lookup hdl with _ | client
    · rw [handleConnectionClosed_of_none found]
      obtain ⟨channels, params, publishers⟩ :=
        (holdings_accounted_iff_of_none found).mp (accounted hdl)
      unfold holdings
      rw [found, AList.lookup_eq_none.mpr channels, AList.lookup_eq_none.mpr params,
        AList.lookup_eq_none.mpr publishers]
      rfl
    · exact (handleConnectionClosed_holdings accounted found).1
  have unregistered : hdl ∉ (handleConnectionClosed setup.config hdl world).2.server.clients :=
    AList.lookup_eq_none.mp (Option.map_eq_none_iff.mp (congrArg Holdings.advertised nothing))
  refine ⟨unregistered, ?_, ?_, ?_, ?_, ?_⟩
  · exact fun present => Bool.false_ne_true
      ((congrArg Holdings.channels nothing).symm.trans (AList.lookup_isSome.mpr present))
  · exact fun present => Bool.false_ne_true
      ((congrArg Holdings.params nothing).symm.trans (AList.lookup_isSome.mpr present))
  · exact AList.lookup_eq_none.mp (congrArg Holdings.publishers nothing)
  · intro channelId clients found member
    -- A subscription that was left would be recorded for a registered client.
    obtain ⟨record, foundRecord, _⟩ := (tracked.recorded channelId hdl
      ((Bridge.subscribed_iff _ _ _).mpr ⟨clients, found, member⟩)).resolve_left id
    exact unregistered (Table.mem_of_lookup foundRecord)
  · intro name mine others
    rcases found : world.server.clients.lookup hdl with _ | client
    · obtain ⟨_, params, _⟩ := (holdings_accounted_iff_of_none found).mp (accounted hdl)
      rw [Server.paramSubscriptions, AList.lookup_eq_none.mpr params] at mine
      exact absurd mine (AList.notMem_empty _)
    · exact handleConnectionClosed_parameters accounted found mine others

end Close

end CoBridge.Ros2

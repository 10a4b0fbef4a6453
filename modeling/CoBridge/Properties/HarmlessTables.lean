import CoBridge.Properties.Harmless

/-!
# Requests on parameters, the connection graph and the session

The requests that do not list entries: those that only call a handler, those on
the parameter subscriptions, those on the connection graph, and the login.
-/

namespace CoBridge

open Library Action Table

section

variable {Bridge : Type} {config : Config Bridge} {world : World Bridge} {hdl : ConnHandle}
  {payload : Json}

/-- Requests that only read their arguments and call a handler. -/
theorem unaffected_arguments_iff {Arguments : Type} {arguments : Except Fault Arguments}
    {call : Arguments → HandlerCall}
    (registered : ∀ values, (config.handlers.resolve (call values)).isSome) :
    Unaffected (Action.ofExcept arguments >>= fun values => callHandler config (call values))
        world ↔ Raises arguments := by
  rw [unaffected_ofExcept_bind_iff]
  constructor
  · rintro (raises | ⟨values, _, unaffected⟩)
    · exact raises
    · exact absurd unaffected (not_unaffected_callHandler (registered values) world)
  · exact .inl

theorem handleSubscribeParameterUpdates_unaffected_iff :
    Unaffected (handleSubscribeParameterUpdates config payload hdl) world ↔
      OperationHarmless config world hdl payload .subscribeParameterUpdates := by
  unfold handleSubscribeParameterUpdates OperationHarmless
  rw [unaffected_ofExcept_bind_iff]
  apply or_congr_right
  apply exists_congr
  intro names
  apply and_congr_right
  intro _
  have unchanged := world.server.addParamSubscriptions_eq_self_iff hdl names.keys
  rw [show (∀ name ∈ names, name ∈ world.server.paramSubscriptions hdl) ↔
    ∀ name ∈ names.keys, name ∈ world.server.paramSubscriptions hdl from Iff.rfl, ← unchanged]
  constructor
  · rintro ⟨same, _⟩
    -- A handler call that follows does not touch the table again.
    have rest : (if world.server.unsubscribedParams names.keys ≠ [] then
        callHandler config (.parameterSubscription
          (world.server.unsubscribedParams names.keys) .subscribe hdl)
        else pure ()).Meets (.frame fun world => world.server.clientParamSubscriptions) :=
      .ite (callHandler_frame Server.clientParamSubscriptions (fun _ => rfl) config _)
        (meets_pure _)
    have final := congrArg Footprint.clientParamSubscriptions same
    exact (rest _).symm.trans final
  · intro same
    obtain ⟨present, subscribed⟩ := unchanged.mp same
    have nothing : world.server.unsubscribedParams names.keys = [] := by
      rw [List.eq_nil_iff_forall_not_mem]
      intro name member
      obtain ⟨listed, nobody⟩ := (world.server.mem_unsubscribedParams _ _).mp member
      obtain ⟨own, found⟩ := (mem_iff_lookup hdl _).mp present
      have somebody := (world.server.isParameterSubscribed_iff name).mpr
        ⟨hdl, own, found, by simpa [Server.paramSubscriptions, found] using subscribed name listed⟩
      rw [nobody] at somebody
      cases somebody
    unfold Unaffected
    rw [gets_bind_apply, modifyServer_bind_apply, if_neg (by simp [nothing])]
    exact ⟨by simp only [pure_apply, World.footprint, same]; rfl, by simp⟩

theorem handleUnsubscribeParameterUpdates_unaffected_iff
    (registered : hasHandler config .unsubscribeParameterUpdates) :
    Unaffected (handleUnsubscribeParameterUpdates config payload hdl) world ↔
      OperationHarmless config world hdl payload .unsubscribeParameterUpdates := by
  unfold handleUnsubscribeParameterUpdates OperationHarmless
  rw [unaffected_ofExcept_bind_iff]
  apply or_congr_right
  apply exists_congr
  intro names
  apply and_congr_right
  intro _
  have unchanged := world.server.removeParamSubscriptions_eq_self_iff hdl names.keys
  constructor
  · rintro ⟨same, defined⟩
    have rest := unsubscribeParamsWithoutSubscriptions_withoutGraph config hdl names.keys
      { world with server := world.server.removeParamSubscriptions hdl names.keys }
    have sameTable :
        (world.server.removeParamSubscriptions hdl names.keys).clientParamSubscriptions =
        world.server.clientParamSubscriptions :=
      (congrArg Server.clientParamSubscriptions rest).symm.trans
        (congrArg Footprint.clientParamSubscriptions same)
    obtain ⟨present, absent⟩ := unchanged.mp sameTable
    refine ⟨present, fun name listed => ⟨absent name listed, ?_⟩⟩
    by_contra nobody
    have handed : name ∈ (world.server.removeParamSubscriptions hdl
        names.keys).unsubscribedParams names.keys := by
      refine (Server.mem_unsubscribedParams _ _ _).mpr ⟨listed, ?_⟩
      unfold Server.isParameterSubscribed at nobody ⊢
      rw [sameTable]
      simpa using nobody
    have longer := unsubscribeParamsWithoutSubscriptions_calls registered hdl names.keys
      { world with server := world.server.removeParamSubscriptions hdl names.keys }
      (List.ne_nil_of_mem handed)
    have calls := congrArg Footprint.calls same
    have contradiction := longer.symm.trans calls
    simp [World.footprint] at contradiction
  · rintro ⟨present, others⟩
    have sameTable := unchanged.mpr ⟨present, fun name listed => (others name listed).1⟩
    have nothing : (world.server.removeParamSubscriptions hdl
        names.keys).unsubscribedParams names.keys = [] := by
      rw [List.eq_nil_iff_forall_not_mem]
      intro name member
      obtain ⟨listed, nobody⟩ := (Server.mem_unsubscribedParams _ _ _).mp member
      have somebody := (others name listed).2
      unfold Server.isParameterSubscribed at somebody nobody
      rw [sameTable, somebody] at nobody
      cases nobody
    unfold Unaffected
    rw [modifyServer_bind_apply, unsubscribeParamsWithoutSubscriptions_of_nil nothing]
    exact ⟨by simp only [World.footprint, sameTable]; rfl, by simp⟩

/-- A subscription to the connection graph is counted in any case. -/
theorem handleSubscribeConnectionGraph_not_unaffected :
    ¬Unaffected (handleSubscribeConnectionGraph config hdl) world := by
  rintro ⟨same, _⟩
  have counted := handleSubscribeConnectionGraph_count config hdl world
  have kept : (handleSubscribeConnectionGraph config hdl world).2.server.subscriptionCount =
      world.server.subscriptionCount := congrArg Footprint.subscriptionCount same
  omega

theorem handleUnsubscribeConnectionGraph_unaffected_iff :
    Unaffected (handleUnsubscribeConnectionGraph config hdl) world ↔
      OperationHarmless config world hdl payload .unsubscribeConnectionGraph := by
  unfold handleUnsubscribeConnectionGraph OperationHarmless
  rw [unaffected_clientAt_bind_iff]
  apply forall_congr'
  intro client
  apply imp_congr_right
  intro found
  rcases flag : client.subscribedToConnectionGraph with _ | _
  · exact iff_of_true (unaffected_sendStatusAndLogMsg hdl _ _ world) rfl
  · refine iff_of_false ?_ Bool.noConfusion
    rintro ⟨same, _⟩
    have kept := withdrawConnectionGraph_frame Server.clients (fun _ _ => rfl) (fun _ => rfl) config
      { world with
        server := world.server.modifyClient hdl (ClientInfo.setSubscribedToConnectionGraph false) }
    have clients : (world.server.modifyClient hdl
        (ClientInfo.setSubscribedToConnectionGraph false)).clients = world.server.clients :=
      kept.symm.trans (congrArg Footprint.clients same)
    have changed := lookup_modify hdl hdl
      (ClientInfo.setSubscribedToConnectionGraph false) world.server.clients
    rw [if_pos rfl, found] at changed
    have entry := (congrArg (AList.lookup hdl) clients).symm.trans changed
    rw [found, Option.map_some] at entry
    have cleared := congrArg ClientInfo.subscribedToConnectionGraph (Option.some.inj entry)
    rw [flag] at cleared
    cases cleared

/-- Logging out the listed clients changes nothing when none of them holds the login. -/
theorem Server.logOutAll_eq_self_iff (server : Server) (hdls : List ConnHandle) :
    (server.logOutAll hdls).clients = server.clients ↔
      ∀ other ∈ hdls, server.holdsLogin other = false := by
  constructor
  · intro same other member
    have found := congrArg (AList.lookup other) same
    rw [Server.logOutAll_clients, lookup_mapWithKey] at found
    unfold Server.holdsLogin
    rcases entry : server.clients.lookup other with _ | client
    · rfl
    · rw [entry, Option.map_some, if_pos member] at found
      have loggedOut := congrArg ClientInfo.login (Option.some.inj found)
      exact loggedOut.symm
  · intro loggedOut
    rw [Server.logOutAll_clients]
    apply mapWithKey_eq_self
    intro other client found
    by_cases member : other ∈ hdls
    · have notHolding := loggedOut other member
      unfold Server.holdsLogin at notHolding
      rw [found, Option.any_some] at notHolding
      rw [if_pos member]
      unfold ClientInfo.logOut
      rw [← notHolding]
    · rw [if_neg member]

/-- Kicking and registering leaves the tables alone when nobody is logged out
and the connection is registered or is not reached. -/
theorem unaffected_register_iff {userId userName : String} {client : ClientInfo}
    {reply : ServerAction Bridge Unit} (silent : Silent reply) :
    Unaffected (do
        kickClients userId userName
        modifyServer (Server.registerClient hdl client)
        reply) world ↔
      (∀ other ∈ world.kicked world.server.clients.keys, world.server.holdsLogin other = false) ∧
        (hdl ∈ world.server.clients ∨
          ∃ other ∈ world.server.clients.keys, world.link other = .gone) := by
  obtain ⟨sent, kicked⟩ := kickClients_apply userId userName world
  rw [← Server.logOutAll_eq_self_iff]
  by_cases gone : ∃ other ∈ world.server.clients.keys, world.link other = .gone
  · rw [if_pos gone] at kicked
    unfold Unaffected
    rw [bind_error kicked]
    simp [World.footprint, Server.logOutAll, gone]
  · rw [if_neg gone] at kicked
    unfold Unaffected
    rw [bind_ok kicked, modifyServer_bind_apply]
    obtain ⟨server, calls, defined⟩ := silent
      { world with
        server := (world.server.logOutAll (world.kicked world.server.clients.keys)).registerClient
          hdl client
        sent := sent }
    have unchanged :
        ((world.server.logOutAll (world.kicked world.server.clients.keys)).registerClient
          hdl client).clients = world.server.clients ↔
        (world.server.logOutAll (world.kicked world.server.clients.keys)).clients =
          world.server.clients ∧ hdl ∈ world.server.clients := by
      have kept : hdl ∈ (world.server.logOutAll
          (world.kicked world.server.clients.keys)).clients ↔ hdl ∈ world.server.clients :=
        mem_mapWithKey _ _ _
      constructor
      · intro same
        have present : hdl ∈ world.server.clients := by
          rw [← same]
          exact (mem_emplace hdl hdl client _).mpr (.inl rfl)
        unfold Server.registerClient at same
        rw [emplace_of_mem (kept.mpr present)] at same
        exact ⟨same, present⟩
      · rintro ⟨same, present⟩
        unfold Server.registerClient
        rw [emplace_of_mem (kept.mpr present), same]
    rw [or_iff_left gone, ← unchanged]
    constructor
    · rintro ⟨same, _⟩
      exact (congrArg Server.clients server).symm.trans (congrArg Footprint.clients same)
    · intro same
      refine ⟨?_, defined⟩
      simp only [World.footprint, server, calls, same]
      rfl

theorem handleLogin_unaffected_iff :
    Unaffected (handleLogin config payload hdl) world ↔
      OperationHarmless config world hdl payload .login := by
  unfold handleLogin OperationHarmless LoginHarmless
  rw [unaffected_ofExcept_bind_iff]
  rcases userName : payload.atKey "username" >>= Json.getString with (exception | _) | name
  · simp [Raises]
  · exact absurd userName (payload.stringMember_defined "username")
  rcases userId : payload.atKey "userId" >>= Json.getString with (exception | _) | id
  · simp [Raises, unaffected_ofExcept_bind_iff]
  · exact absurd userId (payload.stringMember_defined "userId")
  simp only [Raises, reduceCtorEq, exists_false, false_or, Except.ok.injEq,
    exists_eq_left', unaffected_ofExcept_bind_iff, admitClient, bind_assoc]
  refine unaffected_register_iff ?_
  -- Nothing a login does after it registered the client touches the footprint.
  apply (silent_sendServerInfo config hdl).bind
  intro _
  apply (silent_gets _).bind
  intro channels
  apply (silent_sendJson hdl _ _).bind
  intro _
  exact (silent_gets _).bind fun services => silent_sendJson hdl _ _

end

/-!
## Requests that list entries

Subscribe, unsubscribe, advertise and unadvertise requests: each entry is
described by its verdict, and the request is without effect exactly when the
verdicts are tolerated. An advertise request of a connection that never sent one
has an effect in any case: it creates the entry for the client's publications.
-/

variable {Bridge : Type} {config : Config Bridge} {world : World Bridge} {hdl : ConnHandle}
  {payload : Json}

theorem subscribeEntry_grows (config : Config Bridge) (hdl : ConnHandle)
    (subscriptionsByChannel : Table ChannelId SubscriptionId)
    (entry : SubscriptionId × ChannelId) :
    (subscribeEntry config hdl subscriptionsByChannel entry).Meets callsGrow :=
  subscribeEntry_meets (sendStatusAndLogMsg_grows hdl) (fun _ => callHandler_grows config _)
    (fun _ _ => updateClient_grows hdl _) subscriptionsByChannel entry

theorem subscribeEntry_describes (registered : hasHandler config .subscribe)
    (subscriptionsByChannel : Table ChannelId SubscriptionId)
    (entry : SubscriptionId × ChannelId) {reached : World Bridge}
    (sameServer : reached.server = world.server) :
    (if (findSubscriptionBySubId subscriptionsByChannel entry.1).isNone &&
        decide (entry.2 ∈ world.server.channels) then Verdict.accepted
      else Verdict.refused).Describes
        (subscribeEntry config hdl subscriptionsByChannel entry) reached := by
  have split_iff : ((findSubscriptionBySubId subscriptionsByChannel entry.1).isNone &&
      decide (entry.2 ∈ world.server.channels)) = true ↔
        ¬((findSubscriptionBySubId subscriptionsByChannel entry.1).isSome ∨
          entry.2 ∉ reached.server.channels) := by
    rw [sameServer]
    simp [not_or]
  by_cases skipped : (findSubscriptionBySubId subscriptionsByChannel entry.1).isSome ∨
      entry.2 ∉ reached.server.channels
  · rw [if_neg fun accepted => split_iff.mp accepted skipped]
    obtain ⟨level, text, answered⟩ := subscribeEntry_skipped skipped
    exact ⟨_, answered, World.enqueue_server reached hdl _, World.enqueue_calls reached hdl _⟩
  · rw [if_pos (split_iff.mpr skipped)]
    apply Verdict.Describes.congr _ (subscribeEntry_eligible skipped)
    apply callHandler_bind_calls_lt
    · simpa [ServerHandlers.resolve, hasHandler] using registered
    · exact fun _ => updateClient_grows hdl _

theorem handleSubscribe_unaffected_iff (registered : hasHandler config .subscribe) :
    Unaffected (handleSubscribe config payload hdl) world ↔
      OperationHarmless config world hdl payload .subscribe := by
  unfold handleSubscribe OperationHarmless
  rw [unaffected_clientAt_bind_iff]
  apply forall_congr'
  intro client
  apply imp_congr_right
  intro _
  apply unaffected_entries_iff
  · intro item reached sameServer
    apply describes_ofExcept_bind
    intro entry _
    exact subscribeEntry_describes registered _ entry sameServer
  · intro item
    exact (meets_ofExcept _).bind fun entry => subscribeEntry_grows config hdl _ entry

theorem unsubscribeEntry_grows (config : Config Bridge) (hdl : ConnHandle)
    (subscriptionsByChannel : Table ChannelId SubscriptionId) (subId : SubscriptionId) :
    (unsubscribeEntry config hdl subscriptionsByChannel subId).Meets callsGrow :=
  unsubscribeEntry_meets (sendStatusAndLogMsg_grows hdl) (fun _ => callHandler_grows config _)
    (fun _ => updateClient_grows hdl _) subscriptionsByChannel subId

theorem unsubscribeEntry_describes (registered : hasHandler config .unsubscribe)
    (subscriptionsByChannel : Table ChannelId SubscriptionId) (subId : SubscriptionId)
    (reached : World Bridge) :
    (if (findSubscriptionBySubId subscriptionsByChannel subId).isSome then Verdict.accepted
      else Verdict.refused).Describes
        (unsubscribeEntry config hdl subscriptionsByChannel subId) reached := by
  unfold unsubscribeEntry
  rcases findSubscriptionBySubId subscriptionsByChannel subId with _ | chanId
  · exact describes_refused_status hdl _ _ reached
  · apply callHandler_bind_calls_lt
    · simpa [ServerHandlers.resolve, hasHandler] using registered
    · exact fun _ => updateClient_grows hdl _

theorem handleUnsubscribe_unaffected_iff (registered : hasHandler config .unsubscribe) :
    Unaffected (handleUnsubscribe config payload hdl) world ↔
      OperationHarmless config world hdl payload .unsubscribe := by
  unfold handleUnsubscribe OperationHarmless
  rw [unaffected_clientAt_bind_iff]
  apply forall_congr'
  intro client
  apply imp_congr_right
  intro _
  apply unaffected_entries_iff
  · intro item reached _
    apply describes_ofExcept_bind
    intro subId _
    exact unsubscribeEntry_describes registered _ subId reached
  · intro item
    exact (meets_ofExcept _).bind fun subId => unsubscribeEntry_grows config hdl _ subId

theorem advertiseEntry_grows (config : Config Bridge) (isFirstPublication : Bool)
    (hdl : ConnHandle) (chan : Json) :
    (advertiseEntry config isFirstPublication hdl chan).Meets callsGrow := by
  refine advertiseEntry_meets (advertiseChannel_meets ?_ ?_ ?_ ?_) isFirstPublication chan
  · exact sendStatusAndLogMsg_grows hdl
  · exact fun _ => callHandler_grows config _
  · exact fun _ => updateClient_grows hdl _
  · exact fun _ => modifyServer_grows _

theorem advertiseEntry_describes (registered : hasHandler config .advertise) (chan : Json)
    {reached : World Bridge} (sameServer : reached.server = world.server) :
    (advertiseVerdict config.options (world.server.publications hdl) chan).Describes
      (advertiseEntry config false hdl chan) reached := by
  have unfolded : advertiseEntry config false hdl chan reached =
      (Action.ofExcept (advertiseDecision config.options false
        (world.server.publications hdl) chan) >>= advertiseChannel config hdl) reached := by
    unfold advertiseEntry
    rw [gets_bind_apply, sameServer]
  apply Verdict.Describes.congr _ unfolded
  apply describes_ofExcept_bind
  rintro (refusal | advertisement) _
  · exact describes_refused_status hdl _ _ reached
  · apply callHandler_bind_calls_lt
    · simpa [ServerHandlers.resolve, hasHandler] using registered
    · exact fun _ => (updateClient_grows hdl _).bind fun _ => modifyServer_grows _

/-- An entry for the client's publications stays while an advertise request runs. -/
theorem advertiseEntry_keeps (config : Config Bridge) (isFirstPublication : Bool)
    (hdl : ConnHandle) (chan : Json) :
    (advertiseEntry config isFirstPublication hdl chan).Meets
      (.invariant fun world => hdl ∈ world.server.clientChannels) := by
  apply Meets.bind (meets_gets _)
  intro publications
  apply Meets.bind (meets_ofExcept _)
  rintro (refusal | advertisement)
  · intro world present
    change hdl ∈ (sendStatusAndLogMsg hdl .error refusal world).2.server.clientChannels
    rwa [sendStatusAndLogMsg_apply, World.enqueue_server]
  · apply Meets.bind
    · intro world present
      have same := callHandler_frame Server.clientChannels (fun _ => rfl) config
        (.clientAdvertise advertisement hdl) world
      rwa [show (callHandler config _ world).2.server.clientChannels = _ from same]
    · intro _
      apply Meets.bind
      · intro world present
        rw [updateClient_apply]
        split
        · exact present
        · exact present
      · intro _
        apply meets_modify
        intro world present
        exact (mem_modify hdl hdl _ _).mpr present

theorem handleAdvertise_unaffected_iff (registered : hasHandler config .advertise) :
    Unaffected (handleAdvertise config payload hdl) world ↔
      OperationHarmless config world hdl payload .advertise := by
  by_cases present : hdl ∈ world.server.clientChannels
  · have opened : world.server.openPublications hdl = world.server := by
      unfold Server.openPublications
      rw [emplace_of_mem present]
    have unfolded : handleAdvertise config payload hdl world =
        (Action.ofExcept (payload.atKey "channels") >>= fun channels =>
          Action.forEach channels.elements (advertiseEntry config false hdl)) world := by
      unfold handleAdvertise
      rw [gets_bind_apply, modifyServer_bind_apply, opened]
      simp [present]
    have loop : Unaffected (Action.ofExcept (payload.atKey "channels") >>= fun channels =>
          Action.forEach channels.elements (advertiseEntry config false hdl)) world ↔
        EntriesTolerated (payload.atKey "channels")
          (advertiseVerdict config.options (world.server.publications hdl)) := by
      apply unaffected_entries_iff
      · intro item reached sameServer
        exact advertiseEntry_describes registered item sameServer
      · exact advertiseEntry_grows config false hdl
    unfold Unaffected OperationHarmless
    rw [unfolded, ← loop]
    simp only [present, true_and]
    rfl
  · -- The entry created for the connection stays, whatever the request lists.
    have effect : ¬Unaffected (handleAdvertise config payload hdl) world := by
      rintro ⟨same, _⟩
      have opened : hdl ∈ (world.server.openPublications hdl).clientChannels :=
        (mem_emplace hdl hdl ∅ _).mpr (.inl rfl)
      have loop : (Action.ofExcept (payload.atKey "channels") >>= fun channels =>
          Action.forEach channels.elements (advertiseEntry config
            (decide (hdl ∉ world.server.clientChannels)) hdl)).Meets
          (.invariant fun world => hdl ∈ world.server.clientChannels) :=
        (meets_ofExcept _).bind fun channels =>
          meets_forEach fun chan _ => advertiseEntry_keeps config _ hdl chan
      have kept : hdl ∈ (handleAdvertise config payload hdl world).2.server.clientChannels :=
        loop _ opened
      have tables : (handleAdvertise config payload hdl world).2.server.clientChannels =
          world.server.clientChannels := congrArg Footprint.clientChannels same
      rw [tables] at kept
      exact present kept
    exact iff_of_false effect fun harmless => present harmless.1

theorem unadvertiseEntry_grows (config : Config Bridge) (hdl : ConnHandle)
    (channelId : ClientChannelId) : (unadvertiseEntry config hdl channelId).Meets callsGrow :=
  unadvertiseEntry_meets (fun _ => callHandler_grows config _) (fun _ => updateClient_grows hdl _)
    (fun _ => modifyServer_grows _) channelId

theorem unadvertiseEntry_describes (registered : hasHandler config .unadvertise)
    (channelId : ClientChannelId) {reached : World Bridge}
    (sameServer : reached.server = world.server) :
    (if decide (channelId ∈ world.server.publications hdl) then Verdict.accepted
      else Verdict.refused).Describes (unadvertiseEntry config hdl channelId) reached := by
  by_cases listed : channelId ∈ world.server.publications hdl
  · rw [if_pos (by simpa using listed)]
    have accepted : unadvertiseEntry config hdl channelId reached =
        (callHandler config (.clientUnadvertise channelId hdl) >>= fun _ =>
          updateClient hdl (ClientInfo.removeAdvertisedChannel channelId) >>= fun _ =>
            modifyServer (Server.modifyPublications hdl fun publications =>
              publications.erase channelId)) reached := by
      unfold unadvertiseEntry
      rw [gets_bind_apply, sameServer, if_pos listed]
    apply Verdict.Describes.congr _ accepted
    apply callHandler_bind_calls_lt
    · simpa [ServerHandlers.resolve, hasHandler] using registered
    · exact fun _ => (updateClient_grows hdl _).bind fun _ => modifyServer_grows _
  · rw [if_neg (by simpa using listed)]
    refine ⟨reached, ?_, rfl, rfl⟩
    unfold unadvertiseEntry
    rw [gets_bind_apply, sameServer, if_neg listed]
    rfl

theorem handleUnadvertise_unaffected_iff (registered : hasHandler config .unadvertise) :
    Unaffected (handleUnadvertise config payload hdl) world ↔
      OperationHarmless config world hdl payload .unadvertise := by
  unfold OperationHarmless
  by_cases present : hdl ∈ world.server.clientChannels
  · have unfolded : handleUnadvertise config payload hdl world =
        (Action.ofExcept (payload.atKey "channelIds") >>= fun channelIds =>
          Action.forEach channelIds.elements fun chanIdJson =>
            Action.ofExcept chanIdJson.getUInt32 >>= unadvertiseEntry config hdl) world := by
      unfold handleUnadvertise
      rw [gets_bind_apply, if_pos (by simpa using present)]
    have loop : Unaffected (Action.ofExcept (payload.atKey "channelIds") >>= fun channelIds =>
          Action.forEach channelIds.elements fun chanIdJson =>
            Action.ofExcept chanIdJson.getUInt32 >>= unadvertiseEntry config hdl) world ↔
        EntriesTolerated (payload.atKey "channelIds")
          (unadvertiseVerdict (world.server.publications hdl)) := by
      apply unaffected_entries_iff
      · intro item reached sameServer
        apply describes_ofExcept_bind
        intro channelId _
        exact unadvertiseEntry_describes registered channelId sameServer
      · intro item
        exact (meets_ofExcept _).bind (unadvertiseEntry_grows config hdl)
    unfold Unaffected
    rw [unfolded, imp_iff_right present, ← loop]
    rfl
  · refine iff_of_true ?_ fun contradiction => absurd contradiction present
    unfold Unaffected handleUnadvertise
    rw [gets_bind_apply, if_neg (by simpa using present)]
    exact unaffected_sendStatusAndLogMsg hdl _ _ world

end CoBridge

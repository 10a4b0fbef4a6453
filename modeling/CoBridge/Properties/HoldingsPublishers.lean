import CoBridge.Properties.Holdings

/-!
# Publishers and logins

An advertise request adds each publisher to the bridge before it lists it in the
client's record. When ROS refuses the first publisher of a client the bridge is
left with an entry that no record lists, which `FirstCreated` excludes.
-/

namespace CoBridge.Ros2

open Library Action Table

variable {Rest : Type} {setup : Setup Rest} {world : World (Bridge Rest)} {hdl : ConnHandle}
  {client : ClientInfo}

/-- The first entry of an advertise request that is handed to the bridge. -/
def firstAdvertisement (options : ServerOptions) (isFirstPublication : Bool)
    (publications : Table ClientChannelId ClientAdvertisement) :
    List Json → Option ClientAdvertisement
  | [] => none
  | chan :: rest =>
    match advertiseDecision options isFirstPublication publications chan with
    | .ok (.inl _) => firstAdvertisement options isFirstPublication publications rest
    | .ok (.inr advertisement) => some advertisement
    | .error _ => none

/-- The client has a publisher already, or ROS creates the first it asks for. -/
def FirstCreated (options : ServerOptions) (isFirstPublication : Bool) (hdl : ConnHandle)
    (chans : List Json) (world : World (Bridge Rest)) : Prop :=
  hdl ∈ world.bridge.clientAdvertisedTopics ∨
    ∀ advertisement ∈ firstAdvertisement options isFirstPublication
      (world.server.publications hdl) chans, world.bridge.environment.creates advertisement

instance (options : ServerOptions) (isFirstPublication : Bool) (hdl : ConnHandle)
    (chans : List Json) (world : World (Bridge Rest)) :
    Decidable (FirstCreated options isFirstPublication hdl chans world) :=
  inferInstanceAs (Decidable (_ ∨ _))

theorem callHandler_clientAdvertise (advertisement : ClientAdvertisement) (hdl : ConnHandle)
    (world : World (Bridge Rest)) :
    callHandler setup.config (.clientAdvertise advertisement hdl) world =
      ((clientAdvertise advertisement hdl world.bridge).outcome,
        { world.recordCall (.clientAdvertise advertisement hdl) with
          bridge := (clientAdvertise advertisement hdl world.bridge).bridge }) :=
  callHandler_of_silent rfl (clientAdvertise_callbacks world.bridge advertisement hdl)

theorem callHandler_clientUnadvertise (channelId : ClientChannelId) (hdl : ConnHandle)
    (world : World (Bridge Rest)) :
    callHandler setup.config (.clientUnadvertise channelId hdl) world =
      ((clientUnadvertise channelId hdl world.bridge).outcome,
        { world.recordCall (.clientUnadvertise channelId hdl) with
          bridge := (clientUnadvertise channelId hdl world.bridge).bridge }) :=
  callHandler_of_silent rfl (clientUnadvertise_callbacks world.bridge channelId hdl)

/-- The two updates that follow a call about a publisher of a registered client. -/
theorem record_apply (registered : hdl ∈ world.server.clients) {change : ClientInfo → ClientInfo}
    {update : Server → Server} :
    (updateClient hdl change >>= fun _ => modifyServer update) world =
      (.ok (), { world with server := update (world.server.modifyClient hdl change) }) := by
  rw [bind_apply, updateClient_apply, if_pos registered]
  rfl

section Advertise

/-- A publisher that was created is listed in the client's record. -/
theorem Listed.emplace {bridge : Bridge Rest} {ids : KeySet ClientChannelId}
    (listed : Listed (· ∈ ids) (bridge.clientAdvertisedTopics.lookup hdl)) (id : ClientChannelId)
    (topic : TopicAndDatatype) :
    Listed (· ∈ ids.emplace id ()) (some ((bridge.clientPublications hdl).emplace id topic)) := by
  rintro publications ⟨⟩
  refine ⟨⟨id, by simp⟩, fun other member => ?_⟩
  rw [mem_emplace] at member ⊢
  refine member.imp_right fun earlier => ?_
  unfold Bridge.clientPublications at earlier
  rcases found : bridge.clientAdvertisedTopics.lookup hdl with _ | publications
  · rw [found] at earlier
    simp at earlier
  · rw [found] at earlier
    exact (listed publications found).2 other earlier

/-- One entry that is handed to the bridge, by a registered client. -/
theorem advertiseChannel_ends (accounted : Accounted setup world)
    (found : world.server.clients.lookup hdl = some client) {advertisement : ClientAdvertisement}
    (created : hdl ∈ world.bridge.clientAdvertisedTopics ∨
      world.bridge.environment.creates advertisement) :
    Action.Ends (fun _ reached => Accounted setup reached ∧ hdl ∈ reached.server.clients ∧
        hdl ∈ reached.bridge.clientAdvertisedTopics)
      (Accounted setup) (advertiseChannel setup.config hdl (.inr advertisement) world) := by
  have publishers := clientAdvertise_publishers world.bridge advertisement hdl
  obtain ⟨params, listed⟩ := (holdings_accounted_iff found).mp (accounted hdl)
  have registered : hdl ∈ world.server.clients := mem_of_lookup found
  rw [advertiseChannel, bind_apply, callHandler_clientAdvertise]
  rcases outcome : (clientAdvertise advertisement hdl world.bridge).outcome with fault | _
  · have present : hdl ∈ world.bridge.clientAdvertisedTopics := by
      refine created.elim id fun creates => by_contra fun first => ?_
      rw [clientAdvertise_returns first creates] at outcome
      cases outcome
    refine accounted.of_holdings (funext fun other => ?_)
    have same :
        (clientAdvertise advertisement hdl world.bridge).bridge.clientAdvertisedTopics.lookup
        other = world.bridge.clientAdvertisedTopics.lookup other := by
      rw [publishers, outcome]
      split
      · subst other
        obtain ⟨publications, here⟩ := (mem_iff_lookup _ _).mp present
        unfold Bridge.clientPublications
        rw [here]
        rfl
      · rfl
    exact congrArg (fun publishers => { holdings world other with publishers := publishers }) same
  · have created := publishers hdl
    rw [if_pos rfl, outcome] at created
    dsimp only
    rw [record_apply (by exact registered)]
    refine ⟨accounted.of_others hdl (fun other different => ?_) ?_,
      (mem_modify _ _ _ _).mpr registered, mem_of_lookup created⟩
    · unfold holdings Server.modifyPublications Server.modifyClient World.recordCall
      rw [lookup_modify, if_neg different, lookup_modify, if_neg different, publishers,
        if_neg different]
    · have foundAfter : (world.server.clients.modify hdl
          (ClientInfo.addAdvertisedChannel advertisement.channelId)).lookup hdl =
          some (client.addAdvertisedChannel advertisement.channelId) := by
        rw [lookup_modify, if_pos rfl, found, Option.map_some]
      refine (holdings_accounted_iff foundAfter).mpr ⟨params, ?_⟩
      rw [created]
      exact listed.emplace _ _

theorem advertiseEntry_ends {isFirstPublication : Bool} {chan : Json} {rest : List Json}
    (accounted : Accounted setup world) (registered : hdl ∈ world.server.clients)
    (created : FirstCreated setup.config.options isFirstPublication hdl (chan :: rest) world) :
    Action.Ends (fun _ reached => Accounted setup reached ∧ hdl ∈ reached.server.clients ∧
        FirstCreated setup.config.options isFirstPublication hdl rest reached)
      (Accounted setup) (advertiseEntry setup.config isFirstPublication hdl chan world) := by
  obtain ⟨client, found⟩ := (mem_iff_lookup _ _).mp registered
  unfold FirstCreated at created
  rw [firstAdvertisement] at created
  rw [advertiseEntry, gets_bind_apply]
  revert created
  rcases advertiseDecision setup.config.options isFirstPublication (world.server.publications hdl)
    chan with fault | refusal | advertisement
  · exact fun _ => accounted
  all_goals
    intro created
  · rw [ofExcept_ok_bind_apply, advertiseChannel, sendStatusAndLogMsg_apply]
    refine ⟨accounted.of_holdings ?_, ?_, ?_⟩
    · unfold holdings
      simp
    · simpa using registered
    · simpa [FirstCreated] using created
  · rw [ofExcept_ok_bind_apply]
    have ended := advertiseChannel_ends accounted found
      (created.imp_right fun creates => creates advertisement rfl)
    revert ended
    rcases advertiseChannel setup.config hdl (.inr advertisement) world with ⟨fault | _, reached⟩
    · exact id
    · exact fun ended => ⟨ended.1, ended.2.1, .inl ended.2.2⟩

theorem handleAdvertise_accounted (accounted : Accounted setup world)
    (registered : hdl ∈ world.server.clients) {payload : Json}
    (created : ∀ channels ∈ (payload.atKey "channels").toOption,
      FirstCreated setup.config.options (decide (hdl ∉ world.server.clientChannels)) hdl
        channels.elements world) :
    Accounted setup (handleAdvertise setup.config payload hdl world).2 := by
  obtain ⟨client, found⟩ := (mem_iff_lookup _ _).mp registered
  have opened : Accounted setup { world with server := world.server.openPublications hdl } := by
    refine accounted.of_entries found rfl rfl (fun other different => ?_) (fun _ _ => rfl)
      ((holdings_accounted_iff found).mp (accounted hdl)).1
    change (Table.emplace hdl ∅ _).lookup other = _
    rw [lookup_emplace, if_neg different]
  have samePublications : (world.server.openPublications hdl).publications hdl =
      world.server.publications hdl := by
    unfold Server.publications Server.openPublications
    rw [lookup_emplace, if_pos rfl]
    rfl
  unfold handleAdvertise
  rcases listed : payload.atKey "channels" with fault | channels
  · exact opened
  have createdHere := created channels (by rw [listed]; rfl)
  unfold FirstCreated at createdHere
  rw [← samePublications] at createdHere
  refine forEach_ends (fun chans reached => Accounted setup reached ∧
      hdl ∈ reached.server.clients ∧ FirstCreated setup.config.options
        (decide (hdl ∉ world.server.clientChannels)) hdl chans reached)
    ?_ (fun _ holds => holds.1) ⟨opened, registered, createdHere⟩
  intro chan rest reached holds
  exact advertiseEntry_ends holds.1 holds.2.1 holds.2.2

end Advertise

section Unadvertise

theorem unadvertiseEntry_ends (accounted : Accounted setup world)
    (registered : hdl ∈ world.server.clients) (channelId : ClientChannelId) :
    Action.Ends (fun _ reached => Accounted setup reached ∧ hdl ∈ reached.server.clients)
      (Accounted setup) (unadvertiseEntry setup.config hdl channelId world) := by
  obtain ⟨client, found⟩ := (mem_iff_lookup _ _).mp registered
  obtain ⟨params, listed⟩ := (holdings_accounted_iff found).mp (accounted hdl)
  have withdrawn := listed.afterUnadvertise world.bridge channelId hdl
  rw [unadvertiseEntry, gets_bind_apply]
  split
  · rw [bind_apply, callHandler_clientUnadvertise]
    rcases (clientUnadvertise channelId hdl world.bridge).outcome with fault | _
    · -- The publisher may be gone even so, and the client's record still lists the channel.
      refine accounted.of_others hdl (fun other different => ?_) ?_
      · unfold holdings World.recordCall
        rw [clientUnadvertise_others different]
      · refine (holdings_accounted_iff (by exact found)).mpr ⟨params, ?_⟩
        exact withdrawn.mono fun _ owned => owned.1
    · dsimp only
      rw [record_apply (by exact registered)]
      refine ⟨accounted.of_others hdl (fun other different => ?_) ?_,
        (mem_modify _ _ _ _).mpr registered⟩
      · unfold holdings Server.modifyPublications Server.modifyClient World.recordCall
        rw [lookup_modify, if_neg different, lookup_modify, if_neg different,
          clientUnadvertise_others different]
      · have foundAfter : (world.server.clients.modify hdl
            (ClientInfo.removeAdvertisedChannel channelId)).lookup hdl =
            some (client.removeAdvertisedChannel channelId) := by
          rw [lookup_modify, if_pos rfl, found, Option.map_some]
        refine (holdings_accounted_iff foundAfter).mpr ⟨params, ?_⟩
        refine withdrawn.mono fun id owned => ?_
        exact AList.mem_erase.mpr ⟨owned.2, owned.1⟩
  · exact ⟨accounted, registered⟩

theorem handleUnadvertise_accounted (accounted : Accounted setup world) (payload : Json) :
    Accounted setup (handleUnadvertise setup.config payload hdl world).2 := by
  unfold handleUnadvertise
  rw [gets_bind_apply]
  by_cases advertised : hdl ∈ world.server.clientChannels
  · have registered : hdl ∈ world.server.clients := by
      by_contra missing
      exact ((holdings_accounted_iff_of_none (AList.lookup_eq_none.mpr missing)).mp
        (accounted hdl)).1 advertised
    rw [decide_eq_true advertised, if_pos rfl]
    rcases payload.atKey "channelIds" with fault | channelIds
    · exact accounted
    refine forEach_ends (fun _ reached => Accounted setup reached ∧
      hdl ∈ reached.server.clients) ?_ (fun _ holds => holds.1) ⟨accounted, registered⟩
    intro chanIdJson rest reached holds
    rcases chanIdJson.getUInt32 with fault | channelId
    · exact holds.1
    · exact unadvertiseEntry_ends holds.1 holds.2 channelId
  · rw [decide_eq_false advertised, if_neg Bool.false_ne_true]
    exact accounted.of_holdings (status_holdings hdl _ _ world)

end Unadvertise

theorem handleLogin_accounted (accounted : Accounted setup world) (payload : Json) :
    Accounted setup (handleLogin setup.config payload hdl world).2 := by
  obtain ⟨outcome, _, bridge, _⟩ := handleLogin_outcome setup.config payload hdl world
  have tables := outcome.tables
  intro other
  have before := accounted other
  have channels : (handleLogin setup.config payload hdl world).2.server.clientChannels =
      world.server.clientChannels := by rw [tables]
  have params : (handleLogin setup.config payload hdl world).2.server.clientParamSubscriptions =
      world.server.clientParamSubscriptions := by rw [tables]
  rcases outcome.lookup other with ⟨client, login, found, foundAfter⟩ | ⟨missing, absent⟩
  · rw [holdings_accounted_iff found] at before
    rw [holdings_accounted_iff foundAfter, bridge, params]
    exact before
  · rw [holdings_accounted_iff_of_none missing] at before
    rcases absent with absent | ⟨rfl, endpoint, userName, userId, registered⟩
    · rw [holdings_accounted_iff_of_none absent, bridge, params, channels]
      exact before
    · rw [holdings_accounted_iff registered, bridge, params, AList.lookup_eq_none.mpr before.2.2]
      exact ⟨fun subscribed => absurd subscribed before.2.1, nofun⟩

end CoBridge.Ros2

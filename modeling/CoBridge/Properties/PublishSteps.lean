import CoBridge.Properties.PublishGate

/-!
# Logins and advertisements

The events of a run over the server with its record, and the two of them that add
to it: a login adds a client without publications, an accepted advertisement enters
both tables and the record.
-/

namespace CoBridge

open Library Trace Action Table

variable {Bridge : Type}

/-- The unadvertise handler accepts or throws, without calling the server back. -/
def AcceptsOrThrows (config : Config Bridge) : Prop :=
  ∀ channelId hdl handler,
    config.handlers.resolve (.clientUnadvertise channelId hdl) = some handler →
    ∀ bridge, (handler bridge).callbacks = [] ∧
      (handler bridge).outcome ≠ .error .undefinedBehavior

/-- Logins, publication requests, binary messages and changes of a connection. -/
inductive PublishEvent where
  | login (payload : Json) (hdl : ConnHandle)
  | advertise (payload : Json) (hdl : ConnHandle)
  | unadvertise (payload : Json) (hdl : ConnHandle)
  | binary (data : List UInt8) (hdl : ConnHandle)
  | closed (hdl : ConnHandle)
  | transport (hdl : ConnHandle) (link : Link)

/-- The record gets a login when the connection becomes a client. -/
def noteLogin (hdl : ConnHandle) (before after : World (Recorded Bridge)) :
    World (Recorded Bridge) :=
  if hdl ∉ before.server.clients ∧ hdl ∈ after.server.clients then after.note (.loggedIn hdl)
  else after

def publishStep (config : Config Bridge) (world : World (Recorded Bridge)) :
    PublishEvent → World (Recorded Bridge)
  | .login payload hdl => noteLogin hdl world (handleLogin config.recording payload hdl world).2
  | .advertise payload hdl =>
    (handleAdvertise config.recording payload hdl (world.note (.request payload hdl))).2
  | .unadvertise payload hdl => (handleUnadvertise config.recording payload hdl world).2
  | .binary data hdl => (handleBinaryMessage config.recording hdl data world).2
  | .closed hdl => (handleConnectionClosed config.recording hdl world).2.note (.closed hdl)
  | .transport hdl link => world.setLink hdl link

/-- Runs from a server that was just constructed, with an empty record. -/
def publishSystem (config : Config Bridge) :
    TransitionSystem (World (Recorded Bridge)) PublishEvent where
  Initial world := world.server = .initial ∧ world.bridge.trace = []
  Step world event next := next = publishStep config world event

/-- Nobody's disconnect is under way. -/
abbrev GatedNow (options : ServerOptions) (world : World (Recorded Bridge)) : Prop :=
  Gated options (fun _ => False) world

section Login

variable {options : ServerOptions} {world : World (Recorded Bridge)}

/-- A login keeps the channels of the registered clients and adds a client without any. -/
theorem Gated.login (gated : GatedNow options world) {after : World (Recorded Bridge)}
    {hdl : ConnHandle} (outcome : LoginOutcome hdl world.server after.server)
    (trace : after.bridge.trace = world.bridge.trace) :
    GatedNow options (noteLogin hdl world after) := by
  have publications (other : ConnHandle) :
      after.server.publications other = world.server.publications other := by
    rw [outcome.tables]
    rfl
  have tables : (noteLogin hdl world after).server = after.server := by
    unfold noteLogin
    split <;> rfl
  have grown : ∃ items, (noteLogin hdl world after).bridge.trace = world.bridge.trace ++ items ∧
      items.length ≤ 1 ∧ ∀ item ∈ items, item = .loggedIn hdl := by
    unfold noteLogin
    split
    · refine ⟨[.loggedIn hdl], ?_, Nat.le_refl 1, fun item => List.mem_singleton.mp⟩
      rw [← trace]
      rfl
    · exact ⟨[], by rw [trace, List.append_nil], Nat.zero_le 1, fun item member => nomatch member⟩
  obtain ⟨items, traceNow, one, logins⟩ := grown
  -- The record first, with the tables as they were.
  have recorded : GatedNow options { world with bridge := (noteLogin hdl world after).bridge } := by
    apply gated.record traceNow one
    intro item member
    rw [logins item member]
    exact ⟨by simp, by simp, by simp⟩
  constructor
  · intro other client found channelId
    rw [tables] at found ⊢
    rw [publications]
    rcases outcome.lookup other with ⟨before, login, foundBefore, foundAfter⟩ |
      ⟨missing, foundAfter | ⟨_, endpoint, userName, userId, foundAfter⟩⟩
    · rw [foundAfter] at found
      obtain rfl := Option.some.inj found
      exact gated.agree other before foundBefore channelId
    · rw [foundAfter] at found
      cases found
    · rw [foundAfter] at found
      obtain rfl := Option.some.inj found
      refine iff_of_false (gated.absent other (AList.lookup_eq_none.mp missing) id channelId) ?_
      exact AList.notMem_empty channelId
  · intro other missing _ channelId
    rw [tables] at missing ⊢
    rw [publications]
    apply gated.absent other _ id
    rcases outcome.lookup other with ⟨before, login, _, foundAfter⟩ | ⟨foundBefore, _⟩
    · exact absurd (mem_of_lookup foundAfter) missing
    · exact AList.lookup_eq_none.mp foundBefore
  · intro other channelId advertisement _ stored
    rw [tables, publications] at stored
    exact recorded.backed other channelId advertisement id stored
  · intro other registered
    by_cases before : other ∈ world.server.clients
    · exact recorded.loggedIn other before
    · rw [tables] at registered
      -- Only the connection that logs in is new.
      have same : other = hdl := by
        rcases outcome.lookup other with ⟨client, _, foundBefore, _⟩ |
          ⟨_, foundAfter | ⟨same, _⟩⟩
        · exact absurd (mem_of_lookup foundBefore) before
        · exact absurd registered (AList.lookup_eq_none.mp foundAfter)
        · exact same
      subst same
      unfold noteLogin
      rw [if_pos ⟨before, registered⟩]
      exact (since_concat _ _).mpr (.inl rfl)
  · exact recorded.messages
  · exact fun _ left => left.elim

end Login

section Advertise

variable {config : Config Bridge} {world : World (Recorded Bridge)}
variable {payload : Json} {hdl : ConnHandle}
  {publications : Table ClientChannelId ClientAdvertisement}

/-- A decision to hand an entry over is about the advertisement the entry lists. -/
theorem advertiseDecision_inr {options : ServerOptions} {isFirst : Bool} {chan : Json}
    {advertisement : ClientAdvertisement}
    (decided : advertiseDecision options isFirst publications chan = .ok (.inr advertisement)) :
    advertisementOf chan = .ok advertisement ∧
      isWhitelisted advertisement.topic options.clientTopicWhitelistPatterns = true := by
  revert decided
  unfold advertiseDecision advertisementOf
  rcases chan.atKey "id" >>= Json.getUInt32 with fault | channelId
  · exact fun decided => nomatch decided
  change (if _ then _ else _) = _ → _
  split
  · exact fun decided => nomatch decided
  rcases chan.atKey "topic" >>= Json.getString with fault | topic
  · exact fun decided => nomatch decided
  change (if _ then _ else _) = _ → _
  split
  · next listed =>
    rcases chan.atKey "encoding" >>= Json.getString with fault | encoding
    · exact fun decided => nomatch decided
    rcases chan.atKey "schemaName" >>= Json.getString with fault | schemaName
    · exact fun decided => nomatch decided
    intro decided
    cases decided
    exact ⟨rfl, listed⟩
  · exact fun decided => nomatch decided

/-- A call that returned was accepted by its handler. -/
theorem outcome_of_callHandler_ok {call : HandlerCall} {handler : Bridge → Reply Bridge}
    {config : Config Bridge} {world : World Bridge}
    (registered : config.handlers.resolve call = some handler)
    (returned : (callHandler config call world).1 = .ok ()) :
    (handler world.bridge).outcome = .ok () := by
  revert returned
  unfold callHandler
  rw [registered]
  simp only [modify_bind_apply, gets_bind_apply]
  rw [bind_apply]
  rcases Action.forEach _ runCallback _ with ⟨fault | _, reached⟩
  · exact fun failed => nomatch failed
  · exact id

/-- The state while the entries of a request are processed. -/
structure Advertising (options : ServerOptions) (payload : Json) (hdl : ConnHandle)
    (world : World (Recorded Bridge)) : Prop where
  gated : GatedNow options world
  requested : .request payload hdl ∈ world.bridge.trace
  opened : hdl ∈ world.server.clientChannels

/-- The bridge is asked to accept an advertisement: the record tells its answer. -/
theorem Advertising.called (advertising : Advertising config.options payload hdl world)
    (advertisement : ClientAdvertisement) :
    Advertising config.options payload hdl
        (callHandler config.recording (.clientAdvertise advertisement hdl) world).2 ∧
      (callHandler config.recording (.clientAdvertise advertisement hdl) world).2.server.clients =
        world.server.clients ∧
      ((callHandler config.recording (.clientAdvertise advertisement hdl) world).1 = .ok () →
        (callHandler config.recording (.clientAdvertise advertisement hdl) world).2.bridge.trace =
          world.bridge.trace ++ [.advertised advertisement hdl]) := by
  rcases registered : config.handlers.resolve (.clientAdvertise advertisement hdl) with _ | handler
  · rw [callHandler_recording_of_none registered]
    exact ⟨advertising, rfl, fun returned => nomatch returned⟩
  have view := callHandler_publishView registered world
  have clients := congrArg (·.1) view
  have channels := congrArg (·.2.1) view
  have trace := congrArg (·.2.2) view
  have occurred : ∀ item ∈ HandlerCall.occurrences (.clientAdvertise advertisement hdl)
      (handler world.bridge.bridge).outcome, item = .advertised advertisement hdl := by
    rcases (handler world.bridge.bridge).outcome with fault | _
    · exact fun item member => nomatch member
    · exact fun item => List.mem_singleton.mp
  have short : (HandlerCall.occurrences (.clientAdvertise advertisement hdl)
      (handler world.bridge.bridge).outcome).length ≤ 1 := by
    rcases (handler world.bridge.bridge).outcome with fault | _
    · exact Nat.zero_le 1
    · exact Nat.le_refl 1
  refine ⟨⟨?_, ?_, ?_⟩, clients, ?_⟩
  · apply advertising.gated.grow clients _ trace short
    · intro item member
      rw [occurred item member]
      exact ⟨by simp, by simp, by simp⟩
    · intro other
      exact congrArg (fun table => (AList.lookup other table).getD ∅) channels
  · change _ ∈ (callHandler config.recording _ world).2.publishView.2.2
    rw [view]
    exact List.mem_append_left _ advertising.requested
  · change hdl ∈ (callHandler config.recording _ world).2.publishView.2.1
    rw [view]
    exact advertising.opened
  · intro returned
    have resolved : config.recording.handlers.resolve (.clientAdvertise advertisement hdl) =
        some (recordReply (.clientAdvertise advertisement hdl) handler) := by
      change config.handlers.recording.resolve _ = _
      rw [ServerHandlers.resolve_recording, registered, Option.map_some]
    have accepted : (handler world.bridge.bridge).outcome = .ok () :=
      outcome_of_callHandler_ok resolved returned
    change (callHandler config.recording _ world).2.publishView.2.2 = _
    rw [view, accepted]
    rfl

/-- An accepted advertisement is stored for a registered client. -/
theorem Advertising.stored (advertising : Advertising config.options payload hdl world)
    {client : ClientInfo} (found : world.server.clients.lookup hdl = some client)
    {advertisement : ClientAdvertisement}
    (backed : Backed config.options hdl advertisement world.bridge.trace) :
    Advertising config.options payload hdl { world with
      server := (world.server.modifyClient hdl
        (ClientInfo.addAdvertisedChannel advertisement.channelId)).modifyPublications hdl
          fun publications => publications.emplace advertisement.channelId advertisement } := by
  refine ⟨advertising.gated.modify found advertising.opened ?_ ?_, advertising.requested, ?_⟩
  · intro channelId
    rw [mem_emplace, advertising.gated.agree hdl client found]
    exact (mem_emplace _ _ _ _).symm
  · intro channelId stored lookedUp
    rw [lookup_emplace] at lookedUp
    split at lookedUp
    · next same =>
      subst same
      rcases before : (world.server.publications hdl).lookup advertisement.channelId with _ | old
      · rw [before] at lookedUp
        obtain rfl := Option.some.inj lookedUp
        exact .inr ⟨rfl, backed⟩
      · rw [before] at lookedUp
        exact .inl lookedUp
    · exact .inl lookedUp
  · exact (mem_modify _ _ _ _).mpr advertising.opened

theorem advertiseChannel_advertising {chan : Json} {isFirst : Bool}
    (listed : ∃ channels, payload.atKey "channels" = .ok channels ∧ chan ∈ channels.elements)
    {decision : String ⊕ ClientAdvertisement}
    (decided : advertiseDecision config.options isFirst publications chan = .ok decision) :
    (advertiseChannel config.recording hdl decision).Meets
      (.invariant (Advertising config.options payload hdl)) := by
  intro world advertising
  rcases decision with refusal | advertisement
  · change Advertising _ _ _ (sendStatusAndLogMsg hdl .error refusal world).2
    rw [sendStatusAndLogMsg_apply]
    refine ⟨advertising.gated.of_view (world.enqueue_publishView hdl _), ?_, ?_⟩
    · rw [World.enqueue_bridge]
      exact advertising.requested
    · rw [World.enqueue_server]
      exact advertising.opened
  · obtain ⟨lists, whitelisted⟩ := advertiseDecision_inr decided
    obtain ⟨called, clients, accepted⟩ := advertising.called advertisement
    change Advertising _ _ _ ((callHandler config.recording _ >>= _) world).2
    rw [bind_apply]
    revert called clients accepted
    rcases callHandler config.recording (.clientAdvertise advertisement hdl) world with
      ⟨fault | _, reached⟩
    · exact fun called _ _ => called
    intro called clients accepted
    have trace : reached.bridge.trace = _ := accepted rfl
    change Advertising _ _ _ ((updateClient hdl _ >>= _) reached).2
    rw [bind_apply, updateClient_apply]
    by_cases registered : hdl ∈ reached.server.clients
    · rw [if_pos registered]
      obtain ⟨client, found⟩ := (mem_iff_lookup _ _).mp registered
      obtain ⟨channels, parsed, member⟩ := listed
      apply called.stored found
      rw [trace]
      refine (since_concat _ _).mpr (.inl ⟨rfl, whitelisted, ?_, ?_⟩)
      · exact ⟨payload, advertising.requested, channels, parsed, chan, member, lists⟩
      · exact advertising.gated.loggedIn hdl (clients ▸ registered)
    · rw [if_neg registered]
      exact called

theorem handleAdvertise_gated (gated : GatedNow config.options world) (payload : Json)
    (hdl : ConnHandle) : GatedNow config.options
      (handleAdvertise config.recording payload hdl (world.note (.request payload hdl))).2 := by
  have noted : GatedNow config.options (world.note (.request payload hdl)) :=
    gated.note ⟨by simp, by simp, by simp⟩
  unfold handleAdvertise
  rw [gets_bind_apply, modifyServer_bind_apply]
  have advertising : Advertising config.options payload hdl
      { world.note (.request payload hdl) with
        server := (world.note (.request payload hdl)).server.openPublications hdl } := by
    refine ⟨noted.openPublications hdl, List.mem_append_right _ List.mem_cons_self, ?_⟩
    exact (mem_emplace _ _ _ _).mpr (.inl rfl)
  rcases parsed : payload.atKey "channels" with fault | channels
  · exact advertising.gated
  have loop : (Action.forEach channels.elements
      (advertiseEntry config.recording (decide (hdl ∉ (world.note
        (.request payload hdl)).server.clientChannels)) hdl)).Meets
      (.invariant (Advertising config.options payload hdl)) := by
    apply meets_forEach
    intro chan member state
    unfold advertiseEntry
    change Guarantee.rel _ state
      ((Action.ofExcept (advertiseDecision config.options _ _ chan) >>= _)
      state).2
    rcases decided : advertiseDecision config.options _ (state.server.publications hdl) chan with
      fault | decision
    · exact id
    · exact advertiseChannel_advertising ⟨channels, parsed, member⟩ decided state
  exact (loop _ advertising).gated

end Advertise

end CoBridge

import CoBridge.Properties.HarmlessTables

/-!
# Session exclusivity

A connection that does not hold the login should not be able to do anything but
log in. `outsider_exclusive_iff` says exactly when this is so: the code never
looks at the login, so what protects the session is only what `Harmless` lists.
-/

namespace CoBridge

open Library Action

variable {Bridge : Type} {config : Config Bridge} {world : World Bridge} {hdl : ConnHandle}
  {payload : Json}

/-- When an operation has no effect. -/
theorem handleOperation_unaffected_iff {operation : Operation}
    (registered : hasHandler config operation) :
    Unaffected (handleOperation config operation payload hdl) world ↔
      OperationHarmless config world hdl payload operation := by
  cases operation with
  | login => exact handleLogin_unaffected_iff
  | subscribe => exact handleSubscribe_unaffected_iff registered
  | unsubscribe => exact handleUnsubscribe_unaffected_iff registered
  | advertise => exact handleAdvertise_unaffected_iff registered
  | unadvertise => exact handleUnadvertise_unaffected_iff registered
  | getParameters =>
    exact unaffected_arguments_iff fun values => by
      simpa [ServerHandlers.resolve, hasHandler] using registered
  | setParameters =>
    exact unaffected_arguments_iff fun values => by
      simpa [ServerHandlers.resolve, hasHandler] using registered
  | subscribeParameterUpdates => exact handleSubscribeParameterUpdates_unaffected_iff
  | unsubscribeParameterUpdates =>
    exact handleUnsubscribeParameterUpdates_unaffected_iff registered
  | subscribeConnectionGraph =>
    exact iff_of_false handleSubscribeConnectionGraph_not_unaffected id
  | unsubscribeConnectionGraph => exact handleUnsubscribeConnectionGraph_unaffected_iff
  | fetchAsset =>
    exact unaffected_arguments_iff fun values => by
      simpa [ServerHandlers.resolve, hasHandler] using registered

/-- When a text request has no effect. -/
theorem dispatchWith_unaffected_iff {op : String} :
    Unaffected (dispatchWith (fun operation payload => handleOperation config operation payload hdl)
      config hdl payload op) world ↔
      ∀ operation, (∀ capability, capabilityByClientOperation op = some capability →
          hasCapability config capability) →
        config.operation? op = some operation → hasHandler config operation →
        OperationHarmless config world hdl payload operation := by
  unfold dispatchWith
  rcases missing : (capabilityByClientOperation op).filter (fun capability =>
      !hasCapability config capability) with _ | capability
  · have capable : ∀ capability, capabilityByClientOperation op = some capability →
        hasCapability config capability := by
      intro capability required
      simpa [required, Option.filter_some] using missing
    rcases selected : config.operation? op with _ | operation
    · refine iff_of_true ?_ fun _ _ impossible => nomatch impossible
      exact ⟨rfl, by simp⟩
    · dsimp only
      by_cases registered : hasHandler config operation
      · rw [if_pos registered, unaffected_catchAll_iff, handleOperation_unaffected_iff registered]
        constructor
        · rintro harmless _ _ ⟨⟩ _
          exact harmless
        · intro harmless
          exact harmless operation capable rfl registered
      · rw [if_neg registered]
        refine iff_of_true (unaffected_sendStatusAndLogMsg hdl _ _ world) ?_
        rintro _ _ ⟨⟩ contradiction
        exact absurd contradiction registered
  · refine iff_of_true (unaffected_sendStatusAndLogMsg hdl _ _ world) ?_
    intro _ capable
    obtain ⟨required, lacking⟩ := Option.filter_eq_some_iff.mp missing
    rw [capable capability required] at lacking
    cases lacking

theorem handleTextMessage_unaffected_iff {bytes : List UInt8} :
    Unaffected (handleTextMessage config hdl bytes) world ↔
      TextHarmless config world hdl bytes := by
  unfold handleTextMessage textMessageWith TextHarmless
  rw [unaffected_ofExcept_bind_iff]
  rcases parsed : config.parse bytes with text | payload
  · exact iff_of_true (.inl ⟨_, rfl⟩) fun _ _ _ impossible => nomatch impossible
  simp only [unaffected_ofExcept_bind_iff, dispatchWith_unaffected_iff]
  rcases named : payload.atKey "op" >>= Json.getString with (exception | _) | op
  · refine iff_of_true (.inr ⟨payload, rfl, .inl ⟨exception, named⟩⟩) ?_
    rintro _ _ _ ⟨⟩ found
    rw [named] at found
    cases found
  · exact absurd named (payload.stringMember_defined "op")
  · constructor
    · rintro (⟨_, ⟨⟩⟩ | ⟨_, ⟨⟩, ⟨_, raised⟩ | ⟨_, found, harmless⟩⟩)
      · rw [named] at raised
        cases raised
      · rintro _ _ operation ⟨⟩ same
        cases found.symm.trans same
        exact harmless operation
    · intro harmless
      exact .inr
        ⟨payload, rfl, .inr ⟨op, named, fun operation => harmless payload op operation rfl named⟩⟩

theorem Server.findAdvertisement_ok_iff {server : Server} {channelId : ClientChannelId} :
    (∃ advertisement, server.findAdvertisement hdl channelId = .ok advertisement) ↔
      channelId ∈ server.publications hdl := by
  rw [Table.mem_iff_lookup]
  rcases server.findAdvertisement_cases hdl channelId with
    ⟨advertisement, found, advertised⟩ | ⟨refusal, found, unknown⟩
  · simp [found, advertised]
  · simp [found, unknown]

theorem handleMessageData_unaffected_iff {first : UInt8} {rest : List UInt8} :
    Unaffected (handleMessageData config hdl (first :: rest)) world ↔
      config.handlers.clientMessageHandler = none ∨ rest.length < 4 ∨
        readUInt32LE rest ∉ world.server.publications hdl := by
  unfold handleMessageData
  rcases registered : config.handlers.clientMessageHandler with _ | handler
  · exact iff_of_true (unaffected_pure () world) (.inl rfl)
  by_cases short : rest.length < 4
  · rw [if_neg (by simp), if_pos (by rw [List.length_cons]; omega)]
    exact iff_of_true (unaffected_sendStatusAndLogMsg hdl _ _ world) (.inr (.inl short))
  rw [if_neg (by simp), if_neg (by rw [List.length_cons]; omega), ← Server.findAdvertisement_ok_iff]
  have unfolded : Unaffected (publishClientMessage config hdl (first :: rest) world.now
      (world.server.findAdvertisement hdl (readUInt32LE rest))) world ↔
      ¬∃ advertisement, world.server.findAdvertisement hdl (readUInt32LE rest) =
        .ok advertisement := by
    rcases world.server.findAdvertisement hdl (readUInt32LE rest) with refusal | advertisement
    · exact iff_of_true (unaffected_sendStatusAndLogMsg hdl _ _ world) (by simp)
    · refine iff_of_false ?_ (by simp)
      unfold publishClientMessage
      rw [unaffected_catchAll_iff]
      apply not_unaffected_callHandler
      simp [ServerHandlers.resolve, registered]
  rw [or_iff_right (by simp), or_iff_right short]
  exact unfolded

theorem callService_unaffected_iff {request : ServiceRequest} :
    Unaffected (callService config hdl request) world ↔
      config.handlers.serviceRequestHandler = none ∨
        request.serviceId ∉ world.server.services := by
  unfold Unaffected callService
  rw [gets_bind_apply]
  by_cases advertised : request.serviceId ∈ world.server.services
  · rw [if_neg (by simpa using advertised)]
    rcases registered : config.handlers.serviceRequestHandler with _ | handler
    · exact iff_of_true (unaffected_pure () world) (.inl rfl)
    · rw [if_pos (by simp)]
      refine iff_of_false (not_unaffected_callHandler ?_ world) (by simpa using advertised)
      simp [ServerHandlers.resolve, registered]
  · rw [if_pos (by simpa using advertised)]
    exact iff_of_true (unaffected_sendStatusAndLogMsg hdl _ _ world) (.inr advertised)

theorem handleServiceCallRequest_unaffected_iff {first : UInt8} {rest : List UInt8} :
    Unaffected (handleServiceCallRequest config hdl (first :: rest)) world ↔
      config.handlers.serviceRequestHandler = none ∨
        ∀ request, ServiceRequest.read rest = .ok request →
          request.serviceId ∉ world.server.services := by
  unfold handleServiceCallRequest
  by_cases short : rest.length < 11
  · rw [if_pos (by rw [List.length_cons]; omega)]
    refine iff_of_true (unaffected_sendStatusAndLogMsg hdl _ _ world) (.inr fun request read => ?_)
    unfold ServiceRequest.read at read
    simp [show rest.length < 12 by omega] at read
  · rw [if_neg (by rw [List.length_cons]; omega), unaffected_ofExcept_bind_iff,
      show (first :: rest).drop 1 = rest from rfl]
    rcases read : ServiceRequest.read rest with (exception | _) | request
    · exact iff_of_true (.inl ⟨exception, rfl⟩) (.inr fun _ impossible => nomatch impossible)
    · exact absurd read (ServiceRequest.read_defined rest)
    · simp only [Raises, reduceCtorEq, exists_false, false_or, Except.ok.injEq, exists_eq_left',
        forall_eq', callService_unaffected_iff]

theorem handleBinaryMessage_unaffected_iff {data : List UInt8} :
    Unaffected (handleBinaryMessage config hdl data) world ↔
      BinaryHarmless config world hdl data := by
  unfold handleBinaryMessage BinaryHarmless
  rcases data with _ | ⟨first, rest⟩
  · exact iff_of_true (unaffected_sendStatusAndLogMsg hdl _ _ world) trivial
  dsimp only
  rcases ClientBinaryOpcode.ofByte first with _ | _ | byte
  · rcases capable : hasCapability config capabilityClientPublish with _ | _
    · rw [capabilityByClientBinaryOperation, Option.filter_some, if_pos (by simp [capable])]
      exact iff_of_true (unaffected_sendStatusAndLogMsg hdl _ _ world) (.inl rfl)
    · rw [capabilityByClientBinaryOperation, Option.filter_some, if_neg (by simp [capable])]
      exact handleMessageData_unaffected_iff.trans (or_iff_right Bool.noConfusion).symm
  · rcases capable : hasCapability config capabilityServices with _ | _
    · rw [capabilityByClientBinaryOperation, Option.filter_some, if_pos (by simp [capable])]
      exact iff_of_true (unaffected_sendStatusAndLogMsg hdl _ _ world) (.inl rfl)
    · rw [capabilityByClientBinaryOperation, Option.filter_some, if_neg (by simp [capable])]
      exact handleServiceCallRequest_unaffected_iff.trans (or_iff_right Bool.noConfusion).symm
  · exact iff_of_true (unaffected_sendStatusAndLogMsg hdl _ _ world) trivial

theorem handleMessage_unaffected_iff {frame : ClientFrame} :
    Unaffected (handleMessage config hdl frame) world ↔ Harmless config world hdl frame := by
  unfold handleMessage
  rw [unaffected_catchAll_iff]
  cases frame with
  | text bytes => exact handleTextMessage_unaffected_iff
  | binary data => exact handleBinaryMessage_unaffected_iff
  | control => exact iff_of_true (unaffected_pure () world) trivial

/-- The client has a subscription to the channel. -/
def Server.isSubscribed (server : Server) (hdl : ConnHandle) (chanId : ChannelId) : Bool :=
  (server.clients.lookup hdl).any fun client => decide (chanId ∈ client.subscriptionsByChannel)

/-- When a data message is not sent. -/
theorem sendMessage_silent_iff {chanId : ChannelId} {timestamp : UInt64} {data : List UInt8} :
    (sendMessage hdl chanId timestamp data world).2.sent = world.sent ↔
      world.link hdl ≠ .established ∨ world.server.isSubscribed hdl chanId = false := by
  unfold sendMessage Server.isSubscribed
  rw [gets_bind_apply]
  by_cases gone : world.link hdl = .gone
  · rw [if_pos gone]
    exact iff_of_true rfl (.inl (by simp [gone]))
  rw [if_neg gone, gets_bind_apply]
  rcases world.server.clients.lookup hdl with _ | client
  · exact iff_of_true rfl (.inr rfl)
  dsimp only
  rcases found : client.subscriptionsByChannel.lookup chanId with _ | subId
  · refine iff_of_true rfl (.inr ?_)
    simpa using AList.lookup_eq_none.mp found
  · have subscribed := Table.mem_of_lookup found
    change (conSend hdl _ world).2.sent = world.sent ↔ _
    by_cases established : world.link hdl = .established
    · simp [World.enqueue, established, subscribed]
    · simp [World.enqueue, established]

/-- What the session promises of a connection that does not hold the login: its
messages other than `login` have no effect, and it gets no data frames. -/
structure SessionExclusive (config : Config Bridge) (world : World Bridge) (hdl : ConnHandle)
    (frame : ClientFrame) (chanId : ChannelId) : Prop where
  message : frame.op? config ≠ some "login" → Unaffected (handleMessage config hdl frame) world
  data : ∀ timestamp payload,
    (sendMessage hdl chanId timestamp payload world).2.sent = world.sent

/-- In every state, a connection without the login is kept out exactly when its
message is harmless and the channel does not reach it. -/
theorem outsider_exclusive_iff (config : Config Bridge) (world : World Bridge) (hdl : ConnHandle)
    (frame : ClientFrame) (chanId : ChannelId) :
    (world.server.holdsLogin hdl = false → SessionExclusive config world hdl frame chanId) ↔
      (world.server.holdsLogin hdl = false →
        (frame.op? config ≠ some "login" → Harmless config world hdl frame) ∧
          (world.link hdl ≠ .established ∨ world.server.isSubscribed hdl chanId = false)) := by
  apply imp_congr_right
  intro _
  constructor
  · rintro ⟨message, data⟩
    exact ⟨fun other => handleMessage_unaffected_iff.mp (message other),
      sendMessage_silent_iff.mp (data 0 [])⟩
  · rintro ⟨message, data⟩
    exact ⟨fun other => handleMessage_unaffected_iff.mpr (message other),
      fun _ _ => sendMessage_silent_iff.mpr data⟩

/-- A subscription to the connection graph. -/
def graphRequest : TextRequest where
  text := "\x7b\"op\":\"subscribeConnectionGraph\"\x7d"
  payload := .object [("op", .string "subscribeConnectionGraph")]

/-- A server that receives logins and subscriptions to the connection graph. -/
def sessionConfig : Config Unit where
  name := ""
  options := ⟨[capabilityConnectionGraph], [], [], "", []⟩
  handlers := .accepting
  parse := readRequests [userRequest "u" "i", graphRequest]

/-- Connection 1 logged in and was kicked by a login of connection 2. -/
def kickedWorld : World Unit :=
  (handleMessage sessionConfig ⟨2⟩ (userRequest "u" "i").frame
    (handleMessage sessionConfig ⟨1⟩ (userRequest "u" "i").frame (World.initial ())).2).2

/-- A kicked client still subscribes to the connection graph. -/
theorem kicked_client_not_exclusive :
    kickedWorld.server.holdsLogin ⟨1⟩ = false ∧
      ¬SessionExclusive sessionConfig kickedWorld ⟨1⟩ graphRequest.frame 0 := by
  refine ⟨by decide +kernel, fun exclusive => ?_⟩
  have unaffected := exclusive.message (by decide +kernel)
  exact absurd (congrArg Footprint.subscriptionCount unaffected.1) (by decide +kernel)

end CoBridge

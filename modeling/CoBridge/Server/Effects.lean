import CoBridge.Server.Requests

/-!
# Message dispatch

Text messages select their operation by a hash of the `op` member, binary
messages by their first byte. Capabilities are looked up by the text of the
operation, so they are not consulted for another text with the same hash.
-/

namespace CoBridge

open Library

section

variable {Bridge : Type}

/-- The bytes of a string as `char` values converted to 32 bits: where `char` is
signed, bytes from 128 on are negative and sign-extended. -/
def charCodes : CharType → String → List UInt32
  | .signed, text => text.toUTF8.toList.map fun byte => byte.toInt8.toInt32.toUInt32
  | .unsigned, text => text.toUTF8.toList.map UInt8.toUInt32

/-- 32-bit FNV-1a. -/
def stringHash (char : CharType) (text : String) : UInt32 :=
  (charCodes char text).foldl (fun result code => (code ^^^ result) * 0x01000193) 0x811C9DC5

inductive Operation where
  | login
  | subscribe
  | unsubscribe
  | advertise
  | unadvertise
  | getParameters
  | setParameters
  | subscribeParameterUpdates
  | unsubscribeParameterUpdates
  | subscribeConnectionGraph
  | unsubscribeConnectionGraph
  | fetchAsset
deriving DecidableEq, Repr

namespace Operation

def name : Operation → String
  | .login => "login"
  | .subscribe => "subscribe"
  | .unsubscribe => "unsubscribe"
  | .advertise => "advertise"
  | .unadvertise => "unadvertise"
  | .getParameters => "getParameters"
  | .setParameters => "setParameters"
  | .subscribeParameterUpdates => "subscribeParameterUpdates"
  | .unsubscribeParameterUpdates => "unsubscribeParameterUpdates"
  | .subscribeConnectionGraph => "subscribeConnectionGraph"
  | .unsubscribeConnectionGraph => "unsubscribeConnectionGraph"
  | .fetchAsset => "fetchAsset"

/-- The operations in the order of the `switch` labels. -/
def all : List Operation :=
  [.login, .subscribe, .unsubscribe, .advertise, .unadvertise, .getParameters, .setParameters,
    .subscribeParameterUpdates, .unsubscribeParameterUpdates, .subscribeConnectionGraph,
    .unsubscribeConnectionGraph, .fetchAsset]

/-- The `case` whose label is the hash. -/
def ofHash (char : CharType) (hash : UInt32) : Option Operation :=
  all.find? fun operation => stringHash char operation.name = hash

/-- The `switch` labels are distinct, so every operation is reached by its own name. -/
theorem ofHash_name (char : CharType) (operation : Operation) :
    ofHash char (stringHash char operation.name) = some operation := by
  cases char <;> cases operation <;> decide +kernel

end Operation

/-- The `case` for the text of an operation. -/
def Config.operation? (config : Config Bridge) (op : String) : Option Operation :=
  Operation.ofHash config.char (stringHash config.char op)

/-- The capability a text operation requires, by its text. -/
def capabilityByClientOperation (op : String) : Option String :=
  [("advertise", capabilityClientPublish),
    ("unadvertise", capabilityClientPublish),
    ("getParameters", capabilityParameters),
    ("setParameters", capabilityParameters),
    ("subscribeParameterUpdates", capabilityParametersSubscribe),
    ("unsubscribeParameterUpdates", capabilityParametersSubscribe),
    ("subscribeConnectionGraph", capabilityConnectionGraph),
    ("unsubscribeConnectionGraph", capabilityConnectionGraph),
    ("fetchAsset", capabilityAssets)].lookup op

def hasCapability (config : Config Bridge) (capability : String) : Bool :=
  capability ∈ config.options.capabilities

/-- Whether the bridge registered what the operation needs; `login` needs nothing. -/
def hasHandler (config : Config Bridge) : Operation → Bool
  | .login => true
  | .subscribe => config.handlers.subscribeHandler.isSome
  | .unsubscribe => config.handlers.unsubscribeHandler.isSome
  | .advertise => config.handlers.clientAdvertiseHandler.isSome
  | .unadvertise => config.handlers.clientUnadvertiseHandler.isSome
  | .getParameters => config.handlers.parameterRequestHandler.isSome
  | .setParameters => config.handlers.parameterChangeHandler.isSome
  | .subscribeParameterUpdates => config.handlers.parameterSubscriptionHandler.isSome
  | .unsubscribeParameterUpdates => config.handlers.parameterSubscriptionHandler.isSome
  | .subscribeConnectionGraph => config.handlers.subscribeConnectionGraphHandler.isSome
  | .unsubscribeConnectionGraph => config.handlers.subscribeConnectionGraphHandler.isSome
  | .fetchAsset => config.handlers.fetchAssetHandler.isSome

def handleOperation (config : Config Bridge) (operation : Operation) (payload : Json)
    (hdl : ConnHandle) : ServerAction Bridge Unit :=
  match operation with
  | .login => handleLogin config payload hdl
  | .subscribe => handleSubscribe config payload hdl
  | .unsubscribe => handleUnsubscribe config payload hdl
  | .advertise => handleAdvertise config payload hdl
  | .unadvertise => handleUnadvertise config payload hdl
  | .getParameters => handleGetParameters config payload hdl
  | .setParameters => handleSetParameters config payload hdl
  | .subscribeParameterUpdates => handleSubscribeParameterUpdates config payload hdl
  | .unsubscribeParameterUpdates => handleUnsubscribeParameterUpdates config payload hdl
  | .subscribeConnectionGraph => handleSubscribeConnectionGraph config hdl
  | .unsubscribeConnectionGraph => handleUnsubscribeConnectionGraph config hdl
  | .fetchAsset => handleFetchAsset config payload hdl

/-- The status text for an exception of an operation. -/
def operationFailure (op : String) (exception : Exception) : String :=
  match exception.what?, exception.id? with
  | some what, some id => what ++ " (op: " ++ op ++ ", id: " ++ toString id ++ ")"
  | some what, none => what ++ " (op: " ++ op ++ ")"
  | none, _ => "Failed to execute handler (op: " ++ op ++ ")"

/-- Functions to run for the operations, given the payload. -/
abbrev OperationFunctions (Bridge : Type) : Type := Operation → Json → ServerAction Bridge Unit

/-- The operation named by the text: its capability, its handler, its function. -/
def dispatchWith (functions : OperationFunctions Bridge) (config : Config Bridge)
    (hdl : ConnHandle) (payload : Json) (op : String) : ServerAction Bridge Unit :=
  match (capabilityByClientOperation op).filter fun capability =>
      !hasCapability config capability with
  | some capability => sendStatusAndLogMsg hdl .error ("Operation '" ++ op ++
      "' not supported as server capability '" ++ capability ++ "' is missing")
  | none =>
    match config.operation? op with
    | none => raise (.std ("Unknown operation: " ++ toString (stringHash config.char op)))
    | some operation =>
      if hasHandler config operation then
        catchAll (functions operation payload) fun exception =>
          sendStatusAndLogMsg hdl .error (operationFailure op exception)
      else
        sendStatusAndLogMsg hdl .error ("Operation '" ++ op ++
          "' not supported as server handler function is missing")

def textMessageWith (functions : OperationFunctions Bridge) (config : Config Bridge)
    (hdl : ConnHandle) (bytes : List UInt8) : ServerAction Bridge Unit := do
  let payload ← Action.ofExcept ((config.parse bytes).mapError fun text => .raised (.std text))
  let op ← Action.ofExcept (payload.atKey "op" >>= Json.getString)
  dispatchWith functions config hdl payload op

/-- The server dispatches to its own functions. -/
def handleTextMessage (config : Config Bridge) (hdl : ConnHandle) (bytes : List UInt8) :
    ServerAction Bridge Unit :=
  textMessageWith (fun operation payload => handleOperation config operation payload hdl)
    config hdl bytes

def readUInt32LE : List UInt8 → UInt32
  | b0 :: b1 :: b2 :: b3 :: _ =>
    b0.toUInt32 ||| (b1.toUInt32 <<< 8) ||| (b2.toUInt32 <<< 16) ||| (b3.toUInt32 <<< 24)
  | _ => 0

/-- `ServiceRequest::read`. -/
def ServiceRequest.read (data : List UInt8) : Except Fault ServiceRequest :=
  let encodingLength := (readUInt32LE (data.drop 8)).toNat
  if data.length < 12 then
    .error (.raised (.std ("ServiceResponse message too short: " ++ toString data.length ++
      " bytes (minimum 12)")))
  else if 256 < encodingLength then
    .error (.raised (.std ("ServiceResponse encoding length too large: " ++
      toString encodingLength ++ " bytes (max 256)")))
  else if data.length < 12 + encodingLength then
    .error (.raised (.std ("ServiceResponse encoding length " ++ toString encodingLength ++
      " exceeds remaining data " ++ toString (data.length - 12) ++ " bytes")))
  else
    .ok { serviceId := readUInt32LE data
          callId := readUInt32LE (data.drop 4)
          encoding := (data.drop 12).take encodingLength
          servData := data.drop (12 + encodingLength) }

theorem ServiceRequest.read_defined (data : List UInt8) :
    ServiceRequest.read data ≠ .error .undefinedBehavior := by
  unfold ServiceRequest.read
  dsimp only
  split
  · simp
  · split
    · simp
    · split
      · simp
      · simp

inductive ClientBinaryOpcode where
  | messageData
  | serviceCallRequest
  | unrecognized (byte : UInt8)
deriving DecidableEq, Repr

def ClientBinaryOpcode.ofByte (byte : UInt8) : ClientBinaryOpcode :=
  if byte = 1 then .messageData
  else if byte = 2 then .serviceCallRequest
  else .unrecognized byte

def capabilityByClientBinaryOperation : ClientBinaryOpcode → Option String
  | .messageData => some capabilityClientPublish
  | .serviceCallRequest => some capabilityServices
  | .unrecognized _ => none

/-- The advertisement of a client channel, or the text a message on it is refused with. -/
def Server.findAdvertisement (server : Server) (hdl : ConnHandle) (channelId : ClientChannelId) :
    Except String ClientAdvertisement :=
  match server.clientChannels.lookup hdl with
  | none => .error "Client has no advertised channels"
  | some publications =>
    match publications.lookup channelId with
    | none => .error ("Channel " ++ toString channelId ++ " is not advertised")
    | some advertisement => .ok advertisement

/-- The status text for an exception of the client message handler. -/
def clientMessageFailure : Exception → String
  | .serviceError _ what => what
  | _ => "callService: Failed to execute handler"

/-- Pass a client's message on, or answer with the refusal. -/
def publishClientMessage (config : Config Bridge) (hdl : ConnHandle) (data : List UInt8)
    (timestamp : UInt64) : Except String ClientAdvertisement → ServerAction Bridge Unit
  | .error refusal => sendStatusAndLogMsg hdl .error refusal
  | .ok advertisement =>
    let message : ClientMessage :=
      { logTime := timestamp, publishTime := timestamp, sequence := 0,
        advertisement := advertisement, dataLength := data.length, data := data }
    catchAll (callHandler config (.clientMessage message hdl)) fun exception =>
      sendStatusAndLogMsg hdl .error (clientMessageFailure exception)

def handleMessageData (config : Config Bridge) (hdl : ConnHandle) (data : List UInt8) :
    ServerAction Bridge Unit := do
  if config.handlers.clientMessageHandler.isNone then
    pure ()
  else if data.length < 5 then
    sendStatusAndLogMsg hdl .error ("Invalid message length " ++ toString data.length)
  else
    let timestamp ← Action.gets fun world => world.now
    let channelId := readUInt32LE (data.drop 1)
    let found ← Action.gets fun world => world.server.findAdvertisement hdl channelId
    publishClientMessage config hdl data timestamp found

/-- Pass a service call on, unless the service is not advertised. -/
def callService (config : Config Bridge) (hdl : ConnHandle) (request : ServiceRequest) :
    ServerAction Bridge Unit := do
  let advertised ← Action.gets fun world => decide (request.serviceId ∈ world.server.services)
  if ¬advertised then
    sendStatusAndLogMsg hdl .error
      ("Service " ++ toString request.serviceId ++ " is not advertised")
  else if config.handlers.serviceRequestHandler.isSome then
    callHandler config (.serviceRequest request hdl)

def handleServiceCallRequest (config : Config Bridge) (hdl : ConnHandle) (data : List UInt8) :
    ServerAction Bridge Unit :=
  if data.length < 12 then
    sendStatusAndLogMsg hdl .error
      ("Invalid service call request length " ++ toString data.length)
  else
    Action.ofExcept (ServiceRequest.read (data.drop 1)) >>= callService config hdl

def handleBinaryMessage (config : Config Bridge) (hdl : ConnHandle) (data : List UInt8) :
    ServerAction Bridge Unit :=
  match data with
  | [] => sendStatusAndLogMsg hdl .error "Received an empty binary message"
  | first :: _ =>
    match (capabilityByClientBinaryOperation (.ofByte first)).filter fun capability =>
        !hasCapability config capability with
    | some capability => sendStatusAndLogMsg hdl .error ("Binary operation '" ++
        toString first ++ "' not supported as server capability '" ++ capability ++
        "' is missing")
    | none =>
      match ClientBinaryOpcode.ofByte first with
      | .messageData => handleMessageData config hdl data
      | .serviceCallRequest => handleServiceCallRequest config hdl data
      | .unrecognized byte => sendStatusAndLogMsg hdl .error
          ("Unrecognized client opcode " ++ toString byte)

/-- A frame received from a client; frames that are neither text nor binary are
ignored. -/
inductive ClientFrame where
  | text (bytes : List UInt8)
  | binary (bytes : List UInt8)
  | control
deriving DecidableEq, Repr

def handleMessage (config : Config Bridge) (hdl : ConnHandle) (frame : ClientFrame) :
    ServerAction Bridge Unit :=
  catchAll
    (match frame with
      | .text bytes => handleTextMessage config hdl bytes
      | .binary bytes => handleBinaryMessage config hdl bytes
      | .control => pure ())
    fun exception => sendStatusAndLogMsg hdl .error
      (exception.what?.getD "Exception occurred when executing message handler")

end

/-!
## What the server's building blocks can do

Handler calls are only ever added to the record of calls, whatever happens
afterwards. The lemmas here bound each building block once; properties of the
requests are composed from them.
-/

open Action

variable {Bridge Value : Type}
variable {config : Config Bridge} {Part : Type} {call : HandlerCall}
  {handler : Bridge → Reply Bridge} {snapshot : Table ChannelId SubscriptionId}
  {entry : SubscriptionId × ChannelId} {world : World Bridge} (hdl : ConnHandle)

/-- The record of handler calls does not shrink. -/
def callsGrow : Guarantee (World Bridge) := .monotone fun world => world.calls.length

theorem sendStatusAndLogMsg_grows (level : StatusLevel) (message : String) :
    (sendStatusAndLogMsg hdl level message : ServerAction Bridge Unit).Meets callsGrow := by
  intro world
  rw [sendStatusAndLogMsg_apply]
  change world.calls.length ≤ (world.enqueue hdl _).calls.length
  rw [World.enqueue_calls]

theorem modifyServer_grows (update : Server → Server) :
    (modifyServer update : ServerAction Bridge Unit).Meets callsGrow :=
  fun _ => Nat.le_refl _

theorem clientAt_eq (world : World Bridge) :
    (clientAt hdl world).2 = world := by
  rw [clientAt_apply]
  split <;> rfl

theorem updateClient_grows (change : ClientInfo → ClientInfo) :
    (updateClient hdl change : ServerAction Bridge Unit).Meets callsGrow := by
  apply Meets.bind
  · intro world
    rw [clientAt_eq]
    exact callsGrow.refl world
  · intro _
    exact modifyServer_grows _

theorem callHandler_calls (registered : config.handlers.resolve call = some handler)
    (world : World Bridge) : (callHandler config call world).2.calls = world.calls ++ [call] :=
  congrArg (·.2.1) (callHandler_kept registered world)

theorem callHandler_bridge (registered : config.handlers.resolve call = some handler)
    (world : World Bridge) :
    (callHandler config call world).2.bridge = (handler world.bridge).bridge :=
  congrArg (·.2.2.1) (callHandler_kept registered world)

theorem callHandler_grows (config : Config Bridge) (call : HandlerCall) :
    (callHandler config call).Meets callsGrow := by
  intro world
  change world.calls.length ≤ (callHandler config call world).2.calls.length
  rcases registered : config.handlers.resolve call with _ | handler
  · rw [callHandler_of_none registered]
  · rw [callHandler_calls registered, List.length_append]
    exact Nat.le_add_right _ _

/-- A handler call keeps every table but the stored graph. -/
theorem callHandler_withoutGraph (config : Config Bridge) (call : HandlerCall) :
    (callHandler config call).Meets (.frame fun world => world.server.withoutGraph) := by
  intro world
  change (callHandler config call world).2.server.withoutGraph = world.server.withoutGraph
  rcases registered : config.handlers.resolve call with _ | handler
  · rw [callHandler_of_none registered]
  · exact congrArg (·.1) (callHandler_kept registered world)

/-- A registered handler that is called and whatever follows leaves a longer record. -/
theorem callHandler_bind_calls_lt (registered : (config.handlers.resolve call).isSome)
    {next : Unit → ServerAction Bridge Value} (nextGrows : ∀ value, (next value).Meets callsGrow)
    (world : World Bridge) :
    world.calls.length < ((callHandler config call >>= next) world).2.calls.length := by
  obtain ⟨handler, resolved⟩ := Option.isSome_iff_exists.mp registered
  have recorded := callHandler_calls resolved world
  have longer : world.calls.length < (callHandler config call world).2.calls.length := by
    rw [recorded, List.length_append]
    exact Nat.lt_succ_self _
  rw [bind_apply]
  revert longer
  rcases callHandler config call world with ⟨fault | value, reached⟩
  · exact id
  · intro longer
    exact Nat.lt_of_lt_of_le longer (nextGrows value reached)

theorem updateClient_apply (change : ClientInfo → ClientInfo) (world : World Bridge) :
    updateClient hdl change world =
      if hdl ∈ world.server.clients then
        (.ok (), { world with server := world.server.modifyClient hdl change })
      else
        (.error (.raised (.std "map::at")), world) := by
  unfold updateClient
  rw [bind_apply, clientAt_apply]
  rcases found : world.server.clients.lookup hdl with _ | client
  · rw [if_neg (AList.lookup_eq_none.mp found)]
  · rw [if_pos (Table.mem_of_lookup found)]
    rfl

/-- A handler that calls nothing back: its outcome is the outcome of the call. -/
theorem callHandler_of_silent (registered : config.handlers.resolve call = some handler)
    {world : World Bridge} (silent : (handler world.bridge).callbacks = []) :
    callHandler config call world = ((handler world.bridge).outcome,
      { world.recordCall call with bridge := (handler world.bridge).bridge }) := by
  have called : (handler (world.recordCall call).bridge).callbacks = [] := silent
  unfold callHandler
  rw [registered]
  simp only [modify_bind_apply, gets_bind_apply]
  rw [called]
  rfl

/-- Accepting handlers accept. -/
theorem callHandler_accepting (accepting : config.handlers = .accepting) (call : HandlerCall)
    (world : World Bridge) : (callHandler config call world).1 = .ok () := by
  unfold callHandler
  rw [accepting]
  cases call <;> rfl

/-- A handler call keeps what the tables other than the stored graph determine. -/
theorem callHandler_frame (part : Server → Part)
    (ignoresGraph : ∀ server, part server.withoutGraph = part server) (config : Config Bridge)
    (call : HandlerCall) :
    (callHandler config call).Meets (.frame fun world => part world.server) := by
  intro world
  have tables := callHandler_withoutGraph config call world
  change part (callHandler config call world).2.server = part world.server
  rw [← ignoresGraph, ← ignoresGraph world.server]
  exact congrArg part tables

theorem sendStatusAndLogMsg_withoutGraph (level : StatusLevel) (message : String) :
    (sendStatusAndLogMsg hdl level message : ServerAction Bridge Unit).Meets
      (.frame fun world => world.server.withoutGraph) := by
  intro world
  rw [sendStatusAndLogMsg_apply]
  exact congrArg Server.withoutGraph (world.enqueue_server hdl _)

/-- A status message for an exception changes nothing but the frames. -/
theorem catchAll_status_part (part : World Bridge → Part)
    (ignoresFrames : ∀ world hdl message, part (World.enqueue world hdl message) = part world)
    {body : ServerAction Bridge Unit} {hdl : ConnHandle} {level : StatusLevel}
    {text : Exception → String} (world : World Bridge) :
    part (catchAll body (fun exception => sendStatusAndLogMsg hdl level (text exception))
      world).2 = part (body world).2 := by
  rw [catchAll_apply]
  rcases body world with ⟨(exception | _) | _, reached⟩
  · change part (sendStatusAndLogMsg hdl level (text exception) reached).2 = part reached
    rw [sendStatusAndLogMsg_apply]
    exact ignoresFrames reached hdl _
  · rfl
  · rfl

/-- A channel that the connection advertised is found, and no other. -/
theorem Server.findAdvertisement_cases (server : Server) (hdl : ConnHandle)
    (channelId : ClientChannelId) :
    (∃ advertisement, server.findAdvertisement hdl channelId = .ok advertisement ∧
        (server.publications hdl).lookup channelId = some advertisement) ∨
      ∃ refusal, server.findAdvertisement hdl channelId = .error refusal ∧
        (server.publications hdl).lookup channelId = none := by
  unfold Server.findAdvertisement Server.publications
  rcases server.clientChannels.lookup hdl with _ | publications
  · exact .inr ⟨_, rfl, rfl⟩
  · dsimp only [Option.getD_some]
    rcases publications.lookup channelId with _ | advertisement
    · exact .inr ⟨_, rfl, rfl⟩
    · exact .inl ⟨advertisement, rfl, rfl⟩

/-- An entry with a used id or an unknown channel is answered and skipped. -/
theorem subscribeEntry_skipped {hdl : ConnHandle}
    (skipped : (findSubscriptionBySubId snapshot entry.1).isSome ∨
      entry.2 ∉ world.server.channels) :
    ∃ level text, subscribeEntry config hdl snapshot entry world =
      (.ok (), world.enqueue hdl (.status level text)) := by
  unfold subscribeEntry
  rw [gets_bind_apply]
  by_cases used : (findSubscriptionBySubId snapshot entry.1).isSome
  · rw [if_pos used, sendStatusAndLogMsg_apply]
    exact ⟨_, _, rfl⟩
  · have unavailable := skipped.resolve_left used
    rw [if_neg used, if_pos (by simpa using unavailable), sendStatusAndLogMsg_apply]
    exact ⟨_, _, rfl⟩

/-- Any other entry is handed to the bridge and recorded. -/
theorem subscribeEntry_eligible {hdl : ConnHandle}
    (eligible : ¬((findSubscriptionBySubId snapshot entry.1).isSome ∨
      entry.2 ∉ world.server.channels)) :
    subscribeEntry config hdl snapshot entry world =
      (callHandler config (.subscribe entry.2 hdl) >>= fun _ =>
        updateClient hdl (ClientInfo.addSubscription entry.2 entry.1)) world := by
  obtain ⟨unused, available⟩ := not_or.mp eligible
  unfold subscribeEntry
  rw [gets_bind_apply, if_neg unused, if_neg (by simpa using available)]

theorem sendRawJson_frame (part : Server → Part) (hdl : ConnHandle) (message : ServerMessage) :
    (sendRawJson hdl message : ServerAction Bridge Unit).Meets
      (.frame fun world => part world.server) := by
  intro world
  rw [sendRawJson_apply]
  exact congrArg part (world.enqueue_server hdl message)

/-- A change of a client's record keeps what the other tables determine. -/
theorem updateClient_frame (part : Server → Part)
    (ignoresClients :
      ∀ server hdl change, part (Server.modifyClient hdl change server) = part server)
    (hdl : ConnHandle) (change : ClientInfo → ClientInfo) :
    (updateClient hdl change : ServerAction Bridge Unit).Meets
      (.frame fun world => part world.server) := by
  intro world
  rw [updateClient_apply]
  split
  · exact ignoresClients world.server hdl change
  · rfl

theorem sendConnectionGraph_apply (world : World Bridge) :
    sendConnectionGraph hdl world =
      (.ok (), world.enqueue hdl (.connectionGraphUpdate world.server.connectionGraph.snapshot)) :=
  sendRawJson_apply hdl _ world

theorem sendConnectionGraph_frame (part : Server → Part) (hdl : ConnHandle) :
    (sendConnectionGraph hdl : ServerAction Bridge Unit).Meets
      (.frame fun world => part world.server) :=
  (meets_gets _).bind fun _ => sendRawJson_frame part hdl _

/-- Every request to subscribe to the connection graph is counted. -/
theorem handleSubscribeConnectionGraph_count (config : Config Bridge) (hdl : ConnHandle)
    (world : World Bridge) :
    (handleSubscribeConnectionGraph config hdl world).2.server.subscriptionCount =
      world.server.subscriptionCount + 1 := by
  have announced (count : Int) : (announceConnectionGraph config hdl count).Meets
      (.frame fun world => world.server.subscriptionCount) :=
    .ite ((callHandler_frame Server.subscriptionCount (fun _ => rfl) config _).bind fun _ =>
      updateClient_frame Server.subscriptionCount (fun _ _ _ => rfl) hdl _) (meets_pure _)
  have rest := (announced (world.server.subscriptionCount + 1)).bind fun _ =>
    sendConnectionGraph_frame Server.subscriptionCount hdl
  exact rest { world with server := world.server.addToSubscriptionCount 1 }

/-- Withdrawing a subscription changes no table but the count. -/
theorem withdrawConnectionGraph_frame (part : Server → Part)
    (ignoresCount :
      ∀ server change, part (Server.addToSubscriptionCount change server) = part server)
    (ignoresGraph : ∀ server, part server.withoutGraph = part server) (config : Config Bridge) :
    (withdrawConnectionGraph config).Meets (.frame fun world => part world.server) := by
  apply Meets.bind (meets_modify fun world => ignoresCount world.server _)
  intro _
  apply Meets.bind (meets_gets _)
  intro count
  exact .ite (callHandler_frame part ignoresGraph config _) (meets_pure _)

end CoBridge

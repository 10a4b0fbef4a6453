import CoBridge.Server.Channels

/-!
# The ROS 2 bridge

The node behind the server's handlers, as `ros2_bridge.cpp` has it: the topics
it advertises as channels, the ROS subscriptions it holds for clients, and the
publishers clients asked for. What ROS answers is the `Environment`; services,
parameters and assets are left to `RestHandlers`, with a state of their own.
-/

namespace CoBridge.Ros2

open Library

section

abbrev TopicAndDatatype : Type := String × String

/-- A node at one end of a topic. -/
structure EndpointInfo where
  nodeNamespace : String
  nodeName : String

/-- What the ROS graph knows about a topic. -/
structure TopicInfo where
  types : List String
  publishers : List EndpointInfo
  subscriptions : List EndpointInfo

/-- The result of looking up a message definition. -/
inductive MessageDefinition where
  | msg (schema : String)
  | idl (schema : String)
  | notFound
  | failed

/-- What the node asks of ROS and of the transport. It changes between calls.
A failure is the text of the exception that is thrown. -/
structure Environment where
  ok : Bool
  topics : Table String TopicInfo
  nodeServices : List (String × List String)
  getFullMsgText : String → MessageDefinition
  publishersInfoFailure : String → Option String
  subscriptionFailure : TopicAndDatatype → Option String
  publisherFailure : TopicAndDatatype → Option String
  publishFailure : ClientMessage → Option String
  wallTimerFailure : Option String
  remoteEndpointString : ConnHandle → String

/-- No topics yet, and nothing fails. -/
def Environment.quiet : Environment where
  ok := true
  topics := ∅
  nodeServices := []
  getFullMsgText := fun _ => .notFound
  publishersInfoFailure := fun _ => none
  subscriptionFailure := fun _ => none
  publisherFailure := fun _ => none
  publishFailure := fun _ => none
  wallTimerFailure := none
  remoteEndpointString := fun _ => ""

structure Options where
  includeHidden : Bool
  topicWhitelistPatterns : List Regex
  serviceWhitelistPatterns : List Regex
  capabilities : List String

/-- The state of the node. ROS subscriptions and publishers are identified by
the topic and the datatype they were created with. -/
structure Bridge (Rest : Type) where
  advertisedTopics : Table ChannelId ChannelWithoutId
  subscriptions : Table ChannelId (Table ConnHandle TopicAndDatatype)
  clientAdvertisedTopics : Table ConnHandle (Table ClientChannelId TopicAndDatatype)
  subscribeGraphUpdates : Bool
  environment : Environment
  rest : Rest

variable {Rest : Type}

/-- A node that was just started. -/
def Bridge.initial (environment : Environment) (rest : Rest) : Bridge Rest where
  advertisedTopics := ∅
  subscriptions := ∅
  clientAdvertisedTopics := ∅
  subscribeGraphUpdates := false
  environment := environment
  rest := rest

/-- The clients subscribed to a channel. -/
def Bridge.subscriptionsByClient (bridge : Bridge Rest) (channelId : ChannelId) :
    Table ConnHandle TopicAndDatatype :=
  (bridge.subscriptions.lookup channelId).getD ∅

/-- The publishers of a client. -/
def Bridge.clientPublications (bridge : Bridge Rest) (hdl : ConnHandle) :
    Table ClientChannelId TopicAndDatatype :=
  (bridge.clientAdvertisedTopics.lookup hdl).getD ∅

def subscribe (channelId : ChannelId) (clientHandle : ConnHandle) (bridge : Bridge Rest) :
    Reply (Bridge Rest) :=
  match bridge.advertisedTopics.lookup channelId with
  | none => .fail (.channelError channelId
      ("Received subscribe request for unknown channel " ++ toString channelId)) bridge
  | some channel =>
    -- The map of a channel is created before anything else can fail.
    let opened := { bridge with subscriptions := bridge.subscriptions.emplace channelId ∅ }
    if clientHandle ∈ bridge.subscriptionsByClient channelId then
      .fail (.channelError channelId
        ("Client is already subscribed to channel " ++ toString channelId)) opened
    else
      match bridge.environment.publishersInfoFailure channel.topic with
      | some what => .fail (.std what) opened
      | none =>
        match bridge.environment.subscriptionFailure (channel.topic, channel.schemaName) with
        | some what => .fail (.channelError channelId
            ("Failed to subscribe to topic " ++ channel.topic ++ " (" ++ channel.schemaName ++
              "): " ++ what)) opened
        | none => .accept
            { opened with
              subscriptions := opened.subscriptions.modify channelId fun subscriptionsByClient =>
                subscriptionsByClient.emplace clientHandle
                  (channel.topic, channel.schemaName) }

def unsubscribe (channelId : ChannelId) (clientHandle : ConnHandle) (bridge : Bridge Rest) :
    Reply (Bridge Rest) :=
  if channelId ∉ bridge.advertisedTopics then
    .fail (.channelError channelId
      ("Received unsubscribe request for unknown channel " ++ toString channelId)) bridge
  else if channelId ∉ bridge.subscriptions then
    .fail (.channelError channelId ("Received unsubscribe request for channel " ++
      toString channelId ++ " that was not subscribed to")) bridge
  else if clientHandle ∉ bridge.subscriptionsByClient channelId then
    .fail (.channelError channelId ("Received unsubscribe request for channel " ++
      toString channelId ++ "from a client that was not subscribed to this channel")) bridge
  else
    .accept { bridge with subscriptions := bridge.subscriptions.eraseInner channelId clientHandle }

def clientAdvertise (advertisement : ClientAdvertisement) (hdl : ConnHandle)
    (bridge : Bridge Rest) : Reply (Bridge Rest) :=
  -- The map of a client is created before anything else can fail.
  let opened := { bridge with
    clientAdvertisedTopics := bridge.clientAdvertisedTopics.emplace hdl ∅ }
  if advertisement.channelId ∈ bridge.clientPublications hdl then
    .fail (.clientChannelError advertisement.channelId ("Received client advertisement from " ++
      bridge.environment.remoteEndpointString hdl ++ " for channel " ++
      toString advertisement.channelId ++ " it had already advertised")) opened
  else
    match bridge.environment.publishersInfoFailure advertisement.topic <|>
        bridge.environment.publisherFailure (advertisement.topic, advertisement.schemaName) with
    | some what => .fail (.clientChannelError advertisement.channelId
        ("Failed to create publisher: " ++ what)) opened
    | none => .accept
        { opened with
          clientAdvertisedTopics := opened.clientAdvertisedTopics.modify hdl fun publications =>
            publications.emplace advertisement.channelId
              (advertisement.topic, advertisement.schemaName) }

def clientUnadvertise (channelId : ClientChannelId) (hdl : ConnHandle) (bridge : Bridge Rest) :
    Reply (Bridge Rest) :=
  if hdl ∉ bridge.clientAdvertisedTopics then
    .fail (.clientChannelError channelId ("Ignoring client unadvertisement from " ++
      bridge.environment.remoteEndpointString hdl ++ " for unknown channel " ++
      toString channelId ++ ", client has no advertised topics")) bridge
  else if channelId ∉ bridge.clientPublications hdl then
    .fail (.clientChannelError channelId ("Ignoring client unadvertisement from " ++
      bridge.environment.remoteEndpointString hdl ++ " for unknown channel " ++
      toString channelId ++ ", client has " ++
      toString (bridge.clientPublications hdl).keys.length ++ " advertised topic(s)")) bridge
  else
    let erased : Bridge Rest := { bridge with
      clientAdvertisedTopics := bridge.clientAdvertisedTopics.eraseInner hdl channelId }
    -- The timer that cleans up after the publisher is created when this is gone.
    match bridge.environment.wallTimerFailure with
    | some what => .fail (.std what) erased
    | none => .accept erased

def clientMessage (message : ClientMessage) (hdl : ConnHandle) (bridge : Bridge Rest) :
    Reply (Bridge Rest) :=
  let channelId := message.advertisement.channelId
  if hdl ∉ bridge.clientAdvertisedTopics then
    .fail (.clientChannelError channelId ("Dropping client message from " ++
      bridge.environment.remoteEndpointString hdl ++ " for unknown channel " ++
      toString channelId ++ ", client has no advertised topics")) bridge
  else if channelId ∉ bridge.clientPublications hdl then
    .fail (.clientChannelError channelId ("Dropping client message from " ++
      bridge.environment.remoteEndpointString hdl ++ " for unknown channel " ++
      toString channelId ++ ", client has " ++
      toString (bridge.clientPublications hdl).keys.length ++ " advertised topic(s)")) bridge
  else
    match bridge.environment.publishFailure message with
    | some what => .fail (.std what) bridge
    | none => .accept bridge

end

/-!
## Topics, the connection graph and the handlers of the node

`updateAdvertisedTopics` is what the graph poll thread runs under the
subscriptions mutex. Its sections are functions of their own, as those of the
server are.
-/

variable {Rest : Type}

/-- The text contains `/_`. -/
def containsHiddenPart : List Char → Bool
  | '/' :: '_' :: _ => true
  | _ :: rest => containsHiddenPart rest
  | [] => false

def isHiddenTopicOrService (name : String) : Except Fault Bool :=
  if name = "" then .error (.raised (.std "Topic or service name can't be empty"))
  else .ok (name.toList.head? = some '_' || containsHiddenPart name.toList)

/-- The topic is neither hidden nor off the whitelist. -/
def Options.offers (options : Options) (topicName : String) : Except Fault Bool := do
  let hidden ← if options.includeHidden then pure false else isHiddenTopicOrService topicName
  pure (!hidden && isWhitelisted topicName options.topicWhitelistPatterns)

/-- The topics to advertise, one for each datatype. -/
def latestTopics (options : Options) (topics : Table String TopicInfo) :
    Except Fault (KeySet TopicAndDatatype) :=
  topics.entries.foldlM
    (fun latest topic => do
      if ← options.offers topic.1 then
        pure (KeySet.insertAll (topic.2.types.map fun datatype => (topic.1, datatype)) latest)
      else
        pure latest) ∅

/-- The channels whose topic does not exist any more. -/
def Bridge.channelIdsToRemove (bridge : Bridge Rest) (latest : KeySet TopicAndDatatype) :
    List ChannelId :=
  (bridge.advertisedTopics.entries.filter fun entry =>
    (entry.2.topic, entry.2.schemaName) ∉ latest).map Sigma.fst

/-- Forget channels together with their subscriptions. -/
def Bridge.retire (channelIds : List ChannelId) (bridge : Bridge Rest) : Bridge Rest :=
  { bridge with
    subscriptions := bridge.subscriptions.eraseAll channelIds
    advertisedTopics := bridge.advertisedTopics.eraseAll channelIds }

/-- The channel of a topic. A definition that is not found leaves the schema and
the encodings empty; any other failure skips the topic. -/
def newChannel (environment : Environment) (topic : TopicAndDatatype) : Option ChannelWithoutId :=
  match environment.getFullMsgText topic.2 with
  | .msg schema => some ⟨topic.1, "cdr", topic.2, schema, some "ros2msg"⟩
  | .idl schema => some ⟨topic.1, "cdr", topic.2, schema, some "ros2idl"⟩
  | .notFound => some ⟨topic.1, "", topic.2, "", none⟩
  | .failed => none

def Bridge.isAdvertised (bridge : Bridge Rest) (topic : TopicAndDatatype) : Bool :=
  bridge.advertisedTopics.values.any fun channel => (channel.topic, channel.schemaName) = topic

def Bridge.channelsToAdd (bridge : Bridge Rest) (latest : KeySet TopicAndDatatype) :
    List ChannelWithoutId :=
  latest.keys.filterMap fun topic =>
    if bridge.isAdvertised topic then none else newChannel bridge.environment topic

/-- Enter channels under the ids the server gave them. -/
def Bridge.advertise (channels : List (ChannelId × ChannelWithoutId)) (bridge : Bridge Rest) :
    Bridge Rest :=
  { bridge with
    advertisedTopics := channels.foldl (fun table channel => table.emplace channel.1 channel.2)
      bridge.advertisedTopics }

def modifyBridge (update : Bridge Rest → Bridge Rest) : ServerAction (Bridge Rest) Unit :=
  Action.modify fun world => { world with bridge := update world.bridge }

/-- The changes to the channels once the latest topics are known. -/
def exchangeChannels (check : TextCheck) (latest : KeySet TopicAndDatatype) :
    ServerAction (Bridge Rest) Unit := do
  let channelIdsToRemove ← Action.gets fun world => world.bridge.channelIdsToRemove latest
  modifyBridge (Bridge.retire channelIdsToRemove)
  removeChannels channelIdsToRemove
  let channelsToAdd ← Action.gets fun world => world.bridge.channelsToAdd latest
  let channelIds ← addChannels check channelsToAdd
  modifyBridge (Bridge.advertise (channelIds.zip channelsToAdd))

def updateAdvertisedTopics (check : TextCheck) (options : Options) :
    ServerAction (Bridge Rest) Unit := do
  let environment ← Action.gets fun world => world.bridge.environment
  if environment.ok then
    let latest ← Action.ofExcept (latestTopics options environment.topics)
    exchangeChannels check latest
  else
    pure ()

/-- The full name of a node. -/
def EndpointInfo.id (endpoint : EndpointInfo) : String :=
  endpoint.nodeNamespace ++
    (if endpoint.nodeNamespace.toList.getLast? = some '/' then "" else "/") ++ endpoint.nodeName

/-- The whitelisted topics with the nodes at one of their ends. -/
def endpointsByTopic (options : Options) (endpoints : TopicInfo → List EndpointInfo)
    (topics : Table String TopicInfo) : MapOfSets :=
  (topics.entries.filter fun topic => isWhitelisted topic.1 options.topicWhitelistPatterns).foldl
    (fun table topic => table.emplace topic.1 ((endpoints topic.2).map EndpointInfo.id).toFinset) ∅

/-- Add a node to the providers of a service. -/
def addProvider (node : String) (services : MapOfSets) (service : String) : MapOfSets :=
  (services.emplace service ∅).modify service fun nodes => nodes ∪ {node}

def providersByService (options : Options) (nodes : List (String × List String)) : MapOfSets :=
  nodes.foldl (fun services node =>
    (node.2.filter fun service => isWhitelisted service options.serviceWhitelistPatterns).foldl
      (addProvider node.1) services) ∅

/-- The graph `update_connection_graph` builds. -/
def connectionGraph (options : Options) (environment : Environment) : ConnectionGraph where
  publishedTopics := endpointsByTopic options TopicInfo.publishers environment.topics
  subscribedTopics := endpointsByTopic options TopicInfo.subscriptions environment.topics
  advertisedServices := providersByService options environment.nodeServices

def subscribeConnectionGraph (options : Options) (subscribe : Bool) (bridge : Bridge Rest) :
    Reply (Bridge Rest) where
  callbacks := if subscribe then
    [.updateConnectionGraph (connectionGraph options bridge.environment)] else []
  outcome := .ok ()
  bridge := { bridge with subscribeGraphUpdates := subscribe }

/-- Services, parameters and assets. -/
structure RestHandlers (Rest : Type) where
  serviceRequest : ServiceRequest → ConnHandle → Rest → Reply Rest
  getParameters : List String → Option String → ConnHandle → Rest → Reply Rest
  setParameters : List Parameter → Option String → ConnHandle → Rest → Reply Rest
  subscribeParameters :
    List String → ParameterSubscriptionOperation → ConnHandle → Rest → Reply Rest
  fetchAsset : String → UInt32 → ConnHandle → Rest → Reply Rest

/-- Services, parameters and assets that accept every call. -/
def RestHandlers.accepting : RestHandlers Rest where
  serviceRequest := fun _ _ => .accept
  getParameters := fun _ _ _ => .accept
  setParameters := fun _ _ _ => .accept
  subscribeParameters := fun _ _ _ => .accept
  fetchAsset := fun _ _ _ => .accept

/-- A handler of the rest, on the whole node. -/
def liftRest (handler : Rest → Reply Rest) (bridge : Bridge Rest) : Reply (Bridge Rest) where
  callbacks := (handler bridge.rest).callbacks
  outcome := (handler bridge.rest).outcome
  bridge := { bridge with rest := (handler bridge.rest).bridge }

def Options.hasParameters (options : Options) : Bool :=
  capabilityParameters ∈ options.capabilities ||
    capabilityParametersSubscribe ∈ options.capabilities

/-- The handlers the node registers. Those for parameters and assets depend on
its capabilities. -/
def handlers (options : Options) (rest : RestHandlers Rest) : ServerHandlers (Bridge Rest) where
  subscribeHandler := some subscribe
  unsubscribeHandler := some unsubscribe
  clientAdvertiseHandler := some clientAdvertise
  clientUnadvertiseHandler := some clientUnadvertise
  clientMessageHandler := some clientMessage
  parameterRequestHandler := if options.hasParameters then
    some fun names requestId hdl => liftRest (rest.getParameters names requestId hdl) else none
  parameterChangeHandler := if options.hasParameters then
    some fun parameters requestId hdl => liftRest (rest.setParameters parameters requestId hdl)
    else none
  parameterSubscriptionHandler := if options.hasParameters then
    some fun names op hdl => liftRest (rest.subscribeParameters names op hdl) else none
  serviceRequestHandler := some fun request hdl => liftRest (rest.serviceRequest request hdl)
  subscribeConnectionGraphHandler := some (subscribeConnectionGraph options)
  fetchAssetHandler := if capabilityAssets ∈ options.capabilities then
    some fun uri requestId hdl => liftRest (rest.fetchAsset uri requestId hdl) else none

/-- The server as the node configures it. -/
structure Setup (Rest : Type) where
  options : Options
  rest : RestHandlers Rest
  useSimTime : Bool
  metadata : List (String × String)
  sessionId : String
  clientTopicWhitelistPatterns : List Regex
  parse : List UInt8 → Except String Json
  dump : TextCheck := writesAll
  char : CharType := .signed

/-- A node with the given capabilities that whitelists every topic. -/
def Setup.open (capabilities : List String) (parse : List UInt8 → Except String Json) :
    Setup Unit where
  options := ⟨true, [⟨fun _ => true⟩], [⟨fun _ => true⟩], capabilities⟩
  rest := .accepting
  useSimTime := false
  metadata := []
  sessionId := ""
  clientTopicWhitelistPatterns := [⟨fun _ => true⟩]
  parse := parse

def Setup.config (setup : Setup Rest) : Config (Bridge Rest) where
  name := "cobridge"
  options :=
    { capabilities := setup.options.capabilities ++
        (if setup.useSimTime then [capabilityTime] else []) ++ [capabilityMessageTime]
      supportedEncodings := ["cdr"]
      metadata := setup.metadata
      sessionId := setup.sessionId
      clientTopicWhitelistPatterns := setup.clientTopicWhitelistPatterns }
  handlers := handlers setup.options setup.rest
  parse := setup.parse
  dump := setup.dump
  char := setup.char

end CoBridge.Ros2

import CoBridge.Server.Channels

/-!
# Login and disconnect

A login marks every registered client as logged out, registers the connection
unless it is registered already, and sends the session's first messages. A
disconnect undoes what a registered client left in the tables; a connection
that is not registered is ignored.
-/

namespace CoBridge

open Library

section

variable {Bridge : Type}

/-- Some connection subscribed to the parameter. -/
def Server.isParameterSubscribed (server : Server) (paramName : String) : Bool :=
  server.clientParamSubscriptions.values.any fun names => paramName ∈ names

theorem Server.isParameterSubscribed_iff (server : Server) (paramName : String) :
    server.isParameterSubscribed paramName = true ↔
      ∃ hdl names, server.clientParamSubscriptions.lookup hdl = some names ∧
        paramName ∈ names := by
  unfold Server.isParameterSubscribed
  simp only [List.any_eq_true, decide_eq_true_eq, Table.mem_values_iff]
  constructor
  · rintro ⟨names, ⟨hdl, found⟩, member⟩
    exact ⟨hdl, names, found, member⟩
  · rintro ⟨hdl, names, found, member⟩
    exact ⟨names, ⟨hdl, found⟩, member⟩

/-- The parameters among the listed ones that nobody subscribed to. -/
def Server.unsubscribedParams (server : Server) (paramNames : List String) : List String :=
  paramNames.filter fun paramName => !server.isParameterSubscribed paramName

/-- The names that nobody subscribed to. -/
theorem Server.mem_unsubscribedParams (server : Server) (paramNames : List String)
    (paramName : String) : paramName ∈ server.unsubscribedParams paramNames ↔
      paramName ∈ paramNames ∧ server.isParameterSubscribed paramName = false := by
  simp [Server.unsubscribedParams]

/-- Hand those of the parameters that nobody subscribes to any more to the
bridge. Failures become a status message. -/
def unsubscribeParamsWithoutSubscriptions (config : Config Bridge) (hdl : ConnHandle)
    (paramNames : List String) : ServerAction Bridge Unit := do
  let paramsToUnsubscribe ← Action.gets fun world => world.server.unsubscribedParams paramNames
  if config.handlers.parameterSubscriptionHandler.isSome ∧ paramsToUnsubscribe ≠ [] then
    catchAll (callHandler config (.parameterSubscription paramsToUnsubscribe .unsubscribe hdl))
      fun exception => sendStatusAndLogMsg hdl .error
        (exception.what?.getD "Failed to unsubscribe from one more more parameters")

def ClientInfo.logOut (client : ClientInfo) : ClientInfo := { client with login := false }

/-- Change the record of a registered client. -/
def Server.modifyClient (hdl : ConnHandle) (change : ClientInfo → ClientInfo) (server : Server) :
    Server :=
  { server with clients := server.clients.modify hdl change }

/-- Tell a client that it was kicked and log it out. -/
def kickClient (userId userName : String) (hdl : ConnHandle) : ServerAction Bridge Unit := do
  getConFromHdl hdl
  conSend hdl (.kicked userId userName)
  modifyServer (Server.modifyClient hdl ClientInfo.logOut)

/-- Kick every registered client. The lookup of a connection that is gone ends
the loop with an exception. -/
def kickClients (userId userName : String) : ServerAction Bridge Unit := do
  let hdls ← Action.gets fun world => world.server.clients.keys
  Action.forEach hdls (kickClient userId userName)

/-- Register a client; an entry that exists is kept as it is. -/
def Server.registerClient (hdl : ConnHandle) (client : ClientInfo) (server : Server) : Server :=
  { server with clients := server.clients.emplace hdl client }

def Server.serviceList (server : Server) : List Service :=
  server.services.entries.map fun entry => { entry.2 with id := entry.1 }

def sendServerInfo (config : Config Bridge) (hdl : ConnHandle) : ServerAction Bridge Unit := do
  getConFromHdl hdl
  conSend hdl (.serverInfo config.name config.options.capabilities
    config.options.supportedEncodings config.options.metadata config.options.sessionId)

def dumpServices (check : TextCheck) (services : List Service) : Except Exception Unit :=
  dumpTexts check (services.flatMap fun service => service.toServiceWithoutId.texts)

def sendServices (config : Config Bridge) (hdl : ConnHandle) : ServerAction Bridge Unit := do
  let services ← Action.gets fun world => world.server.serviceList
  sendJson hdl (.advertiseServices services) (dumpServices config.dump services)

/-- What a login sends after it registered the client. -/
def loginReply (config : Config Bridge) (hdl : ConnHandle) : ServerAction Bridge Unit := do
  sendServerInfo config hdl
  let channels ← Action.gets fun world => world.server.channels.values
  sendJson hdl (.advertise channels) (dumpChannels config.dump channels)
  sendServices config hdl

/-- The section of a login under the clients lock. -/
def admitClient (userName userId : String) (hdl : ConnHandle) : ServerAction Bridge Unit := do
  let endpoint ← remoteEndpointString hdl
  kickClients userId userName
  modifyServer (Server.registerClient hdl
    { endpointName := endpoint, userName := userName, userId := userId, handle := hdl })

def handleLogin (config : Config Bridge) (payload : Json) (hdl : ConnHandle) :
    ServerAction Bridge Unit := do
  let userName ← Action.ofExcept (payload.atKey "username" >>= Json.getString)
  let userId ← Action.ofExcept (payload.atKey "userId" >>= Json.getString)
  admitClient userName userId hdl
  loginReply config hdl

/-- The payload of a login request. -/
def userPayload (userName userId : String) : Json :=
  .object [("op", .string "login"), ("username", .string userName), ("userId", .string userId)]

def loginPayload : Json := userPayload "u" "i"

/-- A handler call whose exceptions are only logged. -/
def callHandlerLogged (config : Config Bridge) (call : HandlerCall) : ServerAction Bridge Unit :=
  catchAll (callHandler config call) fun _ => pure ()

def Server.eraseClient (hdl : ConnHandle) (server : Server) : Server :=
  { server with clients := server.clients.erase hdl }

def Server.eraseClientChannels (hdl : ConnHandle) (server : Server) : Server :=
  { server with clientChannels := server.clientChannels.erase hdl }

/-- The parameters a connection subscribed to. -/
def Server.paramSubscriptions (server : Server) (hdl : ConnHandle) : KeySet String :=
  (server.clientParamSubscriptions.lookup hdl).getD ∅

def Server.eraseParamSubscriptions (hdl : ConnHandle) (server : Server) : Server :=
  { server with clientParamSubscriptions := server.clientParamSubscriptions.erase hdl }

def Server.addToSubscriptionCount (change : Int) (server : Server) : Server :=
  { server with subscriptionCount := server.subscriptionCount + change }

/-- Release the connection graph subscription of a client that disconnected. -/
def releaseConnectionGraph (config : Config Bridge) : ServerAction Bridge Unit := do
  modifyServer (Server.addToSubscriptionCount (-1))
  let count ← Action.gets fun world => world.server.subscriptionCount
  if count = 0 ∧ config.handlers.subscribeConnectionGraphHandler.isSome then
    callHandlerLogged config (.subscribeConnectionGraph false)

/-- Withdraw what the client advertised. -/
def unadvertiseChannels (config : Config Bridge) (hdl : ConnHandle)
    (channelIds : List ClientChannelId) : ServerAction Bridge Unit :=
  Action.forEach channelIds fun channelId =>
    if config.handlers.clientUnadvertiseHandler.isSome then
      callHandlerLogged config (.clientUnadvertise channelId hdl)
    else
      pure ()

/-- End the client's subscriptions in the bridge. -/
def unsubscribeChannels (config : Config Bridge) (hdl : ConnHandle)
    (channelIds : List ChannelId) : ServerAction Bridge Unit :=
  if config.handlers.unsubscribeHandler.isSome then
    Action.forEach channelIds fun channelId =>
      callHandlerLogged config (.unsubscribe channelId hdl)
  else
    pure ()

/-- Withdraw everything a client that disconnected left in the tables and in the
bridge, except for its connection graph subscription. -/
def releaseClient (config : Config Bridge) (hdl : ConnHandle) (client : ClientInfo) :
    ServerAction Bridge Unit := do
  unadvertiseChannels config hdl client.advertisedChannels.keys
  modifyServer (Server.eraseClientChannels hdl)
  unsubscribeChannels config hdl client.subscriptionsByChannel.keys
  let clientSubscribedParameters ← Action.gets fun world => world.server.paramSubscriptions hdl
  modifyServer (Server.eraseParamSubscriptions hdl)
  unsubscribeParamsWithoutSubscriptions config hdl clientSubscribedParameters.keys

def handleConnectionClosed (config : Config Bridge) (hdl : ConnHandle) :
    ServerAction Bridge Unit := do
  match ← Action.gets fun world => world.server.clients.lookup hdl with
  | none => pure ()
  | some client =>
    modifyServer (Server.eraseClient hdl)
    releaseClient config hdl client
    if client.subscribedToConnectionGraph then
      releaseConnectionGraph config

end

/-!
## Client requests

The functions behind the text operations, in the order the source has them.
Each loop runs over the entries of the request as the client sent them; an
entry that cannot be read ends the request with an exception, after the
entries before it took effect.
-/

variable {Bridge : Type}

/-- The subscription id and the channel of one entry of a subscribe request. -/
def subscriptionEntry (sub : Json) : Except Fault (SubscriptionId × ChannelId) := do
  let subId ← sub.atKey "id" >>= Json.getUInt32
  let channelId ← sub.atKey "channelId" >>= Json.getUInt32
  pure (subId, channelId)

/-- The channel that has the subscription id. -/
def findSubscriptionBySubId (subscriptionsByChannel : Table ChannelId SubscriptionId)
    (subId : SubscriptionId) : Option ChannelId :=
  (subscriptionsByChannel.entries.find? fun entry => entry.2 = subId).map Sigma.fst

def ClientInfo.addSubscription (channelId : ChannelId) (subId : SubscriptionId)
    (client : ClientInfo) : ClientInfo :=
  { client with
    subscriptionsByChannel := client.subscriptionsByChannel.emplace channelId subId }

def ClientInfo.removeSubscription (channelId : ChannelId) (client : ClientInfo) : ClientInfo :=
  { client with subscriptionsByChannel := client.subscriptionsByChannel.erase channelId }

/-- Change the record of a client found by `_clients.at(hdl)`. -/
def updateClient (hdl : ConnHandle) (change : ClientInfo → ClientInfo) :
    ServerAction Bridge Unit := do
  let _ ← clientAt hdl
  modifyServer (Server.modifyClient hdl change)

/-- One entry of a subscribe request, checked against the subscriptions the
client had when the request began. -/
def subscribeEntry (config : Config Bridge) (hdl : ConnHandle)
    (subscriptionsByChannel : Table ChannelId SubscriptionId)
    (entry : SubscriptionId × ChannelId) : ServerAction Bridge Unit := do
  let available ← Action.gets fun world => decide (entry.2 ∈ world.server.channels)
  if (findSubscriptionBySubId subscriptionsByChannel entry.1).isSome then
    sendStatusAndLogMsg hdl .error
      ("Client subscription id " ++ toString entry.1 ++ " was already used; ignoring subscription")
  else if ¬available then
    sendStatusAndLogMsg hdl .warning
      ("Channel " ++ toString entry.2 ++ " is not available; ignoring subscription")
  else
    callHandler config (.subscribe entry.2 hdl)
    updateClient hdl (ClientInfo.addSubscription entry.2 entry.1)

def handleSubscribe (config : Config Bridge) (payload : Json) (hdl : ConnHandle) :
    ServerAction Bridge Unit := do
  let client ← clientAt hdl
  let subscriptions ← Action.ofExcept (payload.atKey "subscriptions")
  Action.forEach subscriptions.elements fun sub => do
    let entry ← Action.ofExcept (subscriptionEntry sub)
    subscribeEntry config hdl client.subscriptionsByChannel entry

/-- The payload of a subscribe request with the given ids and channels. -/
def subscribePayload (entries : List (UInt64 × UInt64)) : Json :=
  .object [("op", .string "subscribe"), ("subscriptions", .array (entries.map fun entry =>
    .object [("id", .numberUnsigned entry.1), ("channelId", .numberUnsigned entry.2)]))]

/-- One id of an unsubscribe request, looked up in the subscriptions the client
had when the request began. -/
def unsubscribeEntry (config : Config Bridge) (hdl : ConnHandle)
    (subscriptionsByChannel : Table ChannelId SubscriptionId) (subId : SubscriptionId) :
    ServerAction Bridge Unit :=
  match findSubscriptionBySubId subscriptionsByChannel subId with
  | none => sendStatusAndLogMsg hdl .warning
      ("Client subscription id " ++ toString subId ++ " did not exist; ignoring unsubscription")
  | some chanId => do
    callHandler config (.unsubscribe chanId hdl)
    updateClient hdl (ClientInfo.removeSubscription chanId)

def handleUnsubscribe (config : Config Bridge) (payload : Json) (hdl : ConnHandle) :
    ServerAction Bridge Unit := do
  let client ← clientAt hdl
  let subscriptionIds ← Action.ofExcept (payload.atKey "subscriptionIds")
  Action.forEach subscriptionIds.elements fun subIdJson => do
    let subId ← Action.ofExcept subIdJson.getUInt32
    unsubscribeEntry config hdl client.subscriptionsByChannel subId

/-- What the client advertised before. -/
def Server.publications (server : Server) (hdl : ConnHandle) :
    Table ClientChannelId ClientAdvertisement :=
  (server.clientChannels.lookup hdl).getD ∅

/-- The decision on one entry of an advertise request: the text it is refused
with, or the advertisement handed to the bridge. The first request of a client
is not checked for ids that it lists twice. -/
def advertiseDecision (options : ServerOptions) (isFirstPublication : Bool)
    (publications : Table ClientChannelId ClientAdvertisement) (chan : Json) :
    Except Fault (String ⊕ ClientAdvertisement) := do
  let channelId ← chan.atKey "id" >>= Json.getUInt32
  if !isFirstPublication ∧ channelId ∈ publications then
    pure (.inl ("Channel " ++ toString channelId ++ " was already advertised"))
  else
    let topic ← chan.atKey "topic" >>= Json.getString
    if isWhitelisted topic options.clientTopicWhitelistPatterns then
      let encoding ← chan.atKey "encoding" >>= Json.getString
      let schemaName ← chan.atKey "schemaName" >>= Json.getString
      pure (.inr { channelId := channelId, topic := topic, encoding := encoding,
                   schemaName := schemaName, schema := [] })
    else
      pure (.inl ("Can't advertise channel " ++ toString channelId ++ ", topic '" ++ topic ++
        "' not whitelisted"))

def ClientInfo.addAdvertisedChannel (channelId : ClientChannelId) (client : ClientInfo) :
    ClientInfo :=
  { client with advertisedChannels := client.advertisedChannels.emplace channelId () }

def ClientInfo.removeAdvertisedChannel (channelId : ClientChannelId) (client : ClientInfo) :
    ClientInfo :=
  { client with advertisedChannels := client.advertisedChannels.erase channelId }

/-- The entry a client's publications are kept in, created empty. -/
def Server.openPublications (hdl : ConnHandle) (server : Server) : Server :=
  { server with clientChannels := server.clientChannels.emplace hdl ∅ }

def Server.modifyPublications (hdl : ConnHandle)
    (change : Table ClientChannelId ClientAdvertisement → Table ClientChannelId ClientAdvertisement)
    (server : Server) : Server :=
  { server with clientChannels := server.clientChannels.modify hdl change }

/-- Refuse an entry, or hand it to the bridge and record it. -/
def advertiseChannel (config : Config Bridge) (hdl : ConnHandle) :
    String ⊕ ClientAdvertisement → ServerAction Bridge Unit
  | .inl refusal => sendStatusAndLogMsg hdl .error refusal
  | .inr advertisement => do
    callHandler config (.clientAdvertise advertisement hdl)
    updateClient hdl (ClientInfo.addAdvertisedChannel advertisement.channelId)
    modifyServer (Server.modifyPublications hdl fun publications =>
      publications.emplace advertisement.channelId advertisement)

def advertiseEntry (config : Config Bridge) (isFirstPublication : Bool) (hdl : ConnHandle)
    (chan : Json) : ServerAction Bridge Unit := do
  let publications ← Action.gets fun world => world.server.publications hdl
  let decision ← Action.ofExcept
    (advertiseDecision config.options isFirstPublication publications chan)
  advertiseChannel config hdl decision

def handleAdvertise (config : Config Bridge) (payload : Json) (hdl : ConnHandle) :
    ServerAction Bridge Unit := do
  let isFirstPublication ← Action.gets fun world => decide (hdl ∉ world.server.clientChannels)
  modifyServer (Server.openPublications hdl)
  let channels ← Action.ofExcept (payload.atKey "channels")
  Action.forEach channels.elements (advertiseEntry config isFirstPublication hdl)

def unadvertiseEntry (config : Config Bridge) (hdl : ConnHandle) (channelId : ClientChannelId) :
    ServerAction Bridge Unit := do
  let publications ← Action.gets fun world => world.server.publications hdl
  if channelId ∈ publications then
    callHandler config (.clientUnadvertise channelId hdl)
    updateClient hdl (ClientInfo.removeAdvertisedChannel channelId)
    modifyServer (Server.modifyPublications hdl fun publications => publications.erase channelId)
  else
    pure ()

def handleUnadvertise (config : Config Bridge) (payload : Json) (hdl : ConnHandle) :
    ServerAction Bridge Unit := do
  let advertised ← Action.gets fun world => decide (hdl ∈ world.server.clientChannels)
  if advertised then
    let channelIds ← Action.ofExcept (payload.atKey "channelIds")
    Action.forEach channelIds.elements fun chanIdJson => do
      let channelId ← Action.ofExcept chanIdJson.getUInt32
      unadvertiseEntry config hdl channelId
  else
    sendStatusAndLogMsg hdl .error "Client has no advertised channels"

/-- Parameter names and request id of a getParameters request. -/
def getParametersArguments (payload : Json) : Except Fault (List String × Option String) := do
  let paramNames ← payload.atKey "parameterNames" >>= Json.getStrings
  let requestId ← payload.findString? "id"
  pure (paramNames, requestId)

def handleGetParameters (config : Config Bridge) (payload : Json) (hdl : ConnHandle) :
    ServerAction Bridge Unit := do
  let (paramNames, requestId) ← Action.ofExcept (getParametersArguments payload)
  callHandler config (.parameterRequest paramNames requestId hdl)

def setParametersArguments (payload : Json) : Except Fault (List Parameter × Option String) := do
  let parameters ← payload.atKey "parameters" >>= Json.getArray Parameter.fromJson
  let requestId ← payload.findString? "id"
  pure (parameters, requestId)

def handleSetParameters (config : Config Bridge) (payload : Json) (hdl : ConnHandle) :
    ServerAction Bridge Unit := do
  let (parameters, requestId) ← Action.ofExcept (setParametersArguments payload)
  callHandler config (.parameterChange parameters requestId hdl)

/-- The parameter names of a request, without repetitions. -/
def parameterNameSet (payload : Json) : Except Fault (KeySet String) := do
  let paramNames ← payload.atKey "parameterNames" >>= Json.getStrings
  pure (KeySet.insertAll paramNames ∅)

/-- Add names to the connection's parameter subscriptions, creating its entry. -/
def Server.addParamSubscriptions (hdl : ConnHandle) (paramNames : List String)
    (server : Server) : Server :=
  { server with
    clientParamSubscriptions :=
      (server.clientParamSubscriptions.emplace hdl ∅).modify hdl (KeySet.insertAll paramNames) }

/-- Remove names from the connection's parameter subscriptions, creating its entry. -/
def Server.removeParamSubscriptions (hdl : ConnHandle) (paramNames : List String)
    (server : Server) : Server :=
  { server with
    clientParamSubscriptions :=
      (server.clientParamSubscriptions.emplace hdl ∅).modify hdl (Table.eraseAll paramNames) }

def handleSubscribeParameterUpdates (config : Config Bridge) (payload : Json)
    (hdl : ConnHandle) : ServerAction Bridge Unit := do
  let paramNames ← Action.ofExcept (parameterNameSet payload)
  let paramsToSubscribe ← Action.gets fun world => world.server.unsubscribedParams paramNames.keys
  modifyServer (Server.addParamSubscriptions hdl paramNames.keys)
  if paramsToSubscribe ≠ [] then
    callHandler config (.parameterSubscription paramsToSubscribe .subscribe hdl)

def handleUnsubscribeParameterUpdates (config : Config Bridge) (payload : Json)
    (hdl : ConnHandle) : ServerAction Bridge Unit := do
  let paramNames ← Action.ofExcept (parameterNameSet payload)
  modifyServer (Server.removeParamSubscriptions hdl paramNames.keys)
  unsubscribeParamsWithoutSubscriptions config hdl paramNames.keys

def ClientInfo.setSubscribedToConnectionGraph (subscribed : Bool) (client : ClientInfo) :
    ClientInfo :=
  { client with subscribedToConnectionGraph := subscribed }

/-- Only the first subscriber is announced to the bridge, and only its flag is set. -/
def announceConnectionGraph (config : Config Bridge) (hdl : ConnHandle)
    (subscriptionCount : Int) : ServerAction Bridge Unit :=
  if subscriptionCount = 1 then do
    callHandler config (.subscribeConnectionGraph true)
    updateClient hdl (ClientInfo.setSubscribedToConnectionGraph true)
  else
    pure ()

/-- Send the whole stored graph. -/
def sendConnectionGraph (hdl : ConnHandle) : ServerAction Bridge Unit := do
  let graph ← Action.gets fun world => world.server.connectionGraph
  sendRawJson hdl (.connectionGraphUpdate graph.snapshot)

def handleSubscribeConnectionGraph (config : Config Bridge) (hdl : ConnHandle) :
    ServerAction Bridge Unit := do
  modifyServer (Server.addToSubscriptionCount 1)
  let subscriptionCount ← Action.gets fun world => world.server.subscriptionCount
  announceConnectionGraph config hdl subscriptionCount
  sendConnectionGraph hdl

/-- The last subscriber that leaves is announced to the bridge. -/
def withdrawConnectionGraph (config : Config Bridge) : ServerAction Bridge Unit := do
  modifyServer (Server.addToSubscriptionCount (-1))
  let subscriptionCount ← Action.gets fun world => world.server.subscriptionCount
  if subscriptionCount = 0 then
    callHandler config (.subscribeConnectionGraph false)

def handleUnsubscribeConnectionGraph (config : Config Bridge) (hdl : ConnHandle) :
    ServerAction Bridge Unit := do
  let client ← clientAt hdl
  if client.subscribedToConnectionGraph then
    modifyServer (Server.modifyClient hdl (ClientInfo.setSubscribedToConnectionGraph false))
    withdrawConnectionGraph config
  else
    sendStatusAndLogMsg hdl .error "Client was not subscribed to connection graph updates"

def fetchAssetArguments (payload : Json) : Except Fault (String × UInt32) := do
  let uri ← payload.atKey "uri" >>= Json.getString
  let requestId ← payload.atKey "requestId" >>= Json.getUInt32
  pure (uri, requestId)

def handleFetchAsset (config : Config Bridge) (payload : Json) (hdl : ConnHandle) :
    ServerAction Bridge Unit := do
  let (uri, requestId) ← Action.ofExcept (fetchAssetArguments payload)
  callHandler config (.fetchAsset uri requestId hdl)

end CoBridge

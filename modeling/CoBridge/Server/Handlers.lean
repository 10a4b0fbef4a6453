import Mathlib.Data.Finset.Basic
import CoBridge.Library.Action
import CoBridge.Library.Table
import CoBridge.Parameter

/-!
# State of the websocket server

`Server` holds the tables of the server class. `World` adds what the server
acts on: the bridge behind the handlers, the connections, the frames enqueued
on them and the handler calls made so far. The bridge state is a parameter, so
the same server runs over any bridge.
-/

namespace CoBridge

open Library

/-- Names with the ids of the nodes attached to them. -/
abbrev MapOfSets : Type := Table String (Finset String)

structure ConnectionGraph where
  publishedTopics : MapOfSets
  subscribedTopics : MapOfSets
  advertisedServices : MapOfSets

structure ClientInfo where
  endpointName : String
  userName : String
  userId : String
  handle : ConnHandle
  subscriptionsByChannel : Table ChannelId SubscriptionId := ∅
  advertisedChannels : KeySet ClientChannelId := ∅
  subscribedToConnectionGraph : Bool := false
  login : Bool := true

structure Server where
  nextChannelId : UInt32
  clients : Table ConnHandle ClientInfo
  channels : Table ChannelId Channel
  clientChannels : Table ConnHandle (Table ClientChannelId ClientAdvertisement)
  clientParamSubscriptions : Table ConnHandle (KeySet String)
  nextServiceId : UInt32
  services : Table ServiceId ServiceWithoutId
  subscriptionCount : Int
  connectionGraph : ConnectionGraph

/-- The tables of a server that was just constructed. -/
def Server.initial : Server where
  nextChannelId := 0
  clients := ∅
  channels := ∅
  clientChannels := ∅
  clientParamSubscriptions := ∅
  nextServiceId := 0
  services := ∅
  subscriptionCount := 0
  connectionGraph := ⟨∅, ∅, ∅⟩

/-- A `connectionGraphUpdate` message. -/
structure ConnectionGraphUpdate where
  publishedTopics : List (String × Finset String)
  subscribedTopics : List (String × Finset String)
  advertisedServices : List (String × Finset String)
  removedTopics : List String
  removedServices : List String
deriving DecidableEq

/-- Frames from the server to a client. -/
inductive ServerMessage where
  | serverInfo (name : String) (capabilities supportedEncodings : List String)
      (metadata : List (String × String)) (sessionId : String)
  | kicked (userId username : String)
  | status (level : StatusLevel) (message : String)
  | advertise (channels : List Channel)
  | unadvertise (channelIds : List ChannelId)
  | advertiseServices (services : List Service)
  | unadvertiseServices (serviceIds : List ServiceId)
  | connectionGraphUpdate (update : ConnectionGraphUpdate)
  | parameterValues (parameters : List Parameter) (id : Option String)
  | messageData (subscriptionId : SubscriptionId) (timestamp : UInt64) (payload : List UInt8)
  | time (timestamp : UInt64)

/-- Invocations of the handlers a bridge registers with the server. -/
inductive HandlerCall where
  | subscribe (channelId : ChannelId) (hdl : ConnHandle)
  | unsubscribe (channelId : ChannelId) (hdl : ConnHandle)
  | clientAdvertise (advertisement : ClientAdvertisement) (hdl : ConnHandle)
  | clientUnadvertise (channelId : ClientChannelId) (hdl : ConnHandle)
  | clientMessage (message : ClientMessage) (hdl : ConnHandle)
  | parameterRequest (names : List String) (requestId : Option String) (hdl : ConnHandle)
  | parameterChange (parameters : List Parameter) (requestId : Option String) (hdl : ConnHandle)
  | parameterSubscription (names : List String) (op : ParameterSubscriptionOperation)
      (hdl : ConnHandle)
  | serviceRequest (request : ServiceRequest) (hdl : ConnHandle)
  | subscribeConnectionGraph (subscribe : Bool)
  | fetchAsset (uri : String) (requestId : UInt32) (hdl : ConnHandle)

/-- Calls a handler makes back into the server before it returns. -/
inductive Callback where
  | updateConnectionGraph (graph : ConnectionGraph)
  | publishParameterValues (hdl : ConnHandle) (parameters : List Parameter)
      (requestId : Option String)

/-- What a handler did: its calls into the server, its outcome and the bridge
state it left. -/
structure Reply (Bridge : Type) where
  callbacks : List Callback
  outcome : Except Fault Unit
  bridge : Bridge

/-- Handlers by the function they implement; `none` is an empty function. -/
structure ServerHandlers (Bridge : Type) where
  subscribeHandler : Option (ChannelId → ConnHandle → Bridge → Reply Bridge)
  unsubscribeHandler : Option (ChannelId → ConnHandle → Bridge → Reply Bridge)
  clientAdvertiseHandler : Option (ClientAdvertisement → ConnHandle → Bridge → Reply Bridge)
  clientUnadvertiseHandler : Option (ClientChannelId → ConnHandle → Bridge → Reply Bridge)
  clientMessageHandler : Option (ClientMessage → ConnHandle → Bridge → Reply Bridge)
  parameterRequestHandler :
    Option (List String → Option String → ConnHandle → Bridge → Reply Bridge)
  parameterChangeHandler :
    Option (List Parameter → Option String → ConnHandle → Bridge → Reply Bridge)
  parameterSubscriptionHandler :
    Option (List String → ParameterSubscriptionOperation → ConnHandle → Bridge → Reply Bridge)
  serviceRequestHandler : Option (ServiceRequest → ConnHandle → Bridge → Reply Bridge)
  subscribeConnectionGraphHandler : Option (Bool → Bridge → Reply Bridge)
  fetchAssetHandler : Option (String → UInt32 → ConnHandle → Bridge → Reply Bridge)

/-- The registered function for a call, applied to the call's arguments. -/
def ServerHandlers.resolve {Bridge : Type} (handlers : ServerHandlers Bridge) :
    HandlerCall → Option (Bridge → Reply Bridge)
  | .subscribe channelId hdl => handlers.subscribeHandler.map fun f => f channelId hdl
  | .unsubscribe channelId hdl => handlers.unsubscribeHandler.map fun f => f channelId hdl
  | .clientAdvertise advertisement hdl =>
    handlers.clientAdvertiseHandler.map fun f => f advertisement hdl
  | .clientUnadvertise channelId hdl =>
    handlers.clientUnadvertiseHandler.map fun f => f channelId hdl
  | .clientMessage message hdl => handlers.clientMessageHandler.map fun f => f message hdl
  | .parameterRequest names requestId hdl =>
    handlers.parameterRequestHandler.map fun f => f names requestId hdl
  | .parameterChange parameters requestId hdl =>
    handlers.parameterChangeHandler.map fun f => f parameters requestId hdl
  | .parameterSubscription names op hdl =>
    handlers.parameterSubscriptionHandler.map fun f => f names op hdl
  | .serviceRequest request hdl => handlers.serviceRequestHandler.map fun f => f request hdl
  | .subscribeConnectionGraph subscribe =>
    handlers.subscribeConnectionGraphHandler.map fun f => f subscribe
  | .fetchAsset uri requestId hdl => handlers.fetchAssetHandler.map fun f => f uri requestId hdl

/-- A reply that accepts the call and changes nothing. -/
def Reply.accept {Bridge : Type} (bridge : Bridge) : Reply Bridge := ⟨[], .ok (), bridge⟩

/-- A reply that throws, with the bridge as it was left. -/
def Reply.fail {Bridge : Type} (exception : Exception) (bridge : Bridge) : Reply Bridge :=
  ⟨[], .error (.raised exception), bridge⟩

/-- Handlers that accept every call. -/
def ServerHandlers.accepting {Bridge : Type} : ServerHandlers Bridge where
  subscribeHandler := some fun _ _ => .accept
  unsubscribeHandler := some fun _ _ => .accept
  clientAdvertiseHandler := some fun _ _ => .accept
  clientUnadvertiseHandler := some fun _ _ => .accept
  clientMessageHandler := some fun _ _ => .accept
  parameterRequestHandler := some fun _ _ _ => .accept
  parameterChangeHandler := some fun _ _ _ => .accept
  parameterSubscriptionHandler := some fun _ _ _ => .accept
  serviceRequestHandler := some fun _ _ => .accept
  subscribeConnectionGraphHandler := some fun _ => .accept
  fetchAssetHandler := some fun _ _ _ => .accept

structure ServerOptions where
  capabilities : List String
  supportedEncodings : List String
  metadata : List (String × String)
  sessionId : String
  clientTopicWhitelistPatterns : List Regex

/-- Whether the compiler's plain `char` is signed. -/
inductive CharType where
  | signed
  | unsigned
deriving DecidableEq, Repr

/-- What is fixed while the server runs. Parsing and writing of text frames belong
to the JSON library and stay abstract: parsing gives a value or the text of an error,
and writing takes a string or refuses it. -/
structure Config (Bridge : Type) where
  name : String
  options : ServerOptions
  handlers : ServerHandlers Bridge
  parse : List UInt8 → Except String Json
  dump : TextCheck := writesAll
  char : CharType := .signed

/-- A server over handlers that accept every call. -/
def Config.accepting {Bridge : Type} : Config Bridge where
  name := ""
  options := ⟨[], [], [], "", []⟩
  handlers := .accepting
  parse := fun _ => .ok .null

/-- A connection: its handle resolves unless it is gone, and frames can be
enqueued only while it is established. -/
inductive Link where
  | established
  | closing
  | gone
deriving DecidableEq, Repr

structure World (Bridge : Type) where
  server : Server
  bridge : Bridge
  link : ConnHandle → Link
  remoteEndpoint : ConnHandle → String
  now : UInt64
  /-- Frames in the order they were enqueued. -/
  sent : List (ConnHandle × ServerMessage)
  /-- Handler invocations, oldest first. -/
  calls : List HandlerCall

/-- A world in which nothing has happened yet and every connection is open. -/
def World.initial {Bridge : Type} (bridge : Bridge) : World Bridge where
  server := .initial
  bridge := bridge
  link := fun _ => .established
  remoteEndpoint := fun _ => ""
  now := 0
  sent := []
  calls := []

/-- The world after a connection changed at the transport. -/
def World.setLink {Bridge : Type} (hdl : ConnHandle) (link : Link) (world : World Bridge) :
    World Bridge :=
  { world with link := fun other => if other = hdl then link else world.link other }

/-- Server code: acts on the world, may raise an exception. -/
abbrev ServerAction (Bridge Value : Type) : Type := Action (World Bridge) Fault Value

/-!
## Sending frames and calling handlers

The primitives every operation of the server is built from. Frames sent by
`sendJson` never fail the caller; `serverSend` raises an exception for a
connection that is not established. `callHandler` records the invocation
before the handler runs, so an exception of the handler does not hide it.
-/

open Action

section

variable {Bridge Value : Type}
variable (update : Server → Server) (world : World Bridge) (hdl : ConnHandle)
  (message : ServerMessage)

def raise (exception : Exception) : ServerAction Bridge Value := Action.throw (.raised exception)

/-- `try { body } catch ...` for clauses that together catch every exception. -/
def catchAll (body : ServerAction Bridge Value) (handler : Exception → ServerAction Bridge Value) :
    ServerAction Bridge Value :=
  Action.tryCatch body fun
    | .raised exception => handler exception
    | .undefinedBehavior => Action.throw .undefinedBehavior

def modifyServer (update : Server → Server) : ServerAction Bridge Unit :=
  Action.modify fun world => { world with server := update world.server }

/-- The one-argument lookup of a connection, which throws when it is gone. -/
def getConFromHdl (hdl : ConnHandle) : ServerAction Bridge Unit := do
  let link ← Action.gets fun world => world.link hdl
  if link = .gone then raise (.std "Bad Connection")

/-- `connection::send`: the error code for a connection that is not established
is ignored by every caller. -/
def conSend (hdl : ConnHandle) (message : ServerMessage) : ServerAction Bridge Unit :=
  Action.modify fun world =>
    if world.link hdl = .established then { world with sent := world.sent ++ [(hdl, message)] }
    else world

/-- `endpoint::send` without an error code. -/
def serverSend (hdl : ConnHandle) (message : ServerMessage) : ServerAction Bridge Unit := do
  getConFromHdl hdl
  let link ← Action.gets fun world => world.link hdl
  if link = .closing then raise (.std "invalid state")
  conSend hdl message

/-- The message is written inside the `try`, so one that cannot be written is dropped.
What the JSON library says to its strings is given with it, unless they are literals
or were read from JSON themselves. -/
def sendJson (hdl : ConnHandle) (message : ServerMessage)
    (dumped : Except Exception Unit := .ok ()) : ServerAction Bridge Unit :=
  catchAll (do getConFromHdl hdl; Action.ofExcept (dumped.mapError .raised); conSend hdl message)
    fun _ => pure ()

/-- The message was written by the caller. -/
def sendRawJson (hdl : ConnHandle) (message : ServerMessage) : ServerAction Bridge Unit :=
  catchAll (do getConFromHdl hdl; conSend hdl message) fun _ => pure ()

def remoteEndpointString (hdl : ConnHandle) : ServerAction Bridge String :=
  Action.gets fun world =>
    if world.link hdl = .gone then "(unknown)" else world.remoteEndpoint hdl

def sendStatusAndLogMsg (hdl : ConnHandle) (level : StatusLevel) (message : String) :
    ServerAction Bridge Unit :=
  sendJson hdl (.status level message)

/-- `_clients.at(hdl)`. -/
def clientAt (hdl : ConnHandle) : ServerAction Bridge ClientInfo := do
  match ← Action.gets fun world => world.server.clients.lookup hdl with
  | some client => pure client
  | none => raise (.std "map::at")

/-- The world after the frame was enqueued, if it can be. -/
def World.enqueue (world : World Bridge) (hdl : ConnHandle) (message : ServerMessage) :
    World Bridge :=
  if world.link hdl = .established then { world with sent := world.sent ++ [(hdl, message)] }
  else world

@[simp] theorem World.enqueue_server : (world.enqueue hdl message).server = world.server := by
  unfold World.enqueue
  split <;> rfl

@[simp] theorem World.enqueue_bridge : (world.enqueue hdl message).bridge = world.bridge := by
  unfold World.enqueue
  split <;> rfl

@[simp] theorem World.enqueue_calls : (world.enqueue hdl message).calls = world.calls := by
  unfold World.enqueue
  split <;> rfl

@[simp] theorem World.enqueue_link : (world.enqueue hdl message).link = world.link := by
  unfold World.enqueue
  split <;> rfl

@[simp] theorem raise_apply (exception : Exception) (world : World Bridge) :
    (raise exception : ServerAction Bridge Value) world = (.error (.raised exception), world) := rfl

@[simp] theorem modifyServer_apply :
    modifyServer update world = (.ok (), { world with server := update world.server }) := rfl

@[simp] theorem modifyServer_bind_apply (next : Unit → ServerAction Bridge Value)
    (world : World Bridge) :
    (modifyServer update >>= next) world = next () { world with server := update world.server } :=
  rfl

theorem getConFromHdl_apply (world : World Bridge) :
    getConFromHdl hdl world =
      if world.link hdl = .gone then (.error (.raised (.std "Bad Connection")), world)
      else (.ok (), world) := by
  unfold getConFromHdl
  rw [gets_bind_apply]
  split <;> rfl

@[simp] theorem conSend_apply (world : World Bridge) :
    conSend hdl message world = (.ok (), world.enqueue hdl message) := rfl

theorem catchAll_apply (body : ServerAction Bridge Value)
    (handler : Exception → ServerAction Bridge Value) (world : World Bridge) :
    catchAll body handler world =
      match body world with
      | (.ok value, reached) => (.ok value, reached)
      | (.error (.raised exception), reached) => handler exception reached
      | (.error .undefinedBehavior, reached) => (.error .undefinedBehavior, reached) := by
  unfold catchAll Action.tryCatch
  rcases body world with ⟨(_ | _) | _, _⟩ <;> rfl

@[simp] theorem sendRawJson_apply (world : World Bridge) :
    sendRawJson hdl message world = (.ok (), world.enqueue hdl message) := by
  unfold sendRawJson catchAll
  by_cases gone : world.link hdl = .gone
  · have failed : (getConFromHdl hdl >>= fun _ => conSend hdl message) world =
        (.error (.raised (.std "Bad Connection")), world) :=
      bind_error (by rw [getConFromHdl_apply, if_pos gone])
    rw [tryCatch_error failed]
    simp [World.enqueue, gone]
  · have done : (getConFromHdl hdl >>= fun _ => conSend hdl message) world =
        (.ok (), world.enqueue hdl message) :=
      bind_ok (by rw [getConFromHdl_apply, if_neg gone])
    rw [tryCatch_ok done]

@[simp] theorem sendJson_apply (world : World Bridge) :
    (sendJson hdl message) world = (.ok (), world.enqueue hdl message) :=
  sendRawJson_apply hdl message world

/-- A message that cannot be written leaves no trace. -/
theorem sendJson_error (exception : Exception) (world : World Bridge) :
    sendJson hdl message (.error exception) world = (.ok (), world) := by
  unfold sendJson
  rw [catchAll_apply, bind_apply, getConFromHdl_apply]
  by_cases gone : world.link hdl = .gone <;> simp [gone, Except.mapError]

theorem sendJson_returns (dumped : Except Exception Unit) (world : World Bridge) :
    (sendJson hdl message dumped world).1 = .ok () := by
  cases dumped with
  | ok _ => rw [sendJson_apply]
  | error exception => rw [sendJson_error]

/-- What holds of a message that is sent holds of one that may be dropped. -/
theorem sendJson_meets {promise : Guarantee (World Bridge)}
    (promised : ∀ world : World Bridge, promise.rel world (world.enqueue hdl message))
    (dumped : Except Exception Unit) :
    (sendJson hdl message dumped : ServerAction Bridge Unit).Meets promise := by
  intro world
  cases dumped with
  | ok _ =>
    rw [sendJson_apply]
    exact promised world
  | error exception =>
    rw [sendJson_error]
    exact promise.refl world

@[simp] theorem sendStatusAndLogMsg_apply (level : StatusLevel) (message : String)
    (world : World Bridge) :
    sendStatusAndLogMsg hdl level message world =
      (.ok (), world.enqueue hdl (.status level message)) :=
  sendJson_apply hdl _ world

theorem serverSend_apply (world : World Bridge) :
    serverSend hdl message world =
      match world.link hdl with
      | .gone => (.error (.raised (.std "Bad Connection")), world)
      | .closing => (.error (.raised (.std "invalid state")), world)
      | .established => (.ok (), world.enqueue hdl message) := by
  unfold serverSend
  rcases state : world.link hdl with _ | _ | _
  · rw [bind_ok (by rw [getConFromHdl_apply, if_neg (by simp [state])])]
    simp only [gets_bind_apply, state]
    rfl
  · rw [bind_ok (by rw [getConFromHdl_apply, if_neg (by simp [state])])]
    simp only [gets_bind_apply, state]
    rfl
  · exact bind_error (by rw [getConFromHdl_apply, if_pos state])

theorem clientAt_apply (world : World Bridge) :
    clientAt hdl world =
      match world.server.clients.lookup hdl with
      | some client => (.ok client, world)
      | none => (.error (.raised (.std "map::at")), world) := by
  unfold clientAt
  split <;> simp_all

/-- Code that catches its exceptions meets what its body and its clauses meet. -/
theorem meets_catchAll {promise : Guarantee (World Bridge)} {body : ServerAction Bridge Value}
    {handler : Exception → ServerAction Bridge Value} (bodyMeets : body.Meets promise)
    (handlerMeets : ∀ exception, (handler exception).Meets promise) :
    (catchAll body handler).Meets promise := by
  apply bodyMeets.tryCatch
  intro fault
  cases fault with
  | raised exception => exact handlerMeets exception
  | undefinedBehavior => exact meets_throw _

end

/-!
## The connection graph store and handler calls

`updateConnectionGraph` computes the difference between the stored and the new
graph, stores the new one and sends the difference to the clients that
subscribed to it. Handlers may call it (and `publishParameterValues`) back, so
`callHandler` is defined on top of both. Nothing else of the server changes
during a handler call: `callHandler_kept`.
-/

variable {Bridge : Type}
variable {config : Config Bridge}

namespace ConnectionGraph

/-- The entries of the new map that the stored map lacks or has with other ids. -/
def changedEntries (stored new : MapOfSets) : List (String × Finset String) :=
  new.entries.filterMap fun entry =>
    if stored.lookup entry.1 = none ∨ stored.lookup entry.1 ≠ some entry.2 then
      some (entry.1, entry.2)
    else
      none

/-- The known names that are not among the new ones. -/
def removedNames (known new : List String) : List String :=
  (KeySet.insertAll known ∅).keys.filter fun name => name ∉ new

/-- Topic names of a graph: published or subscribed. -/
def topicNames (graph : ConnectionGraph) : List String :=
  graph.publishedTopics.keys ++ graph.subscribedTopics.keys

def serviceNames (graph : ConnectionGraph) : List String := graph.advertisedServices.keys

/-- The difference between the stored graph and a new one. Additions are found
in each map, removals of topics over both topic maps together. -/
def diff (stored new : ConnectionGraph) : ConnectionGraphUpdate where
  publishedTopics := changedEntries stored.publishedTopics new.publishedTopics
  subscribedTopics := changedEntries stored.subscribedTopics new.subscribedTopics
  advertisedServices := changedEntries stored.advertisedServices new.advertisedServices
  removedTopics := removedNames stored.topicNames new.topicNames
  removedServices := removedNames stored.serviceNames new.serviceNames

/-- The message a new subscriber gets: every entry, nothing removed. -/
def snapshot (graph : ConnectionGraph) : ConnectionGraphUpdate where
  publishedTopics := graph.publishedTopics.entries.map fun entry => (entry.1, entry.2)
  subscribedTopics := graph.subscribedTopics.entries.map fun entry => (entry.1, entry.2)
  advertisedServices := graph.advertisedServices.entries.map fun entry => (entry.1, entry.2)
  removedTopics := []
  removedServices := []

end ConnectionGraph

/-- Nothing to report: no message is sent. -/
def ConnectionGraphUpdate.isEmpty (update : ConnectionGraphUpdate) : Bool :=
  update.publishedTopics.isEmpty && update.subscribedTopics.isEmpty &&
    update.advertisedServices.isEmpty && update.removedTopics.isEmpty &&
    update.removedServices.isEmpty

/-- The graph a client of the server is sent updates of. -/
def Server.storeGraph (graph : ConnectionGraph) (server : Server) : Server :=
  { server with connectionGraph := graph }

/-- The clients that subscribed to the connection graph, in table order. -/
def Server.graphSubscribers (server : Server) : List ConnHandle :=
  (server.clients.entries.filter fun entry => entry.2.subscribedToConnectionGraph).map Sigma.fst

/-- Store the graph and send its subscribers what changed. The names in a graph are ROS
names, which the JSON library writes. -/
def updateConnectionGraph (graph : ConnectionGraph) : ServerAction Bridge Unit := do
  let stored ← Action.gets fun world => world.server.connectionGraph
  let update := stored.diff graph
  modifyServer (Server.storeGraph graph)
  if update.isEmpty then
    pure ()
  else
    let subscribers ← Action.gets fun world => world.server.graphSubscribers
    Action.forEach subscribers fun hdl => serverSend hdl (.connectionGraphUpdate update)

/-- Parameters without a value are left out of the message. -/
def publishParameterValues (hdl : ConnHandle) (parameters : List Parameter)
    (requestId : Option String) : ServerAction Bridge Unit :=
  let nonEmptyParameters := parameters.filter fun parameter =>
    match parameter.value with
    | .notSet => false
    | _ => true
  sendRawJson hdl (.parameterValues nonEmptyParameters requestId)

def runCallback : Callback → ServerAction Bridge Unit
  | .updateConnectionGraph graph => updateConnectionGraph graph
  | .publishParameterValues hdl parameters requestId =>
    publishParameterValues hdl parameters requestId

def World.recordCall (world : World Bridge) (call : HandlerCall) : World Bridge :=
  { world with calls := world.calls ++ [call] }

/-- Invoke a handler. An empty function throws without being invoked. -/
def callHandler (config : Config Bridge) (call : HandlerCall) : ServerAction Bridge Unit := do
  match config.handlers.resolve call with
  | none => raise (.std "bad_function_call")
  | some handler =>
    Action.modify fun world => world.recordCall call
    let reply ← Action.gets fun world => handler world.bridge
    Action.modify fun world => { world with bridge := reply.bridge }
    Action.forEach reply.callbacks runCallback
    Action.ofExcept reply.outcome

/-- The tables apart from the stored graph. -/
def Server.withoutGraph (server : Server) : Server := server.storeGraph ⟨∅, ∅, ∅⟩

/-- What sending and callbacks keep: every table but the stored graph, the
handler calls, the bridge and the connections. -/
def World.kept (world : World Bridge) : Server × List HandlerCall × Bridge × (ConnHandle → Link) :=
  (world.server.withoutGraph, world.calls, world.bridge, world.link)

@[simp] theorem World.enqueue_kept (world : World Bridge) (hdl : ConnHandle)
    (message : ServerMessage) : (world.enqueue hdl message).kept = world.kept := by
  simp [World.kept]

theorem serverSend_meets {promise : Guarantee (World Bridge)} {hdl : ConnHandle}
    {message : ServerMessage}
    (promised : ∀ world : World Bridge, promise.rel world (world.enqueue hdl message)) :
    (serverSend hdl message : ServerAction Bridge Unit).Meets promise := by
  intro world
  rw [serverSend_apply]
  split
  · exact promise.refl world
  · exact promise.refl world
  · exact promised world

theorem updateConnectionGraph_kept (graph : ConnectionGraph) :
    (updateConnectionGraph graph : ServerAction Bridge Unit).Meets (.frame World.kept) := by
  apply Meets.bind (meets_gets _)
  intro stored
  apply Meets.bind (meets_modify fun world => rfl)
  intro _
  apply Meets.ite (meets_pure _)
  apply Meets.bind (meets_gets _)
  intro subscribers
  apply meets_forEach
  intro hdl _
  exact serverSend_meets fun world => world.enqueue_kept hdl _

theorem runCallback_kept (callback : Callback) :
    (runCallback callback : ServerAction Bridge Unit).Meets (.frame World.kept) := by
  cases callback with
  | updateConnectionGraph graph => exact updateConnectionGraph_kept graph
  | publishParameterValues hdl parameters requestId =>
    intro world
    change (sendRawJson hdl _ world).2.kept = world.kept
    rw [sendRawJson_apply, World.enqueue_kept]

/-- A handler call is recorded, hands over the bridge state the handler left,
and keeps every table but the stored graph. -/
theorem callHandler_kept {call : HandlerCall} {handler : Bridge → Reply Bridge}
    (registered : config.handlers.resolve call = some handler) (world : World Bridge) :
    (callHandler config call world).2.kept =
      (world.server.withoutGraph, world.calls ++ [call], (handler world.bridge).bridge,
        world.link) := by
  unfold callHandler
  rw [registered]
  have callbacks : (Action.forEach (handler world.bridge).callbacks runCallback :
      ServerAction Bridge Unit).Meets (.frame World.kept) :=
    meets_forEach fun callback _ => runCallback_kept callback
  exact (callbacks.bind fun _ => meets_ofExcept _) _

/-- An empty handler function throws and changes nothing. -/
theorem callHandler_of_none {call : HandlerCall} (missing : config.handlers.resolve call = none)
    (world : World Bridge) :
    callHandler config call world = (.error (.raised (.std "bad_function_call")), world) := by
  unfold callHandler
  rw [missing]
  rfl

end CoBridge

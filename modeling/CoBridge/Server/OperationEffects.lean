import CoBridge.Server.RequestEffects
import CoBridge.Server.LoginEffects

/-!
# What a disconnect can do

The part of a disconnect before the connection graph is released always returns
when no handler is undefined behaviour, and it promises whatever its handler
calls and its two table updates promise.
-/

namespace CoBridge

open Library Action

section

variable {Bridge : Type} {config : Config Bridge}

/-- No handler call is undefined behaviour. -/
def HandlersDefined (config : Config Bridge) : Prop :=
  ∀ call world, (callHandler config call world).1 ≠ .error .undefinedBehavior

theorem catchAll_returns {body : ServerAction Bridge Unit}
    {handler : Exception → ServerAction Bridge Unit}
    (defined : ∀ world, (body world).1 ≠ .error .undefinedBehavior)
    (handled : ∀ exception, (handler exception).Returns) : (catchAll body handler).Returns := by
  intro world
  have here := defined world
  rw [catchAll_apply]
  revert here
  rcases body world with ⟨(exception | _) | value, reached⟩
  · exact fun _ => handled exception reached
  · exact fun undefined => absurd rfl undefined
  · exact fun _ => ⟨value, rfl⟩

theorem callHandlerLogged_returns (defined : HandlersDefined config) (call : HandlerCall) :
    (callHandlerLogged config call).Returns :=
  catchAll_returns (defined call) fun _ => returns_pure ()

/-- A logged call of a handler that calls nothing back and is not undefined
behaviour returns. -/
theorem callHandlerLogged_of_silent {call : HandlerCall} {handler : Bridge → Reply Bridge}
    (registered : config.handlers.resolve call = some handler) {world : World Bridge}
    (silent : (handler world.bridge).callbacks = [])
    (defined : (handler world.bridge).outcome ≠ .error .undefinedBehavior) :
    callHandlerLogged config call world =
      (.ok (), { world.recordCall call with bridge := (handler world.bridge).bridge }) := by
  unfold callHandlerLogged
  rw [catchAll_apply, callHandler_of_silent registered silent]
  revert defined
  rcases (handler world.bridge).outcome with (exception | _) | _
  · exact fun _ => rfl
  · exact fun undefined => absurd rfl undefined
  · exact fun _ => rfl

variable {promise : Guarantee (World Bridge)} {hdl : ConnHandle} {client : ClientInfo}
  {world : World Bridge} (defined : HandlersDefined config)

theorem callHandlerLogged_meets {call : HandlerCall}
    (called : (callHandler config call).Meets promise) :
    (callHandlerLogged config call).Meets promise :=
  meets_catchAll called fun _ => meets_pure _

theorem releaseClient_returns (defined : HandlersDefined config) (hdl : ConnHandle)
    (client : ClientInfo) : (releaseClient config hdl client).Returns := by
  apply Action.Returns.bind
  · exact returns_forEach fun channelId _ =>
      .ite (callHandlerLogged_returns defined _) (returns_pure ())
  intro _
  apply Action.Returns.bind (returns_modify _)
  intro _
  apply Action.Returns.bind
  · exact .ite (returns_forEach fun channelId _ => callHandlerLogged_returns defined _)
      (returns_pure ())
  intro _
  apply Action.Returns.bind (returns_gets _)
  intro names
  apply Action.Returns.bind (returns_modify _)
  intro _
  apply Action.Returns.bind (returns_gets _)
  intro paramsToUnsubscribe
  refine .ite (catchAll_returns (defined _) fun _ => ?_) (returns_pure ())
  exact fun world => ⟨(), by rw [sendStatusAndLogMsg_apply]⟩

/-- What a disconnect does before it comes to the parameters. -/
def withdrawChannels (config : Config Bridge) (hdl : ConnHandle) (client : ClientInfo) :
    ServerAction Bridge Unit := do
  unadvertiseChannels config hdl client.advertisedChannels.keys
  modifyServer (Server.eraseClientChannels hdl)
  unsubscribeChannels config hdl client.subscriptionsByChannel.keys

/-- What a disconnect does with the parameters. -/
def withdrawParameters (config : Config Bridge) (hdl : ConnHandle) : ServerAction Bridge Unit := do
  let clientSubscribedParameters ← Action.gets fun world => world.server.paramSubscriptions hdl
  modifyServer (Server.eraseParamSubscriptions hdl)
  unsubscribeParamsWithoutSubscriptions config hdl clientSubscribedParameters.keys

theorem releaseClient_eq (hdl : ConnHandle) (client : ClientInfo) :
    releaseClient config hdl client = (do
      withdrawChannels config hdl client
      withdrawParameters config hdl) := by
  simp [releaseClient, withdrawChannels, withdrawParameters]

theorem withdrawChannels_meets (unadvertised : ∀ channelId ∈ client.advertisedChannels.keys,
      (callHandler config (.clientUnadvertise channelId hdl)).Meets promise)
    (unsubscribed : ∀ channelId ∈ client.subscriptionsByChannel.keys,
      (callHandler config (.unsubscribe channelId hdl)).Meets promise)
    (channels : (modifyServer (Server.eraseClientChannels hdl) :
      ServerAction Bridge Unit).Meets promise) :
    (withdrawChannels config hdl client).Meets promise := by
  apply Meets.bind
  · exact meets_forEach fun channelId member =>
      .ite (callHandlerLogged_meets (unadvertised channelId member)) (meets_pure _)
  intro _
  apply Meets.bind channels
  intro _
  exact .ite (meets_forEach fun channelId member =>
    callHandlerLogged_meets (unsubscribed channelId member)) (meets_pure _)

/-- The promise of a disconnect, from the promises of its parts. -/
theorem releaseClient_meets (unadvertised : ∀ channelId ∈ client.advertisedChannels.keys,
      (callHandler config (.clientUnadvertise channelId hdl)).Meets promise)
    (unsubscribed : ∀ channelId ∈ client.subscriptionsByChannel.keys,
      (callHandler config (.unsubscribe channelId hdl)).Meets promise) (parameters : ∀ names,
      (callHandler config (.parameterSubscription names .unsubscribe hdl)).Meets promise)
    (status : StatusKeeps promise hdl) (channels : (modifyServer (Server.eraseClientChannels hdl) :
      ServerAction Bridge Unit).Meets promise)
    (params : (modifyServer (Server.eraseParamSubscriptions hdl) :
      ServerAction Bridge Unit).Meets promise) :
    (releaseClient config hdl client).Meets promise := by
  rw [releaseClient_eq]
  apply Meets.bind (withdrawChannels_meets unadvertised unsubscribed channels)
  intro _
  apply Meets.bind (meets_gets _)
  intro clientSubscribedParameters
  apply Meets.bind params
  intro _
  exact unsubscribeParams_meets status parameters _

/-- A registered client disconnects: its record is erased, what it left is
released, and the connection graph last. -/
theorem handleConnectionClosed_apply (defined : HandlersDefined config) {world : World Bridge}
    (found : world.server.clients.lookup hdl = some client)
    (released : (releaseClient config hdl client).Meets promise) :
    ∃ reached, promise.rel { world with server := world.server.eraseClient hdl } reached ∧
      handleConnectionClosed config hdl world =
        (if client.subscribedToConnectionGraph then releaseConnectionGraph config
          else pure ()) reached := by
  unfold handleConnectionClosed
  rw [gets_bind_apply, found]
  obtain ⟨_, reached, kept, continued⟩ :=
    (releaseClient_returns defined hdl client).bind_apply released (fun _ =>
      if client.subscribedToConnectionGraph then releaseConnectionGraph config else pure ())
      { world with server := world.server.eraseClient hdl }
  exact ⟨reached, kept, continued⟩

theorem releaseConnectionGraph_meets
    (counted : ∀ change, (modifyServer (Server.addToSubscriptionCount change) :
      ServerAction Bridge Unit).Meets promise)
    (announced : (callHandler config (.subscribeConnectionGraph false)).Meets promise) :
    (releaseConnectionGraph config).Meets promise := by
  apply Meets.bind (counted _)
  intro _
  apply Meets.bind (meets_gets _)
  intro count
  exact .ite (callHandlerLogged_meets announced) (meets_pure _)

/-- The promise of a whole disconnect, from the moment the record is erased. -/
theorem handleConnectionClosed_meets (found : world.server.clients.lookup hdl = some client)
    (released : (releaseClient config hdl client).Meets promise)
    (graph : (releaseConnectionGraph config).Meets promise) :
    promise.rel { world with server := world.server.eraseClient hdl }
      (handleConnectionClosed config hdl world).2 := by
  unfold handleConnectionClosed
  rw [gets_bind_apply, found]
  exact (released.bind fun _ => Meets.ite graph (meets_pure _))
    { world with server := world.server.eraseClient hdl }

theorem handleConnectionClosed_of_none (missing : world.server.clients.lookup hdl = none) :
    handleConnectionClosed config hdl world = (.ok (), world) := by
  unfold handleConnectionClosed
  rw [gets_bind_apply, missing]
  rfl

end

/-!
## What requests other than a login can do

A request sends frames, calls handlers, changes tables other than the one of the
clients, and changes the record of its own client without touching who the client is.
A promise kept by each of these is kept by every request that is no login.
-/

variable {Bridge : Type} {config : Config Bridge} {promise : Guarantee (World Bridge)}
  {hdl : ConnHandle}

/-- Who a client is, and whether it holds the login. -/
def ClientInfo.identity (client : ClientInfo) : String × String × Bool :=
  (client.userName, client.userId, client.login)

/-- The promise is kept by everything a request of a connection consists of. -/
structure KeptByRequests (config : Config Bridge) (promise : Guarantee (World Bridge))
    (hdl : ConnHandle) : Prop where
  sends : ∀ message, (sendJson hdl message : ServerAction Bridge Unit).Meets promise
  calls : ∀ call, (callHandler config call).Meets promise
  tables : ∀ update : Server → Server, (∀ server, (update server).clients = server.clients) →
    (modifyServer update : ServerAction Bridge Unit).Meets promise
  records : ∀ change : ClientInfo → ClientInfo,
    (∀ client, (change client).identity = client.identity) →
    (modifyServer (Server.modifyClient hdl change) : ServerAction Bridge Unit).Meets promise

/-- The promise is kept by everything that requests about parameters, assets and the
connection graph consist of. -/
structure KeptBesidesChannels (config : Config Bridge) (promise : Guarantee (World Bridge))
    (hdl : ConnHandle) : Prop where
  sends : ∀ message, (sendJson hdl message : ServerAction Bridge Unit).Meets promise
  parameterRequest : ∀ names requestId,
    (callHandler config (.parameterRequest names requestId hdl)).Meets promise
  parameterChange : ∀ parameters requestId,
    (callHandler config (.parameterChange parameters requestId hdl)).Meets promise
  parameterSubscription : ∀ names op,
    (callHandler config (.parameterSubscription names op hdl)).Meets promise
  connectionGraph :
    ∀ subscribe, (callHandler config (.subscribeConnectionGraph subscribe)).Meets promise
  fetchAsset : ∀ uri requestId, (callHandler config (.fetchAsset uri requestId hdl)).Meets promise
  tables : ∀ update : Server → Server, (∀ server, (update server).clients = server.clients) →
    (∀ server, (update server).clientChannels = server.clientChannels) →
    (modifyServer update : ServerAction Bridge Unit).Meets promise
  flags : ∀ flag, (modifyServer (Server.modifyClient hdl (.setSubscribedToConnectionGraph flag)) :
    ServerAction Bridge Unit).Meets promise

/-- The operations about channels. -/
def Operation.concernsChannels : Operation → Bool
  | .subscribe | .unsubscribe | .advertise | .unadvertise => true
  | _ => false

namespace KeptBesidesChannels

variable (kept : KeptBesidesChannels config promise hdl)

include kept

theorem status (level : StatusLevel) (text : String) :
    (sendStatusAndLogMsg hdl level text : ServerAction Bridge Unit).Meets promise :=
  kept.sends _

theorem unsubscribeParams (paramNames : List String) :
    (unsubscribeParamsWithoutSubscriptions config hdl paramNames).Meets promise :=
  unsubscribeParams_meets kept.status (fun _ => kept.parameterSubscription _ _) paramNames

theorem counts (change : Int) :
    (modifyServer (.addToSubscriptionCount change) : ServerAction Bridge Unit).Meets promise :=
  kept.tables (.addToSubscriptionCount change) (fun _ => rfl) fun _ => rfl

/-- Every operation that is not about channels and no login keeps the promise. -/
theorem operation {operation : Operation} (noLogin : operation ≠ .login)
    (other : operation.concernsChannels = false) (payload : Json) :
    (handleOperation config operation payload hdl).Meets promise := by
  cases operation with
  | login => exact absurd rfl noLogin
  | subscribe | unsubscribe | advertise | unadvertise => cases other
  | getParameters => exact callWith_meets _ fun _ => kept.parameterRequest _ _
  | setParameters => exact callWith_meets _ fun _ => kept.parameterChange _ _
  | subscribeParameterUpdates =>
    exact handleSubscribeParameterUpdates_meets
      (fun names => kept.tables (.addParamSubscriptions hdl names) (fun _ => rfl) fun _ => rfl)
      (fun _ => kept.parameterSubscription _ _) payload
  | unsubscribeParameterUpdates =>
    exact handleUnsubscribeParameterUpdates_meets
      (fun names => kept.tables (.removeParamSubscriptions hdl names) (fun _ => rfl) fun _ => rfl)
      kept.unsubscribeParams payload
  | subscribeConnectionGraph =>
    exact handleSubscribeConnectionGraph_meets kept.counts kept.connectionGraph
      ((clientAt_meets hdl).bind fun _ => kept.flags true) kept.sends
  | unsubscribeConnectionGraph =>
    exact handleUnsubscribeConnectionGraph_meets kept.counts kept.connectionGraph kept.status
      (kept.flags false)
  | fetchAsset => exact callWith_meets _ fun _ => kept.fetchAsset _ _

end KeptBesidesChannels

namespace KeptByRequests

variable (kept : KeptByRequests config promise hdl)

include kept

theorem status (level : StatusLevel) (text : String) :
    (sendStatusAndLogMsg hdl level text : ServerAction Bridge Unit).Meets promise :=
  kept.sends _

theorem updateClient (change : ClientInfo → ClientInfo)
    (same : ∀ client, (change client).identity = client.identity) :
    (updateClient hdl change : ServerAction Bridge Unit).Meets promise := by
  apply Meets.bind (clientAt_meets hdl)
  intro _
  exact kept.records change same

theorem besidesChannels : KeptBesidesChannels config promise hdl where
  sends := kept.sends
  parameterRequest _ _ := kept.calls _
  parameterChange _ _ := kept.calls _
  parameterSubscription _ _ := kept.calls _
  connectionGraph _ := kept.calls _
  fetchAsset _ _ := kept.calls _
  tables update clients _ := kept.tables update clients
  flags flag := kept.records (.setSubscribedToConnectionGraph flag) fun _ => rfl

/-- Every operation other than a login keeps the promise. -/
theorem operation {operation : Operation} (other : operation ≠ .login) (payload : Json) :
    (handleOperation config operation payload hdl).Meets promise := by
  cases operation with
  | login => exact absurd rfl other
  | subscribe =>
    refine handleSubscribe_meets ?_ payload
    exact subscribeEntry_meets kept.status (fun _ => kept.calls _) fun channelId subId =>
      kept.updateClient (.addSubscription channelId subId) fun _ => rfl
  | unsubscribe =>
    refine handleUnsubscribe_meets ?_ payload
    exact unsubscribeEntry_meets kept.status (fun _ => kept.calls _) fun channelId =>
      kept.updateClient (.removeSubscription channelId) fun _ => rfl
  | advertise =>
    refine handleAdvertise_meets (kept.tables (.openPublications hdl) fun _ => rfl)
      (advertiseEntry_meets ?_) payload
    exact advertiseChannel_meets kept.status (fun _ => kept.calls _)
      (fun channelId => kept.updateClient (.addAdvertisedChannel channelId) fun _ => rfl)
      fun change => kept.tables (.modifyPublications hdl change) fun _ => rfl
  | unadvertise =>
    refine handleUnadvertise_meets kept.status ?_ payload
    exact unadvertiseEntry_meets (fun _ => kept.calls _)
      (fun channelId => kept.updateClient (.removeAdvertisedChannel channelId) fun _ => rfl)
      fun change => kept.tables (.modifyPublications hdl change) fun _ => rfl
  | _ => exact kept.besidesChannels.operation other rfl payload

/-- A message that is no login keeps the promise. -/
theorem message {frame : ClientFrame} (world : World Bridge)
    (other : ∀ payload, frame.request? config ≠ some (.login, payload)) :
    promise.rel world (handleMessage config hdl frame world).2 := by
  refine handleMessage_rel kept.status ?_ (fun _ => kept.calls _) fun _ => kept.calls _
  intro operation payload requested
  have noLogin : operation ≠ .login := by
    rintro rfl
    exact other payload requested
  exact kept.operation noLogin payload world

/-- A disconnect keeps the promise once the client's record is erased. -/
theorem disconnect {client : ClientInfo} {world : World Bridge}
    (found : world.server.clients.lookup hdl = some client) :
    promise.rel { world with server := world.server.eraseClient hdl }
      (handleConnectionClosed config hdl world).2 := by
  apply handleConnectionClosed_meets found
  · exact releaseClient_meets (fun _ _ => kept.calls _) (fun _ _ => kept.calls _)
      (fun _ => kept.calls _) kept.status (kept.tables (.eraseClientChannels hdl) fun _ => rfl)
      (kept.tables (.eraseParamSubscriptions hdl) fun _ => rfl)
  · exact releaseConnectionGraph_meets
      (fun change => kept.tables (.addToSubscriptionCount change) fun _ => rfl) (kept.calls _)

end KeptByRequests

/-- The identities of the registered clients. -/
def World.identities (world : World Bridge) (hdl : ConnHandle) : Option (String × String × Bool) :=
  (world.server.clients.lookup hdl).map ClientInfo.identity

/-- Requests other than a login leave the identities of all clients alone. -/
theorem identities_kept (config : Config Bridge) (hdl : ConnHandle) :
    KeptByRequests config (.frame World.identities) hdl where
  sends := by
    intro message world
    rw [sendJson_apply]
    change (world.enqueue hdl message).identities = world.identities
    unfold World.identities
    rw [World.enqueue_server]
  calls := by
    intro call world
    have clients := callHandler_frame Server.clients (fun _ => rfl) config call world
    change (callHandler config call world).2.identities = world.identities
    unfold World.identities
    rw [show (callHandler config call world).2.server.clients = world.server.clients from clients]
  tables := by
    intro update same
    apply meets_modify
    intro world
    change World.identities { world with server := update world.server } = world.identities
    unfold World.identities
    rw [same]
  records := by
    intro change same
    apply meets_modify
    intro world
    funext other
    unfold Server.modifyClient World.identities
    rw [Table.lookup_modify]
    split
    · subst other
      rw [Option.map_map]
      exact congrArg (Option.map · _) (funext same)
    · rfl

end CoBridge

import CoBridge.Server.Handlers

/-!
# Adding and removing channels

Both calls update the channel table in one critical section and tell the
clients in a second one. The sections are functions of their own, so the
concurrent models run the same code step by step.
-/

namespace CoBridge

open Library Action

section

variable {Bridge : Type}
variable (hdls : List ConnHandle) (message : ServerMessage) (world : World Bridge)

/-- Allocate an id for each channel and enter it into the table. An id that comes
round again after the counter wrapped does not replace the entry it meets. -/
def Server.registerChannels : List ChannelWithoutId → Server → List Channel × Server
  | [], server => ([], server)
  | channel :: rest, server =>
    let newId := server.nextChannelId + 1
    let newChannel : Channel := { channel with id := newId }
    let (channels, reached) := Server.registerChannels rest
      { server with
        nextChannelId := newId
        channels := server.channels.emplace newId newChannel }
    (newChannel :: channels, reached)

/-- The section of `removeChannels` under the channels lock. -/
def Server.eraseChannels (channelIds : List ChannelId) (server : Server) : Server :=
  { server with channels := server.channels.eraseAll channelIds }

/-- Forget the client's subscriptions to the listed channels. -/
def ClientInfo.dropChannels (channelIds : List ChannelId) (client : ClientInfo) : ClientInfo :=
  { client with subscriptionsByChannel := client.subscriptionsByChannel.eraseAll channelIds }

def Server.dropChannels (channelIds : List ChannelId) (server : Server) : Server :=
  { server with
    clients := server.clients.mapWithKey fun _ client => client.dropChannels channelIds }

/-- Send one message to every client, under the clients lock. -/
def broadcast (message : ServerMessage) : ServerAction Bridge Unit := do
  let hdls ← Action.gets fun world => world.server.clients.keys
  Action.forEach hdls fun hdl => sendRawJson hdl message

/-- The section of `removeChannels` under the clients lock. -/
def announceRemoval (channelIds : List ChannelId) : ServerAction Bridge Unit := do
  modifyServer (Server.dropChannels channelIds)
  broadcast (.unadvertise channelIds)

/-- The strings of a channel that go into a message. -/
def ChannelWithoutId.texts (channel : ChannelWithoutId) : List String :=
  [channel.topic, channel.encoding, channel.schemaName, channel.schema] ++
    channel.schemaEncoding.toList

/-- Write the message that advertises channels. A schema is the contents of a file,
so it need not be text. -/
def dumpChannels (check : TextCheck) (channels : List Channel) : Except Exception Unit :=
  dumpTexts check (channels.flatMap fun channel => channel.toChannelWithoutId.texts)

/-- The section of `addChannels` under the channels lock. -/
def registerChannels (channels : List ChannelWithoutId) :
    ServerAction Bridge (List Channel) := do
  let newChannels ← Action.gets fun world => (world.server.registerChannels channels).1
  modifyServer fun server => (server.registerChannels channels).2
  pure newChannels

/-- The rest of `addChannels`: the message is written before the clients lock is taken. -/
def announceChannels (check : TextCheck) (newChannels : List Channel) :
    ServerAction Bridge (List ChannelId) := do
  Action.ofExcept ((dumpChannels check newChannels).mapError .raised)
  broadcast (.advertise newChannels)
  pure (newChannels.map Channel.id)

def addChannels (check : TextCheck) (channels : List ChannelWithoutId) :
    ServerAction Bridge (List ChannelId) := do
  if channels.isEmpty then
    pure []
  else
    let newChannels ← registerChannels channels
    announceChannels check newChannels

def removeChannels (channelIds : List ChannelId) : ServerAction Bridge Unit := do
  if channelIds.isEmpty then
    pure ()
  else
    modifyServer (Server.eraseChannels channelIds)
    announceRemoval channelIds

/-- A data frame for a subscribed client whose connection still resolves. -/
def sendMessage (clientHandle : ConnHandle) (chanId : ChannelId) (timestamp : UInt64)
    (payload : List UInt8) : ServerAction Bridge Unit := do
  let link ← Action.gets fun world => world.link clientHandle
  if link = .gone then
    pure ()
  else
    match ← Action.gets fun world => world.server.clients.lookup clientHandle with
    | none => pure ()
    | some client =>
      match client.subscriptionsByChannel.lookup chanId with
      | none => pure ()
      | some subId => conSend clientHandle (.messageData subId timestamp payload)

/-- The frames enqueued on one connection, oldest first. -/
def World.sentTo (world : World Bridge) (hdl : ConnHandle) : List ServerMessage :=
  world.sent.filterMap fun frame => if frame.1 = hdl then some frame.2 else none

theorem World.sentTo_enqueue (hdl other : ConnHandle) (message : ServerMessage) :
    (world.enqueue hdl message).sentTo other =
      world.sentTo other ++
        if hdl = other ∧ world.link hdl = .established then [message] else [] := by
  unfold World.enqueue World.sentTo
  by_cases established : world.link hdl = .established
  · by_cases same : hdl = other
    · subst same
      simp [established]
    · simp [established, same]
  · simp [established]

/-- The world after one message was enqueued on each connection of a list. -/
def World.enqueueAll (world : World Bridge) (hdls : List ConnHandle) (message : ServerMessage) :
    World Bridge :=
  hdls.foldl (fun reached hdl => reached.enqueue hdl message) world

theorem forEach_sendRawJson_apply :
    Action.forEach hdls (fun hdl => sendRawJson hdl message) world =
      (.ok (), world.enqueueAll hdls message) := by
  induction hdls generalizing world with
  | nil => rfl
  | cons hdl rest ih =>
    rw [forEach_cons, bind_ok (sendRawJson_apply hdl message world)]
    exact ih _

@[simp] theorem broadcast_apply :
    broadcast message world = (.ok (), world.enqueueAll world.server.clients.keys message) := by
  unfold broadcast
  exact forEach_sendRawJson_apply _ message world

/-- Enqueueing frames changes nothing but the frames. -/
theorem World.enqueueAll_eq :
    ∃ sent, world.enqueueAll hdls message = { world with sent := sent } := by
  induction hdls generalizing world with
  | nil => exact ⟨world.sent, rfl⟩
  | cons hdl rest ih =>
    obtain ⟨sent, reached⟩ := ih (world.enqueue hdl message)
    refine ⟨sent, ?_⟩
    change (world.enqueue hdl message).enqueueAll rest message = _
    rw [reached]
    unfold World.enqueue
    split <;> rfl

@[simp] theorem World.enqueueAll_server :
    (world.enqueueAll hdls message).server = world.server := by
  obtain ⟨sent, same⟩ := world.enqueueAll_eq hdls message
  rw [same]

@[simp] theorem World.enqueueAll_bridge :
    (world.enqueueAll hdls message).bridge = world.bridge := by
  obtain ⟨sent, same⟩ := world.enqueueAll_eq hdls message
  rw [same]

@[simp] theorem World.enqueueAll_link : (world.enqueueAll hdls message).link = world.link := by
  obtain ⟨sent, same⟩ := world.enqueueAll_eq hdls message
  rw [same]

/-- Frames are enqueued without a look at the tables. -/
theorem World.enqueueAll_setServer (hdls : List ConnHandle) (message : ServerMessage)
    (server : Server) (world : World Bridge) :
    World.enqueueAll { world with server := server } hdls message =
      { world.enqueueAll hdls message with server := server } := by
  induction hdls generalizing world with
  | nil => rfl
  | cons hdl rest ih =>
    have first : World.enqueue { world with server := server } hdl message =
        { world.enqueue hdl message with server := server } := by
      unfold World.enqueue
      split <;> rfl
    change World.enqueueAll (World.enqueue { world with server := server } hdl message) rest
      message = _
    rw [first]
    exact ih (world.enqueue hdl message)

/-- Each listed connection that can still be written to gets the message once. -/
theorem World.sentTo_enqueueAll {hdls : List ConnHandle} (nodup : hdls.Nodup)
    (message : ServerMessage) (world : World Bridge) (other : ConnHandle) :
    (world.enqueueAll hdls message).sentTo other =
      world.sentTo other ++
        if other ∈ hdls ∧ world.link other = .established then [message] else [] := by
  induction hdls generalizing world with
  | nil => simp [World.enqueueAll]
  | cons hdl rest ih =>
    obtain ⟨fresh, restNodup⟩ := List.nodup_cons.mp nodup
    change ((world.enqueue hdl message).enqueueAll rest message).sentTo other = _
    rw [ih restNodup, World.sentTo_enqueue, World.enqueue_link, List.append_assoc]
    congr 1
    by_cases same : hdl = other
    · subst hdl
      simp [fresh]
    · simp [same, Ne.symm same]

/-- Registering channels touches only the channel table and its counter. -/
theorem Server.registerChannels_eq (channels : List ChannelWithoutId) (server : Server) :
    ∃ nextChannelId table, (server.registerChannels channels).2 =
      { server with nextChannelId := nextChannelId, channels := table } := by
  induction channels generalizing server with
  | nil => exact ⟨server.nextChannelId, server.channels, rfl⟩
  | cons channel rest ih =>
    obtain ⟨nextChannelId, table, registered⟩ := ih
      { server with
        nextChannelId := server.nextChannelId + 1
        channels := server.channels.emplace (server.nextChannelId + 1)
          { channel with id := server.nextChannelId + 1 } }
    exact ⟨nextChannelId, table, registered⟩

@[simp] theorem Server.registerChannels_clients (channels : List ChannelWithoutId)
    (server : Server) : (server.registerChannels channels).2.clients = server.clients := by
  obtain ⟨_, _, registered⟩ := server.registerChannels_eq channels
  rw [registered]

/-- What is registered are the channels, with their ids. -/
theorem Server.registerChannels_fst (channels : List ChannelWithoutId) (server : Server) :
    (server.registerChannels channels).1.map Channel.toChannelWithoutId = channels := by
  induction channels generalizing server with
  | nil => rfl
  | cons channel rest ih => exact congrArg (channel :: ·) (ih _)

/-- Channels whose strings can be written are registered and announced. -/
theorem addChannels_apply {check : TextCheck} {channels : List ChannelWithoutId}
    (some : channels ≠ [])
    (written : dumpTexts check (channels.flatMap ChannelWithoutId.texts) = .ok ())
    (world : World Bridge) :
    addChannels check channels world =
      (.ok ((world.server.registerChannels channels).1.map Channel.id),
        { world with server := (world.server.registerChannels channels).2 }.enqueueAll
          world.server.clients.keys (.advertise (world.server.registerChannels channels).1)) := by
  have dumped : dumpChannels check (world.server.registerChannels channels).1 = .ok () := by
    rw [dumpChannels, ← List.flatMap_map, Server.registerChannels_fst, written]
  have registers : registerChannels channels world =
      (.ok (world.server.registerChannels channels).1,
        { world with server := (world.server.registerChannels channels).2 }) := rfl
  rw [addChannels, if_neg (by simpa using some), bind_ok registers, announceChannels, dumped,
    Except.mapError, ofExcept_ok_bind_apply, bind_ok (broadcast_apply _ _)]
  simp

/-- What registering channels and sending frames keep, `addChannels` keeps, whether or
not the message can be written. -/
theorem addChannels_meets {promise : Guarantee (World Bridge)} (check : TextCheck)
    (channels : List ChannelWithoutId)
    (registers : ∀ world : World Bridge, promise.rel world
      { world with server := (world.server.registerChannels channels).2 })
    (sends : ∀ message, (broadcast message : ServerAction Bridge Unit).Meets promise) :
    (addChannels check channels : ServerAction Bridge _).Meets promise := by
  apply Meets.ite (meets_pure _)
  have registered : (registerChannels channels : ServerAction Bridge _).Meets promise := registers
  apply registered.bind
  intro newChannels
  apply Meets.bind (meets_ofExcept _)
  intro _
  exact (sends _).bind fun _ => meets_pure _

theorem removeChannels_apply {channelIds : List ChannelId} (some : channelIds ≠ [])
    (world : World Bridge) :
    removeChannels channelIds world =
      (.ok (), { world with
        server := (world.server.eraseChannels channelIds).dropChannels channelIds }.enqueueAll
          ((world.server.eraseChannels channelIds).dropChannels channelIds).clients.keys
          (.unadvertise channelIds)) := by
  unfold removeChannels announceRemoval
  rw [if_neg (by simpa using some), modifyServer_bind_apply, modifyServer_bind_apply,
    broadcast_apply]

end

/-!
## Adding and removing services

Unlike the channels, services are entered and announced in one critical section.
Removing tells the clients about the services that were there.
-/

variable {Bridge : Type}

/-- Allocate an id for each service and enter it into the table. -/
def Server.registerServices : List ServiceWithoutId → Server → List Service × Server
  | [], server => ([], server)
  | service :: rest, server =>
    let serviceId := server.nextServiceId + 1
    let (services, reached) := Server.registerServices rest
      { server with
        nextServiceId := serviceId
        services := server.services.emplace serviceId service }
    ({ service with id := serviceId } :: services, reached)

/-- The strings of a service that go into a message. -/
def ServiceWithoutId.texts (service : ServiceWithoutId) : List String :=
  [service.name, service.type, service.requestSchema, service.responseSchema]

def addServices (check : TextCheck) (services : List ServiceWithoutId) :
    ServerAction Bridge (List ServiceId) := do
  if services.isEmpty then
    pure []
  else
    let newServices ← Action.gets fun world => (world.server.registerServices services).1
    modifyServer fun server => (server.registerServices services).2
    Action.ofExcept ((dumpTexts check (services.flatMap ServiceWithoutId.texts)).mapError .raised)
    broadcast (.advertiseServices newServices)
    pure (newServices.map Service.id)

/-- Erase the listed services, and list those that were there. -/
def Server.eraseServices : List ServiceId → Server → List ServiceId × Server
  | [], server => ([], server)
  | serviceId :: rest, server =>
    if serviceId ∈ server.services then
      let (removed, reached) := Server.eraseServices rest
        { server with services := server.services.erase serviceId }
      (serviceId :: removed, reached)
    else
      Server.eraseServices rest server

def removeServices (serviceIds : List ServiceId) : ServerAction Bridge Unit := do
  let removedServices ← Action.gets fun world => (world.server.eraseServices serviceIds).1
  modifyServer fun server => (server.eraseServices serviceIds).2
  if removedServices.isEmpty then
    pure ()
  else
    broadcast (.unadvertiseServices removedServices)

/-- Erasing services touches only their table. -/
theorem Server.eraseServices_snd (serviceIds : List ServiceId) (server : Server) :
    (server.eraseServices serviceIds).2 =
      { server with services := server.services.eraseAll serviceIds } := by
  induction serviceIds generalizing server with
  | nil => rfl
  | cons serviceId rest ih =>
    rw [Server.eraseServices]
    split
    · exact ih _
    · next absent =>
      have same : server.services.erase serviceId = server.services :=
        AList.ext (List.kerase_of_notMem_keys absent)
      rw [ih server]
      change _ = { server with
        services := Table.eraseAll rest (server.services.erase serviceId) }
      rw [same]

/-- The world after a removal differs in the services and the frames. -/
theorem removeServices_apply (serviceIds : List ServiceId) (world : World Bridge) :
    ∃ hdls message, removeServices serviceIds world =
      (.ok (), { world with
        server := { world.server with
          services := world.server.services.eraseAll serviceIds } }.enqueueAll hdls message) := by
  rw [removeServices, gets_bind_apply, modifyServer_bind_apply,
    Server.eraseServices_snd]
  split
  · exact ⟨[], .unadvertiseServices [], rfl⟩
  · exact ⟨_, _, broadcast_apply _ _⟩

theorem addServices_apply {check : TextCheck} {services : List ServiceWithoutId}
    (some : services ≠ [])
    (written : dumpTexts check (services.flatMap ServiceWithoutId.texts) = .ok ())
    (world : World Bridge) :
    addServices check services world =
      (.ok ((world.server.registerServices services).1.map Service.id),
        { world with server := (world.server.registerServices services).2 }.enqueueAll
          (world.server.registerServices services).2.clients.keys
          (.advertiseServices (world.server.registerServices services).1)) := by
  rw [addServices, if_neg (by simpa using some), gets_bind_apply, modifyServer_bind_apply,
    written, Except.mapError, ofExcept_ok_bind_apply, bind_ok (broadcast_apply _ _)]
  rfl

end CoBridge

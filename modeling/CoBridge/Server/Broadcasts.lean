import CoBridge.Server.GraphUpdates

/-!
# Broadcasts and the clients that are left out

The broadcasts that catch the exceptions of each send do not notice clients that no
frame can reach: they do the same when such clients are not registered. The
connection graph is sent without catching, up to the first subscriber whose
connection is not established.
-/

namespace CoBridge

open Library Action

variable {Bridge : Type} {keep : ConnHandle → Bool} {world : World Bridge}

def sendBinary (hdl : ConnHandle) (message : ServerMessage) : ServerAction Bridge Unit :=
  catchAll (do getConFromHdl hdl; conSend hdl message) fun _ => pure ()

/-- Send the time to every client, under the clients lock. -/
def broadcastTime (timestamp : UInt64) : ServerAction Bridge Unit := do
  let hdls ← Action.gets fun world => world.server.clients.keys
  Action.forEach hdls fun hdl => sendBinary hdl (.time timestamp)

/-- The server without the clients that are not kept. -/
def Server.restrictClients (keep : ConnHandle → Bool) (server : Server) : Server :=
  { server with clients := server.clients.restrict keep }

def World.restrictClients (keep : ConnHandle → Bool) (world : World Bridge) : World Bridge :=
  { world with server := world.server.restrictClients keep }

/-- Every client that is not kept is out of reach. -/
def OutOfReach (keep : ConnHandle → Bool) (world : World Bridge) : Prop :=
  ∀ hdl, keep hdl = false → world.link hdl ≠ .established

theorem World.enqueueAll_filter (outOfReach : OutOfReach keep world) (hdls : List ConnHandle)
    (message : ServerMessage) :
    world.enqueueAll (hdls.filter keep) message = world.enqueueAll hdls message := by
  induction hdls generalizing world with
  | nil => rfl
  | cons hdl rest ih =>
    have still : OutOfReach keep (world.enqueue hdl message) := by
      intro other left
      rw [World.enqueue_link]
      exact outOfReach other left
    cases kept : keep hdl with
    | true =>
      rw [List.filter_cons_of_pos kept]
      exact ih still
    | false =>
      have unsent : world.enqueue hdl message = world := if_neg (outOfReach hdl kept)
      rw [List.filter_cons_of_neg (by simp [kept])]
      change _ = (world.enqueue hdl message).enqueueAll rest message
      rw [unsent]
      exact ih outOfReach

/-- A broadcast does not notice clients that are out of reach. -/
theorem broadcast_commutes (outOfReach : OutOfReach keep world) (message : ServerMessage) :
    (broadcast message).CommutesAt (World.restrictClients keep) world := by
  have keys : (world.restrictClients keep).server.clients.keys =
      world.server.clients.keys.filter keep := Table.keys_restrict keep world.server.clients
  rw [Action.CommutesAt, broadcast_apply, broadcast_apply, keys, World.restrictClients,
    World.enqueueAll_setServer, World.enqueueAll_filter outOfReach, World.restrictClients,
    World.enqueueAll_server]

theorem modifyServer_commutes {update : Server → Server}
    (same : ∀ server : Server, update (server.restrictClients keep) =
      (update server).restrictClients keep) :
    (modifyServer update : ServerAction Bridge Unit).CommutesAt
      (World.restrictClients keep) world := by
  apply commutesAt_modify
  simp only [World.restrictClients, same]

theorem Server.registerChannels_restrictClients (channels : List ChannelWithoutId)
    (server : Server) :
    (server.restrictClients keep).registerChannels channels =
      ((server.registerChannels channels).1,
        (server.registerChannels channels).2.restrictClients keep) := by
  induction channels generalizing server with
  | nil => rfl
  | cons channel rest ih =>
    let entered : Server := { server with
      nextChannelId := server.nextChannelId + 1
      channels := server.channels.emplace (server.nextChannelId + 1)
        { channel with id := server.nextChannelId + 1 } }
    have later := ih entered
    exact congrArg (fun result => (_ :: result.1, result.2)) later

/-- Writing a message and sending it to the clients. -/
theorem announce_commutes {Value : Type} (outOfReach : OutOfReach keep world)
    (dumped : Except Fault Unit) (message : ServerMessage) (value : Value) :
    (Action.ofExcept dumped >>= fun _ => broadcast message >>= fun _ => pure value :
      ServerAction Bridge Value).CommutesAt (World.restrictClients keep) world := by
  apply Action.CommutesAt.bind (commutesAt_ofExcept _)
  intro _ reached written
  obtain rfl : _ = reached := congrArg Prod.snd written
  apply Action.CommutesAt.bind (broadcast_commutes outOfReach message)
  exact fun _ _ _ => commutesAt_pure _

theorem addChannels_commutes (outOfReach : OutOfReach keep world) (check : TextCheck)
    (channels : List ChannelWithoutId) :
    (addChannels check channels).CommutesAt (World.restrictClients keep) world := by
  apply Action.CommutesAt.ite (commutesAt_pure _)
  apply Action.CommutesAt.bind
  · apply Action.CommutesAt.bind
    · apply commutesAt_gets
      change ((world.server.restrictClients keep).registerChannels channels).1 = _
      rw [Server.registerChannels_restrictClients]
    rintro newChannels _ ⟨⟩
    apply Action.CommutesAt.bind
    · apply modifyServer_commutes
      intro server
      rw [Server.registerChannels_restrictClients]
    exact fun _ _ _ => commutesAt_pure _
  rintro newChannels _ ⟨⟩
  apply announce_commutes
  exact outOfReach

theorem Server.registerServices_restrictClients (services : List ServiceWithoutId)
    (server : Server) :
    (server.restrictClients keep).registerServices services =
      ((server.registerServices services).1,
        (server.registerServices services).2.restrictClients keep) := by
  induction services generalizing server with
  | nil => rfl
  | cons service rest ih =>
    let entered : Server := { server with
      nextServiceId := server.nextServiceId + 1
      services := server.services.emplace (server.nextServiceId + 1) service }
    have later := ih entered
    exact congrArg (fun result => (_ :: result.1, result.2)) later

theorem addServices_commutes (outOfReach : OutOfReach keep world) (check : TextCheck)
    (services : List ServiceWithoutId) :
    (addServices check services).CommutesAt (World.restrictClients keep) world := by
  apply Action.CommutesAt.ite (commutesAt_pure _)
  apply Action.CommutesAt.bind
  · apply commutesAt_gets
    change ((world.server.restrictClients keep).registerServices services).1 = _
    rw [Server.registerServices_restrictClients]
  rintro newServices _ ⟨⟩
  apply Action.CommutesAt.bind
  · apply modifyServer_commutes
    intro server
    rw [Server.registerServices_restrictClients]
  rintro _ _ ⟨⟩
  apply announce_commutes
  exact outOfReach

theorem Server.eraseServices_restrictClients (serviceIds : List ServiceId) (server : Server) :
    (server.restrictClients keep).eraseServices serviceIds =
      ((server.eraseServices serviceIds).1,
        (server.eraseServices serviceIds).2.restrictClients keep) := by
  induction serviceIds generalizing server with
  | nil => rfl
  | cons serviceId rest ih =>
    have later := ih
      { server with services := server.services.erase serviceId }
    simp only [Server.eraseServices]
    by_cases present : serviceId ∈ server.services
    · rw [if_pos present, if_pos (show serviceId ∈ (server.restrictClients keep).services
        from present)]
      exact congrArg (fun result => (serviceId :: result.1, result.2)) later
    · rw [if_neg present, if_neg (show serviceId ∉ (server.restrictClients keep).services
        from present)]
      exact ih server

theorem removeServices_commutes (outOfReach : OutOfReach keep world)
    (serviceIds : List ServiceId) :
    (removeServices serviceIds).CommutesAt (World.restrictClients keep) world := by
  apply Action.CommutesAt.bind
  · apply commutesAt_gets
    change ((world.server.restrictClients keep).eraseServices serviceIds).1 = _
    rw [Server.eraseServices_restrictClients]
  rintro removedServices _ ⟨⟩
  apply Action.CommutesAt.bind
  · apply modifyServer_commutes
    intro server
    rw [Server.eraseServices_restrictClients]
  rintro _ _ ⟨⟩
  apply Action.CommutesAt.ite (commutesAt_pure _)
  apply broadcast_commutes
  exact outOfReach

section ConnectionGraph

/-- Frames can be enqueued on the connection. -/
def World.established (world : World Bridge) (hdl : ConnHandle) : Bool :=
  world.link hdl = .established

/-- How a loop of `serverSend` ends, given the first connection that is not established. -/
def World.sendOutcome (world : World Bridge) : Option ConnHandle → Except Fault Unit
  | none => .ok ()
  | some hdl => .error (.raised (.std
      (if world.link hdl = .gone then "Bad Connection" else "invalid state")))

/-- The loop sends up to the first connection that is not established. -/
theorem forEach_serverSend_eq (hdls : List ConnHandle) (message : ServerMessage)
    (world : World Bridge) :
    Action.forEach hdls (fun hdl => serverSend hdl message) world =
      (world.sendOutcome (hdls.dropWhile world.established).head?,
        world.enqueueAll (hdls.takeWhile world.established) message) := by
  induction hdls generalizing world with
  | nil => rfl
  | cons hdl rest ih =>
    by_cases reached : world.link hdl = .established
    · have sent : serverSend hdl message world = (.ok (), world.enqueue hdl message) := by
        rw [serverSend_apply, reached]
      have same : (world.enqueue hdl message).established = world.established := by
        unfold World.established
        rw [World.enqueue_link]
      have outcome : (world.enqueue hdl message).sendOutcome = world.sendOutcome := by
        funext first
        cases first with
        | none => rfl
        | some other => rw [World.sendOutcome, World.sendOutcome, World.enqueue_link]
      have isOpen : world.established hdl = true := decide_eq_true reached
      rw [forEach_cons, bind_ok sent]
      rw [ih, same, outcome, List.dropWhile_cons_of_pos isOpen,
        List.takeWhile_cons_of_pos isOpen]
      rfl
    · have shut : ¬ world.established hdl = true := by simpa [World.established] using reached
      have failed : serverSend hdl message world = (world.sendOutcome (some hdl), world) := by
        rw [serverSend_apply, World.sendOutcome]
        revert reached
        cases world.link hdl with
        | established => exact fun reached => absurd rfl reached
        | closing => exact fun _ => rfl
        | gone => exact fun _ => rfl
      rw [forEach_cons, List.dropWhile_cons_of_neg shut, List.takeWhile_cons_of_neg shut]
      exact bind_error failed

theorem Server.graphSubscribers_restrictClients (keep : ConnHandle → Bool) (server : Server) :
    (server.restrictClients keep).graphSubscribers = server.graphSubscribers.filter keep := by
  change ((server.clients.entries.filter _).filter _).map _ = _
  rw [List.filter_comm, Server.graphSubscribers, List.filter_map]
  rfl

/-- An update that changes something goes to the subscribers up to the first whose
connection is not established. -/
theorem updateConnectionGraph_apply (graph : ConnectionGraph) (world : World Bridge) :
    updateConnectionGraph graph world =
      if (world.server.connectionGraph.diff graph).isEmpty then
        (.ok (), { world with server := world.server.storeGraph graph })
      else
        (world.sendOutcome (world.server.graphSubscribers.dropWhile world.established).head?,
          { world.enqueueAll (world.server.graphSubscribers.takeWhile world.established)
              (.connectionGraphUpdate (world.server.connectionGraph.diff graph)) with
            server := world.server.storeGraph graph }) := by
  rw [updateConnectionGraph, gets_bind_apply, modifyServer_bind_apply]
  split
  · rfl
  · rw [gets_bind_apply, forEach_serverSend_eq, World.enqueueAll_setServer]
    rfl

end ConnectionGraph

end CoBridge

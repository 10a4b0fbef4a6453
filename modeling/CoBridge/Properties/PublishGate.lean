import CoBridge.Library.Transition
import CoBridge.Server.OperationEffects

/-!
# What happens to client publications

A bridge of any kind is extended by a record of what its handlers accepted and of
the client messages they were given. The run adds the requests, logins and
disconnects, so that the record is a history of the server as a whole.
-/

namespace CoBridge

open Library

section

variable {Bridge : Type}

inductive Occurrence where
  /-- An advertise request arrived. -/
  | request (payload : Json) (hdl : ConnHandle)
  /-- The connection became a registered client. -/
  | loggedIn (hdl : ConnHandle)
  /-- The bridge accepted the advertisement. -/
  | advertised (advertisement : ClientAdvertisement) (hdl : ConnHandle)
  /-- The bridge accepted the withdrawal. -/
  | unadvertised (channelId : ClientChannelId) (hdl : ConnHandle)
  /-- The client message handler was invoked. -/
  | message (message : ClientMessage) (hdl : ConnHandle)
  /-- The connection was closed. -/
  | closed (hdl : ConnHandle)

/-- What a call leaves in the record, depending on its outcome. -/
def HandlerCall.occurrences : HandlerCall → Except Fault Unit → List Occurrence
  | .clientAdvertise advertisement hdl, .ok () => [.advertised advertisement hdl]
  | .clientUnadvertise channelId hdl, .ok () => [.unadvertised channelId hdl]
  | .clientMessage message hdl, _ => [.message message hdl]
  | _, _ => []

/-- A bridge with its record. -/
structure Recorded (Bridge : Type) where
  bridge : Bridge
  trace : List Occurrence

/-- A handler that also records what it did. -/
def recordReply (call : HandlerCall) (handler : Bridge → Reply Bridge)
    (recorded : Recorded Bridge) :
    Reply (Recorded Bridge) :=
  let reply := handler recorded.bridge
  ⟨reply.callbacks, reply.outcome, ⟨reply.bridge, recorded.trace ++ call.occurrences reply.outcome⟩⟩

def ServerHandlers.recording (handlers : ServerHandlers Bridge) :
    ServerHandlers (Recorded Bridge) where
  subscribeHandler := handlers.subscribeHandler.map fun handler channelId hdl =>
    recordReply (.subscribe channelId hdl) (handler channelId hdl)
  unsubscribeHandler := handlers.unsubscribeHandler.map fun handler channelId hdl =>
    recordReply (.unsubscribe channelId hdl) (handler channelId hdl)
  clientAdvertiseHandler := handlers.clientAdvertiseHandler.map fun handler advertisement hdl =>
    recordReply (.clientAdvertise advertisement hdl) (handler advertisement hdl)
  clientUnadvertiseHandler := handlers.clientUnadvertiseHandler.map fun handler channelId hdl =>
    recordReply (.clientUnadvertise channelId hdl) (handler channelId hdl)
  clientMessageHandler := handlers.clientMessageHandler.map fun handler message hdl =>
    recordReply (.clientMessage message hdl) (handler message hdl)
  parameterRequestHandler := handlers.parameterRequestHandler.map fun handler names requestId hdl =>
    recordReply (.parameterRequest names requestId hdl) (handler names requestId hdl)
  parameterChangeHandler :=
    handlers.parameterChangeHandler.map fun handler parameters requestId hdl =>
    recordReply (.parameterChange parameters requestId hdl) (handler parameters requestId hdl)
  parameterSubscriptionHandler :=
    handlers.parameterSubscriptionHandler.map fun handler names op hdl =>
    recordReply (.parameterSubscription names op hdl) (handler names op hdl)
  serviceRequestHandler := handlers.serviceRequestHandler.map fun handler request hdl =>
    recordReply (.serviceRequest request hdl) (handler request hdl)
  subscribeConnectionGraphHandler :=
    handlers.subscribeConnectionGraphHandler.map fun handler subscribe =>
    recordReply (.subscribeConnectionGraph subscribe) (handler subscribe)
  fetchAssetHandler := handlers.fetchAssetHandler.map fun handler uri requestId hdl =>
    recordReply (.fetchAsset uri requestId hdl) (handler uri requestId hdl)

theorem ServerHandlers.resolve_recording (handlers : ServerHandlers Bridge) (call : HandlerCall) :
    handlers.recording.resolve call = (handlers.resolve call).map (recordReply call) := by
  cases call <;> simp only [ServerHandlers.resolve,
    ServerHandlers.recording, Option.map_map] <;> rfl

/-- The same server over the bridge with its record. -/
def Config.recording (config : Config Bridge) : Config (Recorded Bridge) where
  name := config.name
  options := config.options
  handlers := config.handlers.recording
  parse := config.parse
  dump := config.dump
  char := config.char

/-- Add to the record. -/
def World.note (world : World (Recorded Bridge)) (occurrence : Occurrence) :
    World (Recorded Bridge) :=
  { world with bridge := { world.bridge with trace := world.bridge.trace ++ [occurrence] } }

/-- What publishing is about: the clients, their publications and the record. -/
def World.publishView (world : World (Recorded Bridge)) : Table ConnHandle ClientInfo ×
    Table ConnHandle (Table ClientChannelId ClientAdvertisement) × List Occurrence :=
  (world.server.clients, world.server.clientChannels, world.bridge.trace)

@[simp] theorem World.enqueue_publishView (world : World (Recorded Bridge)) (hdl : ConnHandle)
    (message : ServerMessage) : (world.enqueue hdl message).publishView = world.publishView := by
  simp [World.publishView]

section Calls

variable {config : Config Bridge}
variable {call : HandlerCall}

/-- A registered call extends the record by what it left. -/
theorem callHandler_publishView {handler : Bridge → Reply Bridge}
    (registered : config.handlers.resolve call = some handler) (world : World (Recorded Bridge)) :
    (callHandler config.recording call world).2.publishView =
      (world.server.clients, world.server.clientChannels,
        world.bridge.trace ++ call.occurrences (handler world.bridge.bridge).outcome) := by
  have resolved : config.recording.handlers.resolve call = some (recordReply call handler) := by
    change config.handlers.recording.resolve call = _
    rw [ServerHandlers.resolve_recording, registered, Option.map_some]
  have clients := callHandler_frame Server.clients (fun _ => rfl) config.recording call world
  have channels := callHandler_frame Server.clientChannels (fun _ => rfl)
      config.recording call world
  refine Prod.ext clients (Prod.ext channels ?_)
  change (callHandler config.recording call world).2.bridge.trace = _
  rw [callHandler_bridge resolved]
  rfl

theorem callHandler_recording_of_none (missing : config.handlers.resolve call = none)
    (world : World (Recorded Bridge)) :
    callHandler config.recording call world =
      (.error (.raised (.std "bad_function_call")), world) := by
  apply callHandler_of_none
  change config.handlers.recording.resolve call = none
  rw [ServerHandlers.resolve_recording, missing, Option.map_none]

/-- A call that leaves nothing in the record, whatever its outcome. -/
theorem callHandler_unrecorded (silent : ∀ outcome, call.occurrences outcome = []) :
    (callHandler config.recording call).Meets (.frame World.publishView) := by
  intro world
  rcases registered : config.handlers.resolve call with _ | handler
  · rw [callHandler_recording_of_none registered]
    rfl
  · change (callHandler config.recording call world).2.publishView = world.publishView
    rw [callHandler_publishView registered, silent, List.append_nil]
    rfl

end Calls

end

/-!
## Client publishing is gated by advertisements

The two tables of client publications agree, and each stored advertisement is
backed by the record: the bridge accepted it for a client that had logged in, out of
a request that listed it, and neither a withdrawal nor a disconnect followed. A
message is passed on with a stored advertisement only.
-/

open Trace Table

variable {Bridge : Type}

/-- One entry of an advertise request, read as a whole. -/
def advertisementOf (chan : Json) : Except Fault ClientAdvertisement := do
  let channelId ← chan.atKey "id" >>= Json.getUInt32
  let topic ← chan.atKey "topic" >>= Json.getString
  let encoding ← chan.atKey "encoding" >>= Json.getString
  let schemaName ← chan.atKey "schemaName" >>= Json.getString
  pure { channelId := channelId, topic := topic, encoding := encoding,
         schemaName := schemaName, schema := [] }

/-- The request lists the advertisement. -/
def Lists (payload : Json) (advertisement : ClientAdvertisement) : Prop :=
  ∃ channels, payload.atKey "channels" = .ok channels ∧
    ∃ chan ∈ channels.elements, advertisementOf chan = .ok advertisement

/-- The connection logged in and was not closed since. -/
def LoggedIn (trace : List Occurrence) (hdl : ConnHandle) : Prop :=
  Since (· ≠ .closed hdl) (fun _ item => item = .loggedIn hdl) trace

/-- The bridge accepted the advertisement, for a client that had logged in, out of an
earlier request that listed it, with a whitelisted topic. -/
def AcceptedFor (options : ServerOptions) (hdl : ConnHandle) (advertisement : ClientAdvertisement)
    (before : List Occurrence) (item : Occurrence) : Prop :=
  item = .advertised advertisement hdl ∧
    isWhitelisted advertisement.topic options.clientTopicWhitelistPatterns = true ∧
    (∃ payload, .request payload hdl ∈ before ∧ Lists payload advertisement) ∧
    LoggedIn before hdl

/-- Neither a withdrawal of the channel nor a disconnect. -/
def KeepsChannel (hdl : ConnHandle) (channelId : ClientChannelId) (item : Occurrence) : Prop :=
  item ≠ .unadvertised channelId hdl ∧ item ≠ .closed hdl

/-- The advertisement was accepted and is still in force. -/
def Backed (options : ServerOptions) (hdl : ConnHandle) (advertisement : ClientAdvertisement)
    (trace : List Occurrence) : Prop :=
  Since (KeepsChannel hdl advertisement.channelId) (AcceptedFor options hdl advertisement) trace

/-- Messages are passed on with advertisements in force. -/
def MessagesBacked (options : ServerOptions) : List Occurrence → Prop :=
  Always fun before item => ∀ message hdl, item = .message message hdl →
    Backed options hdl message.advertisement before

/-- The tables and the record agree, except for connections whose disconnect is under
way. -/
structure Gated (options : ServerOptions) (leaving : ConnHandle → Prop)
    (world : World (Recorded Bridge)) : Prop where
  agree : ∀ hdl client, world.server.clients.lookup hdl = some client →
    ∀ channelId, channelId ∈ world.server.publications hdl ↔ channelId ∈ client.advertisedChannels
  absent : ∀ hdl, hdl ∉ world.server.clients → ¬ leaving hdl →
    ∀ channelId, channelId ∉ world.server.publications hdl
  backed : ∀ hdl channelId advertisement, ¬ leaving hdl →
    (world.server.publications hdl).lookup channelId = some advertisement →
      advertisement.channelId = channelId ∧ Backed options hdl advertisement world.bridge.trace
  loggedIn : ∀ hdl ∈ world.server.clients, LoggedIn world.bridge.trace hdl
  messages : MessagesBacked options world.bridge.trace
  unregistered : ∀ hdl, leaving hdl → hdl ∉ world.server.clients

section Record

variable {options : ServerOptions} {leaving : ConnHandle → Prop}
  {world next : World (Recorded Bridge)}

/-- What may be added to the record while the tables stay: no withdrawal of a stored
channel and no disconnect of a connection that is not leaving, and messages that are
backed. -/
structure Recordable (options : ServerOptions) (leaving : ConnHandle → Prop)
    (world : World (Recorded Bridge)) (item : Occurrence) : Prop where
  withdrawal : ∀ channelId hdl, item = .unadvertised channelId hdl →
    leaving hdl ∨ channelId ∉ world.server.publications hdl
  closed : ∀ hdl, item = .closed hdl → leaving hdl
  message : ∀ message hdl, item = .message message hdl →
    Backed options hdl message.advertisement world.bridge.trace

/-- The tables stay and the record grows. -/
theorem Gated.grow (gated : Gated options leaving world)
    (clients : next.server.clients = world.server.clients)
    (publications : ∀ hdl, next.server.publications hdl = world.server.publications hdl)
    {items : List Occurrence} (trace : next.bridge.trace = world.bridge.trace ++ items)
    (one : items.length ≤ 1) (recordable : ∀ item ∈ items, Recordable options leaving world item) :
    Gated options leaving next := by
  constructor
  · simpa only [clients, publications] using gated.agree
  · simpa only [clients, publications] using gated.absent
  · intro hdl channelId advertisement stays found
    rw [publications] at found
    obtain ⟨same, backed⟩ := gated.backed hdl channelId advertisement stays found
    refine ⟨same, ?_⟩
    rw [trace]
    refine backed.append fun item member => ⟨fun withdrawn => ?_, fun closed => ?_⟩
    · rcases (recordable item member).withdrawal _ _ withdrawn with left | missing
      · exact stays left
      · exact missing (same ▸ mem_of_lookup found)
    · exact stays ((recordable item member).closed _ closed)
  · intro hdl registered
    rw [clients] at registered
    rw [trace]
    refine (gated.loggedIn hdl registered).append fun item member closed => ?_
    exact gated.unregistered hdl ((recordable item member).closed _ closed) registered
  · rw [trace]
    rcases items with _ | ⟨item, rest⟩
    · simpa using gated.messages
    · obtain rfl : rest = [] := by simpa using one
      exact (always_concat _ _).mpr ⟨gated.messages, (recordable item List.mem_cons_self).message⟩
  · simpa only [clients] using gated.unregistered

theorem Gated.of_view (gated : Gated options leaving world)
    (view : next.publishView = world.publishView) : Gated options leaving next := by
  have channels : next.server.clientChannels = world.server.clientChannels := congrArg (·.2.1) view
  have trace : next.bridge.trace = world.bridge.trace ++ [] := by
    rw [List.append_nil]
    exact congrArg (·.2.2) view
  apply gated.grow (congrArg (·.1) view) _ trace (Nat.zero_le 1)
  · exact fun item member => nomatch member
  · intro hdl
    unfold Server.publications
    rw [channels]

theorem Gated.record (gated : Gated options leaving world) {recorded : Recorded Bridge}
    {items : List Occurrence} (trace : recorded.trace = world.bridge.trace ++ items)
    (one : items.length ≤ 1) (recordable : ∀ item ∈ items, Recordable options leaving world item) :
    Gated options leaving { world with bridge := recorded } := by
  have server : World.server { world with bridge := recorded } = world.server := rfl
  exact gated.grow (congrArg Server.clients server)
    (fun hdl => congrArg (·.publications hdl) server)
    trace one recordable

theorem Gated.note (gated : Gated options leaving world) {item : Occurrence}
    (recordable : Recordable options leaving world item) :
    Gated options leaving (world.note item) := by
  have trace : (world.note item).bridge.trace = world.bridge.trace ++ [item] := rfl
  apply gated.record trace (Nat.le_refl 1)
  intro other member
  rw [List.mem_singleton.mp member]
  exact recordable

/-- A connection that is not registered may be on its way out. -/
theorem Gated.leave (gated : Gated options (fun _ => False) world) {hdl : ConnHandle}
    (missing : hdl ∉ world.server.clients) : Gated options (· = hdl) world where
  agree := gated.agree
  absent other unregistered _ := gated.absent other unregistered id
  backed other channelId advertisement _ found :=
    gated.backed other channelId advertisement id found
  loggedIn := gated.loggedIn
  messages := gated.messages
  unregistered other same := by
    subst same
    exact missing

/-- A connection whose disconnect is finished stops leaving. -/
theorem Gated.settle (gated : Gated options leaving world)
    (gone : ∀ hdl, leaving hdl → ∀ channelId, channelId ∉ world.server.publications hdl) :
    Gated options (fun _ => False) world where
  agree := gated.agree
  absent hdl missing _ := by
    by_cases left : leaving hdl
    · exact gone hdl left
    · exact gated.absent hdl missing left
  backed hdl channelId advertisement _ found := by
    by_cases left : leaving hdl
    · exact absurd (mem_of_lookup found) (gone hdl left channelId)
    · exact gated.backed hdl channelId advertisement left found
  loggedIn := gated.loggedIn
  messages := gated.messages
  unregistered _ left := left.elim

end Record

section Tables

variable {options : ServerOptions} {world : World (Recorded Bridge)}

theorem Server.publications_modify {server : Server} {hdl : ConnHandle}
    (opened : hdl ∈ server.clientChannels) (other : ConnHandle)
    (change : Table ClientChannelId ClientAdvertisement →
      Table ClientChannelId ClientAdvertisement) :
    (server.modifyPublications hdl change).publications other =
      if other = hdl then change (server.publications hdl) else server.publications other := by
  obtain ⟨publications, found⟩ := (mem_iff_lookup _ _).mp opened
  unfold Server.publications Server.modifyPublications
  rw [lookup_modify, found]
  by_cases same : other = hdl
  · rw [if_pos same, if_pos same]
    rfl
  · rw [if_neg same, if_neg same]

theorem Server.publications_open (server : Server) (hdl other : ConnHandle) :
    (server.openPublications hdl).publications other = server.publications other := by
  unfold Server.publications Server.openPublications
  rw [lookup_emplace]
  by_cases same : other = hdl
  · rw [if_pos same, same]
    rcases server.clientChannels.lookup hdl with _ | publications <;> rfl
  · rw [if_neg same]

theorem Server.publications_erase (server : Server) (hdl other : ConnHandle) :
    (server.eraseClientChannels hdl).publications other =
      if other = hdl then ∅ else server.publications other := by
  unfold Server.publications Server.eraseClientChannels
  rw [lookup_erase_ite]
  split <;> rfl

theorem Gated.openPublications {leaving : ConnHandle → Prop} (gated : Gated options leaving world)
    (hdl : ConnHandle) :
    Gated options leaving { world with server := world.server.openPublications hdl } where
  agree other client found := by
    rw [Server.publications_open]
    exact gated.agree other client found
  absent other missing stays := by
    rw [Server.publications_open]
    exact gated.absent other missing stays
  backed other channelId advertisement stays found := by
    rw [Server.publications_open] at found
    exact gated.backed other channelId advertisement stays found
  loggedIn := gated.loggedIn
  messages := gated.messages
  unregistered := gated.unregistered

/-- Both tables change for one registered client, in the same way. -/
theorem Gated.modify (gated : Gated options (fun _ => False) world) {hdl : ConnHandle}
    {client : ClientInfo} (found : world.server.clients.lookup hdl = some client)
    (opened : hdl ∈ world.server.clientChannels) {change : ClientInfo → ClientInfo}
    {publish : Table ClientChannelId ClientAdvertisement →
      Table ClientChannelId ClientAdvertisement}
    (agree : ∀ channelId, channelId ∈ publish (world.server.publications hdl) ↔
      channelId ∈ (change client).advertisedChannels)
    (backed : ∀ channelId advertisement,
      (publish (world.server.publications hdl)).lookup channelId = some advertisement →
        (world.server.publications hdl).lookup channelId = some advertisement ∨
          advertisement.channelId = channelId ∧
            Backed options hdl advertisement world.bridge.trace) :
    Gated options (fun _ => False) { world with
      server := (world.server.modifyClient hdl change).modifyPublications hdl publish } := by
  have publications (other : ConnHandle) :
      ((world.server.modifyClient hdl change).modifyPublications hdl publish).publications other =
        if other = hdl then publish (world.server.publications hdl)
        else world.server.publications other :=
    (world.server.modifyClient hdl change).publications_modify opened other publish
  constructor
  · intro other record stored channelId
    change AList.lookup other (world.server.clients.modify hdl change) = some record at stored
    rw [publications]
    rw [lookup_modify] at stored
    split at stored
    · next same =>
      rw [found] at stored
      obtain rfl := Option.some.inj stored
      rw [if_pos same]
      exact agree channelId
    · next different =>
      rw [if_neg different]
      exact gated.agree other record stored channelId
  · intro other missing _ channelId
    have before : other ∉ world.server.clients := by
      simpa [Server.modifyClient, Server.modifyPublications] using missing
    have different : other ≠ hdl := by
      rintro rfl
      exact before (mem_of_lookup found)
    rw [publications, if_neg different]
    exact gated.absent other before id channelId
  · intro other channelId advertisement _ stored
    rw [publications] at stored
    split at stored
    · next same =>
      subst same
      exact (backed channelId advertisement stored).elim
        (gated.backed other channelId advertisement id) id
    · exact gated.backed other channelId advertisement id stored
  · intro other registered
    apply gated.loggedIn other
    simpa [Server.modifyClient, Server.modifyPublications] using registered
  · exact gated.messages
  · exact fun _ left => left.elim

/-- The disconnect of a registered client begins. -/
theorem Gated.eraseClient (gated : Gated options (fun _ => False) world) (hdl : ConnHandle) :
    Gated options (· = hdl) { world with server := world.server.eraseClient hdl } where
  agree other client stored := by
    change AList.lookup other (world.server.clients.erase hdl) = some client at stored
    rw [lookup_erase_ite] at stored
    split at stored
    · cases stored
    · exact gated.agree other client stored
  absent other missing stays := by
    apply gated.absent other _ id
    intro registered
    exact missing (AList.mem_erase.mpr ⟨stays, registered⟩)
  backed other channelId advertisement _ found :=
    gated.backed other channelId advertisement id found
  loggedIn other registered := gated.loggedIn other (AList.mem_erase.mp registered).2
  messages := gated.messages
  unregistered other same registered := (AList.mem_erase.mp registered).1 same

/-- A leaving connection loses its publications. -/
theorem Gated.eraseClientChannels {hdl : ConnHandle} (gated : Gated options (· = hdl) world) :
    Gated options (· = hdl) { world with server := world.server.eraseClientChannels hdl } where
  agree other client stored := by
    have different : other ≠ hdl := fun same =>
      gated.unregistered other same (mem_of_lookup stored)
    rw [Server.publications_erase, if_neg different]
    exact gated.agree other client stored
  absent other missing stays := by
    rw [Server.publications_erase, if_neg stays]
    exact gated.absent other missing stays
  backed other channelId advertisement stays found := by
    rw [Server.publications_erase, if_neg stays] at found
    exact gated.backed other channelId advertisement stays found
  loggedIn := gated.loggedIn
  messages := gated.messages
  unregistered := gated.unregistered

end Tables

end CoBridge

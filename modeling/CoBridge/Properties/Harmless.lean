import CoBridge.Server.ParameterCalls

/-!
# Requests without an effect

`Unaffected` says that processing a request left the client tables and the
record of handler calls as they were. For a request that lists several entries
this is decided entry by entry: `Tolerated` reads off the verdicts on the
entries whether the loop ends before any of them takes effect.
-/

namespace CoBridge

open Library Action

section

variable {Bridge Value Item : Type}
variable {world : World Bridge} (hdl : ConnHandle)

/-- The tables a client's request may change and the handlers called so far. -/
structure Footprint where
  clients : Table ConnHandle ClientInfo
  clientChannels : Table ConnHandle (Table ClientChannelId ClientAdvertisement)
  clientParamSubscriptions : Table ConnHandle (KeySet String)
  subscriptionCount : Int
  calls : List HandlerCall

def World.footprint (world : World Bridge) : Footprint where
  clients := world.server.clients
  clientChannels := world.server.clientChannels
  clientParamSubscriptions := world.server.clientParamSubscriptions
  subscriptionCount := world.server.subscriptionCount
  calls := world.calls

/-- The action leaves the footprint as it is and its behaviour is defined. -/
def Unaffected (action : ServerAction Bridge Value) (world : World Bridge) : Prop :=
  (action world).2.footprint = world.footprint ∧ (action world).1 ≠ .error .undefinedBehavior

/-- The computation ends with an exception. -/
def Raises (result : Except Fault Value) : Prop := ∃ exception, result = .error (.raised exception)

/-- A longer record of calls is an effect. -/
theorem not_unaffected_of_calls {action : ServerAction Bridge Value}
    (longer : world.calls.length < (action world).2.calls.length) : ¬Unaffected action world := by
  rintro ⟨same, _⟩
  have calls : (action world).2.calls = world.calls := congrArg Footprint.calls same
  rw [calls] at longer
  exact Nat.lt_irrefl _ longer

theorem unaffected_pure (value : Value) (world : World Bridge) :
    Unaffected (pure value) world := ⟨rfl, by simp⟩

theorem World.enqueue_footprint (world : World Bridge) (hdl : ConnHandle)
    (message : ServerMessage) : (world.enqueue hdl message).footprint = world.footprint := by
  simp [World.footprint]

theorem unaffected_sendStatusAndLogMsg (level : StatusLevel) (message : String)
    (world : World Bridge) :
    Unaffected (sendStatusAndLogMsg hdl level message) world := by
  unfold Unaffected
  rw [sendStatusAndLogMsg_apply]
  exact ⟨world.enqueue_footprint hdl _, by simp⟩

/-- Reading arguments has no effect, so an exception there is harmless. -/
theorem unaffected_ofExcept_bind_iff {Result : Type} (parsed : Except Fault Value)
    (next : Value → ServerAction Bridge Result) (world : World Bridge) :
    Unaffected (Action.ofExcept parsed >>= next) world ↔
      Raises parsed ∨ ∃ value, parsed = .ok value ∧ Unaffected (next value) world := by
  rcases parsed with (exception | _) | value
  · simp [Unaffected, Raises]
  · simp [Unaffected, Raises]
  · simp [Unaffected, Raises]

/-- Catching exceptions with a status message does not change the matter. -/
theorem unaffected_catchAll_iff {body : ServerAction Bridge Unit}
    {level : Exception → StatusLevel} {text : Exception → String} {hdl : ConnHandle}
    (world : World Bridge) :
    Unaffected (catchAll body fun exception =>
        sendStatusAndLogMsg hdl (level exception) (text exception)) world ↔
      Unaffected body world := by
  unfold Unaffected
  rw [catchAll_apply]
  rcases body world with ⟨(exception | _) | _, reached⟩
  · simp [World.enqueue_footprint]
  · simp
  · simp

theorem not_unaffected_callHandler {config : Config Bridge} {call : HandlerCall}
    (registered : (config.handlers.resolve call).isSome) (world : World Bridge) :
    ¬Unaffected (callHandler config call) world := by
  obtain ⟨handler, resolved⟩ := Option.isSome_iff_exists.mp registered
  apply not_unaffected_of_calls
  rw [callHandler_calls resolved, List.length_append]
  exact Nat.lt_succ_self _

/-- The action keeps the tables and the calls in every world, and is defined there. -/
def Silent (action : ServerAction Bridge Value) : Prop :=
  ∀ world, (action world).2.server = world.server ∧ (action world).2.calls = world.calls ∧
    (action world).1 ≠ .error .undefinedBehavior

theorem Silent.bind {Result : Type} {first : ServerAction Bridge Value}
    {next : Value → ServerAction Bridge Result} (firstSilent : Silent first)
    (nextSilent : ∀ value, Silent (next value)) : Silent (first >>= next) := by
  intro world
  have here := firstSilent world
  rw [bind_apply]
  revert here
  rcases first world with ⟨fault | value, reached⟩
  · rintro ⟨server, calls, defined⟩
    exact ⟨server, calls, fun same => defined (by simpa using same)⟩
  · rintro ⟨server, calls, _⟩
    obtain ⟨nextServer, nextCalls, nextDefined⟩ := nextSilent value reached
    exact ⟨nextServer.trans server, nextCalls.trans calls, nextDefined⟩

theorem silent_gets (field : World Bridge → Value) :
    Silent (Action.gets field : ServerAction Bridge Value) :=
  fun _ => ⟨rfl, rfl, by simp⟩

theorem silent_sendJson (message : ServerMessage) (dumped : Except Exception Unit) :
    Silent (sendJson hdl message dumped : ServerAction Bridge Unit) := by
  intro world
  cases dumped with
  | ok _ =>
    rw [sendJson_apply]
    exact ⟨world.enqueue_server hdl message, world.enqueue_calls hdl message, by simp⟩
  | error exception =>
    rw [sendJson_error]
    exact ⟨rfl, rfl, by simp⟩

theorem silent_sendServerInfo (config : Config Bridge) (hdl : ConnHandle) :
    Silent (sendServerInfo config hdl) := by
  apply Silent.bind
  · intro world
    rw [getConFromHdl_apply]
    split <;> simp
  · intro _ world
    exact ⟨world.enqueue_server hdl _, world.enqueue_calls hdl _, by simp⟩

/-- What one entry of a request meets with. -/
inductive Verdict where
  /-- Answered with a status message; the next entry follows. -/
  | refused
  /-- Cannot be read: an exception ends the request. -/
  | malformed
  /-- Handed to the bridge. -/
  | accepted
  /-- Reading it is undefined behaviour. -/
  | undefined
deriving DecidableEq, Repr

/-- The verdict on an entry that is read and then accepted or refused. -/
def Verdict.of (parsed : Except Fault Value) (accepts : Value → Bool) : Verdict :=
  match parsed with
  | .ok value => if accepts value then .accepted else .refused
  | .error (.raised _) => .malformed
  | .error .undefinedBehavior => .undefined

/-- No entry takes effect before the list or the request ends. -/
def Tolerated : List Verdict → Prop
  | [] => True
  | .refused :: rest => Tolerated rest
  | .malformed :: _ => True
  | .accepted :: _ => False
  | .undefined :: _ => False

/-- The action does what the verdict says. -/
def Verdict.Describes (verdict : Verdict) (action : ServerAction Bridge Unit)
    (world : World Bridge) : Prop :=
  match verdict with
  | .refused => ∃ reached, action world = (.ok (), reached) ∧ reached.server = world.server ∧
      reached.calls = world.calls
  | .malformed => ∃ exception, action world = (.error (.raised exception), world)
  | .accepted => world.calls.length < (action world).2.calls.length
  | .undefined => (action world).1 = .error .undefinedBehavior

theorem Verdict.Describes.congr {verdict : Verdict} {action other : ServerAction Bridge Unit}
    (described : verdict.Describes other world) (same : action world = other world) :
    verdict.Describes action world := by
  unfold Verdict.Describes at described ⊢
  rw [same]
  exact described

theorem describes_refused_status (level : StatusLevel) (message : String) (world : World Bridge) :
    Verdict.refused.Describes (sendStatusAndLogMsg hdl level message) world :=
  ⟨_, sendStatusAndLogMsg_apply hdl level message world, World.enqueue_server world hdl _,
    World.enqueue_calls world hdl _⟩

/-- Verdicts on an entry that is read first. -/
theorem describes_ofExcept_bind {parsed : Except Fault Value} {accepts : Value → Bool}
    {next : Value → ServerAction Bridge Unit} (decided : ∀ value, parsed = .ok value →
      (if accepts value then Verdict.accepted else Verdict.refused).Describes (next value) world) :
    (Verdict.of parsed accepts).Describes (Action.ofExcept parsed >>= next) world := by
  rcases parsed with (exception | _) | value
  · exact ⟨exception, rfl⟩
  · rfl
  · exact decided value rfl

/-- A loop is without effect exactly when the verdicts on its entries are tolerated. -/
theorem unaffected_forEach_iff {items : List Item} {body : Item → ServerAction Bridge Unit}
    {verdict : Item → Verdict}
    (described : ∀ item ∈ items, ∀ reached : World Bridge, reached.server = world.server →
      (verdict item).Describes (body item) reached)
    (grows : ∀ item ∈ items, (body item).Meets callsGrow) :
    Unaffected (Action.forEach items body) world ↔ Tolerated (items.map verdict) := by
  -- The loop is followed from any world with the tables and the calls of `world`.
  suffices generalized : ∀ reached : World Bridge, reached.server = world.server →
      (Unaffected (Action.forEach items body) reached ↔ Tolerated (items.map verdict)) from
    generalized world rfl
  induction items with
  | nil => exact fun reached _ => ⟨fun _ => trivial, fun _ => unaffected_pure () reached⟩
  | cons item rest ih =>
    intro reached sameServer
    have here := described item List.mem_cons_self reached sameServer
    have restIff := ih
      (fun other member => described other (List.mem_cons_of_mem _ member))
      (fun other member => grows other (List.mem_cons_of_mem _ member))
    rw [List.map_cons, forEach_cons]
    rcases decided : verdict item with _ | _ | _ | _
    · rw [decided] at here
      obtain ⟨next, done, nextServer, nextCalls⟩ := here
      have sameFootprint : next.footprint = reached.footprint := by
        simp only [World.footprint, nextServer, nextCalls]
      have continued := restIff next (nextServer.trans sameServer)
      rw [Tolerated, ← continued]
      unfold Unaffected
      rw [bind_ok done, sameFootprint]
    · rw [decided] at here
      obtain ⟨exception, failed⟩ := here
      refine ⟨fun _ => trivial, fun _ => ?_⟩
      unfold Unaffected
      rw [bind_error failed]
      exact ⟨rfl, by simp⟩
    · rw [decided] at here
      refine ⟨fun unaffected => ?_, False.elim⟩
      have longer : reached.calls.length <
          ((body item >>= fun _ => Action.forEach rest body) reached).2.calls.length := by
        apply Nat.lt_of_lt_of_le here
        rw [bind_apply]
        rcases body item reached with ⟨_ | value, middle⟩
        · exact Nat.le_refl _
        · exact meets_forEach
            (fun other member => grows other (List.mem_cons_of_mem _ member)) middle
      exact not_unaffected_of_calls longer unaffected
    · rw [decided] at here
      have undefined : (body item reached).1 = .error .undefinedBehavior := here
      refine ⟨fun unaffected => ?_, False.elim⟩
      apply unaffected.2
      rw [bind_apply]
      revert undefined
      rcases body item reached with ⟨fault | value, middle⟩
      · exact id
      · exact fun impossible => nomatch impossible

end

/-!
## Harmless messages

No operation looks at the login flag, and several change a table or call a
handler before they notice that the connection is not registered at all.
`Harmless` says, in terms of the message and the tables before it, which messages
leave the session alone all the same.
-/

variable {Bridge : Type}

/-- The connection logged in and no other has logged in since. -/
def Server.holdsLogin (server : Server) (hdl : ConnHandle) : Bool :=
  (server.clients.lookup hdl).any ClientInfo.login

/-- The operation text of a frame. -/
def ClientFrame.op? (config : Config Bridge) : ClientFrame → Option String
  | .text bytes =>
    match config.parse bytes with
    | .ok payload => (payload.atKey "op" >>= Json.getString).toOption
    | .error _ => none
  | .binary _ => none
  | .control => none

/-- The entries listed in a request end it, or the list, before any takes effect. -/
def EntriesTolerated (listed : Except Fault Json) (verdict : Json → Verdict) : Prop :=
  Raises listed ∨ ∃ json, listed = .ok json ∧ Tolerated (json.elements.map verdict)

def subscribeVerdict (server : Server) (subscriptionsByChannel : Table ChannelId SubscriptionId)
    (sub : Json) : Verdict :=
  .of (subscriptionEntry sub) fun entry =>
    (findSubscriptionBySubId subscriptionsByChannel entry.1).isNone &&
      decide (entry.2 ∈ server.channels)

def unsubscribeVerdict (subscriptionsByChannel : Table ChannelId SubscriptionId)
    (subIdJson : Json) : Verdict :=
  .of subIdJson.getUInt32 fun subId => (findSubscriptionBySubId subscriptionsByChannel subId).isSome

def advertiseVerdict (options : ServerOptions)
    (publications : Table ClientChannelId ClientAdvertisement) (chan : Json) : Verdict :=
  .of (advertiseDecision options false publications chan) Sum.isRight

def unadvertiseVerdict (publications : Table ClientChannelId ClientAdvertisement)
    (chanIdJson : Json) : Verdict :=
  .of chanIdJson.getUInt32 fun channelId => decide (channelId ∈ publications)

/-- A request handled as a login: it cannot be read, or it logs nobody out and
registers nobody. -/
def LoginHarmless (world : World Bridge) (hdl : ConnHandle) (payload : Json) : Prop :=
  Raises (payload.atKey "username" >>= Json.getString) ∨
    Raises (payload.atKey "userId" >>= Json.getString) ∨
    (∀ other ∈ world.kicked world.server.clients.keys, world.server.holdsLogin other = false) ∧
      (hdl ∈ world.server.clients ∨ ∃ other ∈ world.server.clients.keys, world.link other = .gone)

/-- The requests that leave the session alone, by operation. -/
def OperationHarmless (config : Config Bridge) (world : World Bridge) (hdl : ConnHandle)
    (payload : Json) : Operation → Prop
  | .login => LoginHarmless world hdl payload
  | .subscribe => ∀ client, world.server.clients.lookup hdl = some client →
      EntriesTolerated (payload.atKey "subscriptions")
        (subscribeVerdict world.server client.subscriptionsByChannel)
  | .unsubscribe => ∀ client, world.server.clients.lookup hdl = some client →
      EntriesTolerated (payload.atKey "subscriptionIds")
        (unsubscribeVerdict client.subscriptionsByChannel)
  | .advertise => hdl ∈ world.server.clientChannels ∧
      EntriesTolerated (payload.atKey "channels")
        (advertiseVerdict config.options (world.server.publications hdl))
  | .unadvertise => hdl ∈ world.server.clientChannels →
      EntriesTolerated (payload.atKey "channelIds")
        (unadvertiseVerdict (world.server.publications hdl))
  | .getParameters => Raises (getParametersArguments payload)
  | .setParameters => Raises (setParametersArguments payload)
  | .subscribeParameterUpdates => Raises (parameterNameSet payload) ∨
      ∃ names, parameterNameSet payload = .ok names ∧
        hdl ∈ world.server.clientParamSubscriptions ∧
        ∀ name ∈ names, name ∈ world.server.paramSubscriptions hdl
  | .unsubscribeParameterUpdates => Raises (parameterNameSet payload) ∨
      ∃ names, parameterNameSet payload = .ok names ∧
        hdl ∈ world.server.clientParamSubscriptions ∧
        ∀ name ∈ names, name ∉ world.server.paramSubscriptions hdl ∧
          world.server.isParameterSubscribed name
  | .subscribeConnectionGraph => False
  | .unsubscribeConnectionGraph => ∀ client, world.server.clients.lookup hdl = some client →
      client.subscribedToConnectionGraph = false
  | .fetchAsset => Raises (fetchAssetArguments payload)

/-- A text frame that does not reach an operation, or reaches a harmless one. -/
def TextHarmless (config : Config Bridge) (world : World Bridge) (hdl : ConnHandle)
    (bytes : List UInt8) : Prop :=
  ∀ payload op operation, config.parse bytes = .ok payload →
    (payload.atKey "op" >>= Json.getString) = .ok op →
    (∀ capability, capabilityByClientOperation op = some capability →
      hasCapability config capability) →
    config.operation? op = some operation → hasHandler config operation →
    OperationHarmless config world hdl payload operation

/-- A binary frame for which no handler is called. -/
def BinaryHarmless (config : Config Bridge) (world : World Bridge) (hdl : ConnHandle)
    (data : List UInt8) : Prop :=
  match data with
  | [] => True
  | first :: rest =>
    match ClientBinaryOpcode.ofByte first with
    | .messageData =>
      hasCapability config capabilityClientPublish = false ∨
        config.handlers.clientMessageHandler = none ∨ rest.length < 4 ∨
        readUInt32LE rest ∉ world.server.publications hdl
    | .serviceCallRequest =>
      hasCapability config capabilityServices = false ∨
        config.handlers.serviceRequestHandler = none ∨
        ∀ request, ServiceRequest.read rest = .ok request →
          request.serviceId ∉ world.server.services
    | .unrecognized _ => True

/-- The messages that leave the session alone. -/
def Harmless (config : Config Bridge) (world : World Bridge) (hdl : ConnHandle) :
    ClientFrame → Prop
  | .text bytes => TextHarmless config world hdl bytes
  | .binary data => BinaryHarmless config world hdl data
  | .control => True

section Lists

variable {config : Config Bridge} {world : World Bridge} {hdl : ConnHandle} {payload : Json}

/-- A request that reads a list and loops over its entries. -/
theorem unaffected_entries_iff {listed : Except Fault Json}
    {body : Json → ServerAction Bridge Unit} {verdict : Json → Verdict}
    (described : ∀ item, ∀ reached : World Bridge, reached.server = world.server →
      (verdict item).Describes (body item) reached)
    (grows : ∀ item, (body item).Meets callsGrow) :
    Unaffected (Action.ofExcept listed >>= fun json => Action.forEach json.elements body) world ↔
      EntriesTolerated listed verdict := by
  rw [unaffected_ofExcept_bind_iff]
  unfold EntriesTolerated
  have loops : ∀ json : Json, Unaffected (Action.forEach json.elements body) world ↔
      Tolerated (json.elements.map verdict) := fun json =>
    unaffected_forEach_iff (fun item _ => described item) fun item _ => grows item
  simp only [loops]

/-- Looking up the client has no effect. -/
theorem unaffected_clientAt_bind_iff {next : ClientInfo → ServerAction Bridge Unit} :
    Unaffected (clientAt hdl >>= next) world ↔
      ∀ client, world.server.clients.lookup hdl = some client → Unaffected (next client) world := by
  unfold Unaffected
  rw [Action.bind_apply, clientAt_apply]
  rcases world.server.clients.lookup hdl with _ | client
  · simp
  · simp

end Lists

end CoBridge
